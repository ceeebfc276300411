import StoryValues.Proofs.Value.Keys
import StoryValues.Proofs.Value.Sides

/-
  MATCHING EXTENDS EQUALITY, but for spread datatypes that do not take themselves.

  What is equal matches: where a datatype stands for its values it still stands for itself, because a datatype
  that does not claim the other side is left to equality.  The exception is a spread datatype in an array.  It
  takes the values that it accepts, and it is not compared with anything; so it takes itself only if it accepts
  datatypes, which two of them do (`Datatype.holdsTypes`).  An array of any other one does not even match itself
  (`isMatch_loneSpread`, `numbers_not_match`).

  1. **Equal values are not told apart** (`mayMatch_of_equal`): of two arrays, the pattern can be laid with one
     value for each of its elements, and the members of datasets can be paired off with their equals.
  2. **Where matching answers.**  A search may meet what stops it: an integer that is too large for a double, or a
     pattern that repeats too often.  Without a search there is nothing to stop at.  Items are compared place by
     place if no spread datatype is among them, and members come in one order if none tie (`Value.Steady`).
  3. **The whole** (`isMatch_extends_equals`).
-/

namespace StoryValues

/-! ## Spread datatypes -/

namespace Datatype

/-- The source of a pattern starts with the mark of something spread or with a bracket.  So patterns that are the
same, being of one source, are both spread or both are not. -/
theorem head?_source_pattern (shape : Shape) (parts : List Fragment) (folded spread : Bool) :
    (pattern shape parts folded spread).source.toList.head? = some (if spread then '.' else '(') := by
  rw [source]
  cases spread <;> simp [dots]

/-- Datatypes that are the same are both spread, or neither is: for patterns it shows at the start of their source. -/
theorem isSpread_of_same {d e : Datatype} (h : d.same e = true) : d.isSpread = e.isSpread := by
  cases d with
  | named n s =>
    cases e with
    | named m t =>
      obtain ⟨-, rfl⟩ : n = m ∧ s = t := by simpa [same] using h
      rfl
    | pattern => cases h
  | pattern shape parts folded s =>
    cases e with
    | named => cases h
    | pattern shape' parts' folded' t =>
      have hsource := source_of_same h
      have hhead := congrArg (fun text => text.toList.head?) hsource
      simp only [head?_source_pattern] at hhead
      cases s <;> cases t <;> first | rfl | exact absurd (Option.some.inj hhead) (by decide)

/-- Datatypes that are the same accept datatypes both, or neither does. -/
theorem holdsTypes_of_same {d e : Datatype} (h : d.same e = true) : d.holdsTypes = e.holdsTypes := by
  cases d with
  | named n s =>
    cases e with
    | named m t =>
      obtain ⟨rfl, -⟩ : n = m ∧ s = t := by simpa [same] using h
      rfl
    | pattern => cases h
  | pattern =>
    cases e with
    | named => cases h
    | pattern => rfl

/-- What accepts datatypes can be asked. -/
theorem usable_of_holdsTypes {d : Datatype} (h : d.holdsTypes = true) : d.Usable := by
  cases d with
  | named name spread =>
    rcases Bool.or_eq_true_iff.mp h with h | h
    · obtain rfl := beq_iff_eq.mp h
      rfl
    · obtain rfl := beq_iff_eq.mp h
      rfl
  | pattern => cases h

end Datatype

namespace Value

variable {settings : Settings} {l r : Value}

/-- An array whose spread datatypes accept datatypes, and so take themselves; or any other value. -/
def TakesSelf : Value → Prop
  | .array items => ∀ d, .datatype d ∈ items → d.isSpread = true → d.holdsTypes = true
  | _ => True

/-- What is a spread datatype holds one. -/
theorem exists_spread {v : Value} (h : v.isSpreadType = true) : ∃ d, v = .datatype d ∧ d.isSpread = true := by
  cases v with
  | datatype d => exact ⟨d, rfl, h⟩
  | _ => cases h

/-- What a datatype on the left is equal to is a datatype that is the same. -/
theorem same_of_equal_left {d : Datatype} {v : Value} (h : Equal (.datatype d) v) :
    ∃ e, v = .datatype e ∧ d.same e = true := by
  cases agree_of_equal h with
  | individual hself => exact absurd hself Bool.false_ne_true
  | @datatype _ e hsame => exact ⟨e, rfl, hsame⟩

/-- What is equal to a datatype on the right is a datatype that is the same. -/
theorem same_of_equal_right {d : Datatype} {v : Value} (h : Equal v (.datatype d)) :
    ∃ e, v = .datatype e ∧ e.same d = true := by
  cases agree_of_equal h with
  | individual hself => exact absurd hself Bool.false_ne_true
  | @datatype e _ hsame => exact ⟨e, rfl, hsame⟩

/-- Equal values are both spread datatypes, or neither is. -/
theorem isSpreadType_of_equal (h : Equal l r) : l.isSpreadType = r.isSpreadType := by
  cases hl : l.isSpreadType with
  | true =>
    obtain ⟨d, rfl, hd⟩ := exists_spread hl
    obtain ⟨e, rfl, hsame⟩ := same_of_equal_left h
    exact hd.symm.trans (Datatype.isSpread_of_same hsame)
  | false =>
    cases hr : r.isSpreadType with
    | false => rfl
    | true =>
      obtain ⟨e, rfl, he⟩ := exists_spread hr
      obtain ⟨d, rfl, hsame⟩ := same_of_equal_right h
      exact hl.symm.trans ((Datatype.isSpread_of_same hsame).trans he)

/-- So where items are equal place by place, both arrays have a spread datatype among them, or neither has. -/
theorem any_isSpreadType_of_equal {xs ys : List Value} (h : List.Forall₂ Equal xs ys) :
    xs.any isSpreadType = ys.any isSpreadType := by
  induction h with
  | nil => rfl
  | cons hxy _ ih => rw [List.any_cons, List.any_cons, isSpreadType_of_equal hxy, ih]

/-! ## Equal values are not told apart -/

/-- The pattern among equal items can be laid with one item for each of its elements: a spread one takes its equal,
and any other fits it. -/
theorem cut_of_forall₂ {claim R : Value → Value → Prop} {xs ps : List Value} (h : List.Forall₂ Equal xs ps)
    (hR : ∀ x ∈ xs, ∀ p ∈ ps, Equal x p → R x p)
    (hclaim : ∀ d e, .datatype d ∈ xs → d.isSpread = true → d.same e = true → claim (.datatype e) (.datatype d)) :
    Cut isSpreadType claim R xs ps := by
  induction h with
  | nil => exact .done
  | @cons x p xs ps hxp _ ih =>
    have hrest := ih (fun x' hx' p' hp' => hR x' (List.mem_cons_of_mem x hx') p' (List.mem_cons_of_mem p hp'))
      fun d e hd => hclaim d e (List.mem_cons_of_mem x hd)
    cases hspread : p.isSpreadType with
    | true =>
      have hxspread : x.isSpreadType = true := (isSpreadType_of_equal hxp).trans hspread
      obtain ⟨d, rfl, hd⟩ := exists_spread hxspread
      obtain ⟨e, rfl, hsame⟩ := same_of_equal_left hxp
      exact .more hspread (hclaim d e List.mem_cons_self hd hsame) (.enough hspread hrest)
    | false => exact .one hspread (hR x List.mem_cons_self p List.mem_cons_self hxp) hrest

/-- A spread datatype that accepts datatypes claims those that are the same. -/
theorem claims_same {d e : Datatype} (hholds : d.holdsTypes = true) (hsame : d.same e = true) :
    Claims settings (.datatype e) (.datatype d) := by
  have hholds' : e.holdsTypes = true := (Datatype.holdsTypes_of_same hsame).symm.trans hholds
  have hsays : e.accepts (.datatype d) settings = .ok e.holdsTypes :=
    Datatype.accepts_datatype (Datatype.usable_of_holdsTypes hholds') d
  rw [hholds'] at hsays
  exact hsays

/-- Each entry of equal datamaps finds a partner under its name. -/
theorem partners_of_agree {s t : Tag} {xs ys : List (Name × Value)} {R : Value → Value → Prop}
    (hnames : (datamap t ys).Everywhere Orderly) (h : Agree Equal (.datamap s xs) (.datamap t ys))
    (hinside : ∀ x ∈ (datamap s xs).contents, ∀ y ∈ (datamap t ys).contents, Equal x y → R x y) :
    ∀ e ∈ xs, ∃ e', (ys.find? fun e' => e'.1.same e.1) = some e' ∧ R e.2 e'.2 := by
  intro e he
  obtain ⟨e', he', hname, hvalue⟩ := (Agree.datamap_iff.mp h).2 e he
  exact ⟨e', (find?_name hnames.here).mpr ⟨he', hname⟩,
    hinside e.2 (List.mem_map_of_mem he) e'.2 (List.mem_map_of_mem he') hvalue⟩

/-- What is inside equal values fits, as far as no member says no. -/
theorem inside_of_agree (hl : l.Everywhere Orderly) (hr : r.Everywhere Orderly) (htakes : l.TakesSelf)
    (hequal : Equal l r) (hinside : ∀ x ∈ l.contents, ∀ y ∈ r.contents, Equal x y → MayMatch settings x y) :
    Inside (MayClaim settings) (MayMatch settings) l r := by
  have hagree := agree_of_equal hequal
  cases hcollections : areCollections l r with
  | false => exact .single hcollections hequal
  | true =>
    unfold areCollections at hcollections
    split at hcollections
    · rename_i xs ys
      have hitems := Agree.array_iff.mp hagree
      have hany := any_isSpreadType_of_equal hitems
      cases hspread : ys.any isSpreadType with
      | true =>
        refine .alongSecond hspread (cut_of_forall₂ hitems hinside fun d e hd hdspread hsame hno => ?_)
        cases (claims_same (htakes d hd hdspread) hsame).symm.trans hno
      | false =>
        exact .places hspread (hany.trans hspread) (forall₂_imp hinside hitems)
    · exact .datamap (Agree.datamap_iff.mp hagree).1 (partners_of_agree hr hagree hinside)
    · rename_i s xs t ys
      obtain ⟨hlength, hpartner⟩ := Agree.dataset_iff.mp hagree
      -- each member has an equal partner, and no two share one, as members differ
      have hpairs : PairsInto Equal xs ys := by
        refine pairsInto_of_partners (fun x hx => ?_) ?_
        · obtain ⟨y, hy, hyx⟩ := hpartner x hx
          exact ⟨y, hy, Orderly.equal_symm (hr.inside hy) (hl.inside hx) hyx⟩
        · refine hl.here.2.imp_of_mem fun {x x'} hx hx' hne y hy hxy hxy' => hne ?_
          exact Orderly.equal_trans (hl.inside hx) (hr.inside hy) (hl.inside hx') hxy
            (Orderly.equal_symm (hl.inside hx') (hr.inside hy) hxy')
      exact .dataset hlength (hpairs.imp hinside)
    · cases hcollections

/-- **Matching does not say no to equal values,** whose spread datatypes take themselves.  By induction on both
values; whether matching answers at all is asked apart. -/
theorem mayMatch_of_equal {l r : Value} (hl : l.Everywhere Distinct) (hr : r.Everywhere Distinct)
    (htakes : l.Throughout TakesSelf) (h : Equal l r) : MayMatch settings l r := by
  intro hno
  obtain ⟨hlo, hro⟩ := orderly_of_equal hl hr h
  refine (says_isMatch l r).no hno (.inside (inside_of_agree hlo hro htakes.here h fun x hx y hy hxy => ?_))
  have hxl := sizeOf_lt_of_mem_parts (parts_of_mem_contents hx)
  have hyr := sizeOf_lt_of_mem_parts (parts_of_mem_contents hy)
  exact mayMatch_of_equal (hl.inside (parts_of_mem_contents hx)) (hr.inside (parts_of_mem_contents hy))
    (htakes.inside hx) hxy
termination_by sizeOf l + sizeOf r

/-! ## Where matching answers -/

/-- A value at which no search is stopped: a datatype can be asked; items with a spread datatype among them, and
members whose order is not settled, can all be asked and asked about. -/
def Steady : Value → Prop
  | .datatype d => d.Usable
  | .array items => items.any isSpreadType = true → ∀ v ∈ items, v.Throughout Askable
  | .dataset tag members => (dataset tag members).Everywhere Settled ∨ ∀ v ∈ members, v.Throughout Askable
  | _ => True

/-- Where all claims and comparisons can be made, the answer to equal values is yes. -/
theorem matches_of_askable (hl : l.Everywhere Distinct) (hr : r.Everywhere Distinct) (htakes : l.Throughout TakesSelf)
    (h : Equal l r) (hla : l.Throughout Askable) (hra : r.Throughout Askable) : Matches settings l r := by
  obtain ⟨hlo, hro⟩ := orderly_of_equal hl hr h
  obtain ⟨yes, hyes⟩ := Check.answers_iff.mp (answers_isMatch hla hra hlo.comparable hro.comparable)
  cases yes with
  | true => exact hyes
  | false => exact absurd hyes (mayMatch_of_equal hl hr htakes h)

/-- Datatypes that can be asked answer whether they claim an equal value. -/
theorem answers_claims_of_equal (husable : l.Steady) (h : Equal l r) : ∃ yes, l.claims r settings = .ok yes := by
  cases l with
  | datatype d =>
    obtain ⟨e, rfl, _⟩ := same_of_equal_left h
    exact ⟨d.holdsTypes, Datatype.accepts_datatype husable e⟩
  | _ => exact ⟨false, rfl⟩

/-- What is inside matches, once both sides have been asked. -/
theorem matches_of_inside (hl : ∃ yes, l.claims r settings = .ok yes) (hr : ∃ yes, r.claims l settings = .ok yes)
    (h : matchInside l r settings = .ok true) : Matches settings l r := by
  obtain ⟨first, hfirst⟩ := hl
  obtain ⟨second, hsecond⟩ := hr
  rw [Matches, isMatch_eq, Check.bind_of_ok hfirst, Check.bind_of_ok hsecond]
  by_cases hclaimed : (first || second) = true
  · rw [if_pos hclaimed]
    rfl
  · rw [if_neg hclaimed]
    exact h

/-- A check of all members says yes where each single one does. -/
theorem allM_of_yes {α : Type} {test : α → Check Bool} {xs : List α} (h : ∀ x ∈ xs, test x settings = .ok true) :
    xs.allM test settings = .ok true := by
  induction xs with
  | nil => rfl
  | cons x xs ih =>
    obtain ⟨hx, hxs⟩ := List.forall_mem_cons.mp h
    exact (Check.bind_of_ok hx).trans (ih hxs)

/-- Items match place by place if none is a spread datatype, for then no search is made. -/
theorem matchItems_of_places {xs ys : List Value} (hxs : xs.any isSpreadType = false)
    (hys : ys.any isSpreadType = false) (h : List.Forall₂ (Matches settings) xs ys) :
    matchItems xs ys settings = .ok true := by
  rw [matchItems, if_neg (by rw [hys]; exact Bool.false_ne_true), if_neg (by rw [hxs]; exact Bool.false_ne_true),
    if_pos h.length_eq]
  exact allM_of_yes fun p hp => (List.forall₂_iff_zip.mp h).2 hp

/-- Entries match if each name finds a partner. -/
theorem matchEntries_of_partners {xs ys : List (Name × Value)} (hlength : xs.length = ys.length)
    (h : ∀ e ∈ xs, ∃ e', (ys.find? fun e' => e'.1.same e.1) = some e' ∧ Matches settings e.2 e'.2) :
    matchEntries xs ys settings = .ok true := by
  have hnames : xs.all (fun e => (lookupName ys e.1).isSome) = true := by
    refine List.all_eq_true.mpr fun e he => ?_
    obtain ⟨e', hfind, _⟩ := h e he
    rw [lookupName, hfind]
    rfl
  rw [matchEntries, if_pos ⟨hlength, hnames⟩]
  refine allM_of_yes fun e he => ?_
  obtain ⟨e', hfind, hmatch⟩ := h e he
  rw [matchEntry, hfind]
  exact hmatch

/-- Members match if they do in the order they come in. -/
theorem matchMembers_of_places {xs ys os ot : List Value} (hos : sorted xs = .ok os) (hot : sorted ys = .ok ot)
    (h : List.Forall₂ (Matches settings) os ot) : matchMembers xs ys settings = .ok true := by
  rw [matchMembers, hos, hot]
  show (if os.length = ot.length then matchPairs isMatch os ot else return false : Check Bool) settings = .ok true
  rw [if_pos h.length_eq]
  exact matchPairs_of_forall₂ h

/-- The members of equal datasets come in one order, if it is settled in one of them.  Then members that are equal
meet at the same place. -/
theorem sorted_places {s t : Tag} {xs ys : List Value} (hl : (dataset s xs).Everywhere Distinct)
    (hr : (dataset t ys).Everywhere Distinct) (h : Equal (.dataset s xs) (.dataset t ys))
    (hsettled : (dataset s xs).Everywhere Settled ∨ (dataset t ys).Everywhere Settled) :
    ∃ os ot, sorted xs = .ok os ∧ sorted ys = .ok ot ∧ List.Forall₂ Equal os ot := by
  obtain ⟨hlo, hro⟩ := orderly_of_equal hl hr h
  obtain ⟨os, hos, hperm⟩ := sortOn_perm hlo.here.1
  obtain ⟨ot, hot, hperm'⟩ := sortOn_perm hro.here.1
  refine ⟨os, ot, hos, hot, ?_⟩
  rcases hsettled with hsettled | hsettled
  · obtain ⟨hlength, hpartner⟩ := Agree.dataset_iff.mp (agree_of_equal h)
    exact sorted_canonical
      (fun x hx => ⟨hl.inside hx, print_canonical ((hl.inside hx).and (hsettled.inside hx))⟩)
      (fun y hy => hr.inside hy) hsettled.here hlength hpartner hos hot
  · -- settled in the second: the same the other way round
    obtain ⟨hlength, hpartner⟩ := Agree.dataset_iff.mp (agree_of_equal (Orderly.equal_symm hlo hro h))
    have hback := sorted_canonical
      (fun y hy => ⟨hr.inside hy, print_canonical ((hr.inside hy).and (hsettled.inside hy))⟩)
      (fun x hx => hl.inside hx) hsettled.here hlength hpartner hot hos
    refine forall₂_symm (fun y hy x hx hyx => ?_) hback
    exact Orderly.equal_symm (hro.inside (hperm'.mem_iff.mp hy)) (hlo.inside (hperm.mem_iff.mp hx)) hyx

/-- The members of equal datasets match, if equal ones do, where the order of one of the datasets is settled. -/
theorem matchMembers_of_settled {s t : Tag} {xs ys : List Value} (hl : (dataset s xs).Everywhere Distinct)
    (hr : (dataset t ys).Everywhere Distinct) (h : Equal (.dataset s xs) (.dataset t ys))
    (hinside : ∀ x ∈ xs, ∀ y ∈ ys, Equal x y → Matches settings x y)
    (hsettled : (dataset s xs).Everywhere Settled ∨ (dataset t ys).Everywhere Settled) :
    matchMembers xs ys settings = .ok true := by
  obtain ⟨os, ot, hos, hot, hplaces⟩ := sorted_places hl hr h hsettled
  refine matchMembers_of_places hos hot (forall₂_imp (fun x hx y hy => ?_) hplaces)
  exact hinside x ((of_sortOn hos).2.mem_iff.mp hx) y ((of_sortOn hot).2.mem_iff.mp hy)

/-- **Matching says yes to equal values at which no search is stopped.** -/
theorem matches_of_steady {l r : Value} (hl : l.Everywhere Distinct) (hr : r.Everywhere Distinct)
    (htakes : l.Throughout TakesSelf) (hls : l.Throughout Steady) (hrs : r.Throughout Steady) (h : Equal l r) :
    Matches settings l r := by
  obtain ⟨hlo, hro⟩ := orderly_of_equal hl hr h
  have hinside : ∀ x ∈ l.contents, ∀ y ∈ r.contents, Equal x y → Matches settings x y := by
    intro x hx y hy hxy
    have hxl := sizeOf_lt_of_mem_parts (parts_of_mem_contents hx)
    have hyr := sizeOf_lt_of_mem_parts (parts_of_mem_contents hy)
    exact matches_of_steady (hl.inside (parts_of_mem_contents hx)) (hr.inside (parts_of_mem_contents hy))
      (htakes.inside hx) (hls.inside hx) (hrs.inside hy) hxy
  have hanswers : matchInside l r settings = .ok true → Matches settings l r :=
    matches_of_inside (answers_claims_of_equal hls.here h)
      (answers_claims_of_equal hrs.here (Orderly.equal_symm hlo hro h))
  have hagree := agree_of_equal h
  cases hcollections : areCollections l r with
  | false =>
    rw [matchInside_eq hcollections] at hanswers
    exact hanswers (Check.lift_eq_ok.mpr h)
  | true =>
    unfold areCollections at hcollections
    split at hcollections
    · rename_i xs ys
      have hitems := Agree.array_iff.mp hagree
      have hany := any_isSpreadType_of_equal hitems
      cases hspread : xs.any isSpreadType with
      | true =>
        -- a search, in which nothing stops
        exact matches_of_askable hl hr htakes h (.intro trivial (hls.here hspread))
          (.intro trivial (hrs.here (hany.symm.trans hspread)))
      | false => exact hanswers (matchItems_of_places hspread (hany.symm.trans hspread) (forall₂_imp hinside hitems))
    · exact hanswers
        (matchEntries_of_partners (Agree.datamap_iff.mp hagree).1 (partners_of_agree hro hagree hinside))
    · rcases hls.here with hsettled | hla
      · exact hanswers (matchMembers_of_settled hl hr h hinside (.inl hsettled))
      · rcases hrs.here with hsettled | hra
        · exact hanswers (matchMembers_of_settled hl hr h hinside (.inr hsettled))
        · exact matches_of_askable hl hr htakes h (.intro trivial hla) (.intro trivial hra)
    · cases hcollections
termination_by sizeOf l + sizeOf r

/-! ## The whole -/

/-- **What is equal matches,** if spread datatypes in arrays accept datatypes, and so take themselves, and no
pattern only looks ahead: every answer is yes, and what stops matching is a fault.  There is an answer if no search
can be stopped, as where each datatype can be asked, no spread datatype stands in an array, and no members tie. -/
theorem isMatch_extends_equals (hl : l.Everywhere Distinct) (hr : r.Everywhere Distinct)
    (htakes : l.Throughout TakesSelf) (hlahead : l.Throughout fun v => v.looksAhead = false)
    (hrahead : r.Throughout fun v => v.looksAhead = false) (settings : Settings) (h : equals l r = .ok true) :
    (∀ a, isMatch l r settings = .ok a → a = true) ∧
    (∀ e, isMatch l r settings = .error e → ∃ f, e = .fault f) ∧
    (l.Throughout Steady → r.Throughout Steady → isMatch l r settings = .ok true) := by
  refine ⟨fun a ha => ?_, fun e he => ?_, fun hls hrs => matches_of_steady hl hr htakes hls hrs h⟩
  · cases a with
    | true => rfl
    | false => exact absurd ha (mayMatch_of_equal hl hr htakes h)
  · exact Check.IsFault.exists_fault (isFault_of_isMatch hlahead hrahead e he)

/-- An array of a datatype that stands for datatypes, and of a dataset. -/
def typesAround : Value := .array [.datatype (.named "datatype" true), oneThenList]

/-- An array in which a spread datatype takes itself matches itself. -/
theorem isMatch_typesAround :
    typesAround.Everywhere Distinct ∧ typesAround.Throughout TakesSelf ∧
      typesAround.Throughout (fun v => v.looksAhead = false) ∧ equals typesAround typesAround = .ok true ∧
      typesAround.Throughout Steady ∧
      isMatch typesAround typesAround Settings.usual = .ok true := by
  have hone := plain_aroundOne.inside (x := oneThenList) List.mem_cons_self
  have hdistinct : typesAround.Everywhere Distinct := by
    refine everywhere_of_parts_two rfl trivial (everywhere_of_parts_nil rfl trivial) ?_
    exact everywhere_pair_distinct (everywhere_of_parts_nil rfl trivial) everywhere_distinct_list
      (not_equal_of_samePlain rfl rfl)
  have htakes : typesAround.Throughout TakesSelf := by
    -- the spread datatype is the datatype of datatypes, and so takes itself
    refine .pair rfl (fun d hd _ => ?_) (.single rfl trivial) (.pair rfl trivial (.single rfl trivial) ?_)
    · rcases List.mem_pair.mp hd with hd | hd
      · exact Value.datatype.inj hd ▸ rfl
      · cases hd
    · refine .only rfl (fun d hd _ => ?_) (.single rfl trivial)
      cases List.mem_singleton.mp hd
  have hlahead : typesAround.Throughout fun v => v.looksAhead = false :=
    .pair rfl rfl (.single rfl rfl) (hone.mono fun h => h.2.1)
  have hask : ∀ v ∈ [Value.datatype (.named "datatype" true), oneThenList], v.Throughout Askable :=
    List.forall_mem_cons.mpr ⟨.single rfl rfl, List.forall_mem_singleton.mpr (hone.mono fun h => h.2.2)⟩
  have hsteady : typesAround.Throughout Steady := by
    refine .pair rfl (fun _ => hask) (.single rfl rfl) (.pair rfl (Or.inr fun v hv => ?_) (.single rfl trivial) ?_)
    · exact (hone.inside hv).mono fun h => h.2.2
    · exact .only rfl nofun (.single rfl trivial)
  have hequal : equals typesAround typesAround = .ok true :=
    equal_refl (everywhere_of_parts_two rfl trivial (everywhere_of_parts_nil rfl trivial) proper_oneThenList)
  exact ⟨hdistinct, htakes, hlahead, hequal, hsteady,
    (isMatch_extends_equals hdistinct hdistinct htakes hlahead hlahead _ hequal).2.2 hsteady hsteady⟩

/-- **An array of one spread datatype matches itself iff the datatype accepts datatypes.** -/
theorem isMatch_loneSpread {d : Datatype} (hspread : d.isSpread = true) (husable : d.Usable) :
    isMatch (.array [.datatype d]) (.array [.datatype d]) settings = .ok d.holdsTypes := by
  have hd : (Value.datatype d).isSpreadType = true := hspread
  have hclaim : (Value.datatype d).claims (.datatype d) settings = .ok d.holdsTypes :=
    Datatype.accepts_datatype husable d
  have hnone : matchAlong isSpreadType claims isMatch [.datatype d] [] settings = .ok false := by
    rw [matchAlong]
    rfl
  have hitems : matchItems [.datatype d] [.datatype d] settings = .ok d.holdsTypes := by
    rw [matchItems, if_pos (by rw [List.any_cons, hd]; rfl), matchAlong, if_pos hd, Check.bind_of_ok hnone,
      if_neg Bool.false_ne_true, Check.bind_of_ok hclaim]
    cases d.holdsTypes with
    | true =>
      rw [if_pos rfl, matchAlong, if_pos hd, matchAlong]
      rfl
    | false => rfl
  rw [isMatch_eq]
  exact hitems

/-- An array that stands for any number of numbers. -/
def numbers : Value := .array [.datatype (.named "number" true)]

/-- **Numbers are taken, and the datatype of numbers is none:** the array is equal to itself and does not match. -/
theorem numbers_not_match :
    numbers.Everywhere Distinct ∧ numbers.Throughout (fun v => v.looksAhead = false) ∧
      equals numbers numbers = .ok true ∧
      isMatch numbers numbers Settings.usual = .ok false := by
  refine ⟨everywhere_of_parts_one rfl trivial (everywhere_of_parts_nil rfl trivial), .only rfl rfl (.single rfl rfl),
    equal_refl (everywhere_of_parts_one rfl trivial (everywhere_of_parts_nil rfl trivial)), ?_⟩
  exact isMatch_loneSpread (d := .named "number" true) rfl rfl

end Value

end StoryValues
