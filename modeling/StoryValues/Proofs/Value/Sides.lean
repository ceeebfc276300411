import StoryValues.Proofs.Datatype.Asking
import StoryValues.Proofs.Value.Fitting

/-
  MATCHING DOES NOT CARE ABOUT SIDES.  Where one of two values holds no spread datatype, matching them gives
  one answer either way round, or stops (`isMatch_sides`).

  The two sides are treated differently throughout: one array is the pattern of the other, the names of the
  first datamap lead, and the members of the first dataset look for partners.  A yes of the one order is turned
  into a fit that the other order may not refuse (`mayMatch_symm`).

  1. **Arrays.**  Only one of them can hold a spread datatype, and it is the pattern on whichever side it is.
  2. **Datamaps** by counting: as many names on both sides, all different.
  3. **Datasets** by turning the pairing round, which takes all members of the second because there are no more.
  4. **Claims** are asked of both sides in either order, and all else is left to equality, which is symmetric.

  An answer may come one way round only.  The order of names decides what is compared first, and a comparison
  that says no keeps one from being made that would stop, at an integer that is too large for a double
  (`oneThenLarge_sides`).
-/

namespace StoryValues

namespace Value

variable {α : Type} {settings : Settings} {l r : Value}

/-- A value that is no spread datatype. -/
def Spreadless (v : Value) : Prop := v.isSpreadType = false

/-- An array throughout which nothing is a spread datatype has none among its items. -/
theorem any_of_spreadless {items : List Value} (h : (Value.array items).Throughout Spreadless) :
    items.any isSpreadType = false := by
  rw [List.any_eq_false]
  intro v hv
  have hnone : v.isSpreadType = false := (h.inside hv).here
  rw [hnone]
  exact Bool.false_ne_true

/-! ## One step -/

/-- Where the names of both datamaps are all different, each name of the second finds the entry that found it. -/
theorem entries_symm {R S : Value → Value → Prop} {xs ys : List (Name × Value)} (hlength : xs.length = ys.length)
    (hxs : xs.Pairwise fun e e' => ¬ e.1.same e'.1 = true)
    (hRS : ∀ e ∈ xs, ∀ e' ∈ ys, R e.2 e'.2 → S e'.2 e.2)
    (h : ∀ e ∈ xs, ∃ e', (ys.find? fun e' => e'.1.same e.1) = some e' ∧ R e.2 e'.2) :
    ∀ e' ∈ ys, ∃ e, (xs.find? fun e => e.1.same e'.1) = some e ∧ S e'.2 e.2 := by
  have hpartner : ∀ e ∈ xs, ∃ e' ∈ ys, e'.1.same e.1 = true ∧ R e.2 e'.2 := by
    intro e he
    obtain ⟨e', hfind, hR⟩ := h e he
    exact ⟨e', List.mem_of_find?_eq_some hfind,
      List.find?_some (p := fun e' : Name × Value => e'.1.same e.1) hfind, hR⟩
  intro e' he'
  obtain ⟨e, he, hname, hR⟩ := covers_of_length_eq hlength hpartner (Agree.partners_differ hxs) e' he'
  exact ⟨e, (find?_name hxs).mpr ⟨he, Name.same_symm hname⟩, hRS e he e' he' hR⟩

/-- What fits inside by answers that say yes still does with the sides turned round, as far as nothing says no. -/
theorem inside_symm (hspread : l.Throughout Spreadless ∨ r.Throughout Spreadless) (hl : l.Everywhere Orderly)
    (hr : r.Everywhere Orderly)
    (hinside : ∀ x ∈ l.contents, ∀ y ∈ r.contents, Matches settings x y → MayMatch settings y x)
    (h : Inside (Claims settings) (Matches settings) l r) : Inside (MayClaim settings) (MayMatch settings) r l := by
  have hclaims : ∀ x y, Claims settings x y → MayClaim settings x y := fun x y hyes hno => nomatch hyes.symm.trans hno
  have hmatches : ∀ x y, Matches settings x y → MayMatch settings x y := fun x y hyes hno => nomatch hyes.symm.trans hno
  cases h with
  | @alongSecond xs ys hys hcut =>
    -- the second array is the pattern, and the first holds no spread datatype: still the pattern as the first
    have hxs : xs.any isSpreadType = false := by
      rcases hspread with hspread | hspread
      · exact any_of_spreadless hspread
      · exact absurd ((any_of_spreadless hspread).symm.trans hys) Bool.false_ne_true
    exact .alongFirst hxs hys (hcut.mono hclaims hmatches)
  | alongFirst _ hxs hcut => exact .alongSecond hxs (hcut.mono hclaims hmatches)
  | places hys hxs hplaces => exact .places hxs hys (forall₂_symm hinside hplaces)
  | datamap hlength hentries =>
    refine .datamap hlength.symm (entries_symm hlength hl.here (fun e he e' he' hyes => ?_) hentries)
    exact hinside e.2 (List.mem_map_of_mem he) e'.2 (List.mem_map_of_mem he') hyes
  | dataset hlength hpairs => exact .dataset hlength.symm (hpairs.flip hlength hinside)
  | single hnone hequal =>
    have hnone' : areCollections r l = false := by
      rw [← hnone]
      cases l <;> cases r <;> rfl
    exact .single hnone' (Orderly.equal_symm hl hr hequal)

/-! ## All steps -/

/-- A yes one way round is not a no the other way round.  By induction on the first value, with the fit that the yes
shows turned round piece by piece. -/
theorem mayMatch_symm {l r : Value} (hspread : l.Throughout Spreadless ∨ r.Throughout Spreadless)
    (hl : l.Everywhere Orderly) (hr : r.Everywhere Orderly) (h : Matches settings l r) : MayMatch settings r l := by
  intro hno
  refine (says_isMatch r l).no hno ?_
  cases (says_isMatch l r).yes h with
  | claiming hclaim => exact .claimed fun hclaim' => nomatch hclaim.symm.trans hclaim'
  | claimed hclaim => exact .claiming fun hclaim' => nomatch hclaim.symm.trans hclaim'
  | inside hfits =>
    refine .inside (inside_symm hspread hl hr (fun x hx y hy hyes => ?_) hfits)
    have hxl := sizeOf_lt_of_mem_parts (parts_of_mem_contents hx)
    have hyr := sizeOf_lt_of_mem_parts (parts_of_mem_contents hy)
    exact mayMatch_symm (hspread.imp (·.inside hx) (·.inside hy)) (hl.inside (parts_of_mem_contents hx))
      (hr.inside (parts_of_mem_contents hy)) hyes
termination_by sizeOf l + sizeOf r

/-- Matching without look-ahead patterns is never a story error: only those refuse to be asked. -/
theorem isFault_of_isMatch (hl : l.Throughout fun v => v.looksAhead = false)
    (hr : r.Throughout fun v => v.looksAhead = false) : Check.StopsOnly settings Check.IsFault (isMatch l r) :=
  stopsOnly_isMatch (fun _ y hx _ => stopsOnly_claims hx y) (fun _ _ _ _ => .of_fault _) (fun _ _ _ => .of_fault _) hl
    hr

/-- Matching gives an answer where datatypes do, and where comparisons can be made. -/
theorem answers_isMatch (hl : l.Throughout Askable) (hr : r.Throughout Askable) (hlc : l.Everywhere Comparable)
    (hrc : r.Everywhere Comparable) : Check.Answers settings (isMatch l r) := by
  refine stopsOnly_isMatch (P := fun v => v.Askable ∧ v.Everywhere Comparable) (fun x y hx hy => ?_)
    (fun x y hx hy => ?_) (fun tag xs hxs => ?_) (hl.and (.of_everywhere hlc)) (hr.and (.of_everywhere hrc))
  · exact answers_claims hx.1 hy.1
  · obtain ⟨yes, hyes⟩ := answers_of_comparable hx.2 hy.2
    exact .of_ok (Check.lift_eq_ok.mpr hyes)
  · obtain ⟨os, hos, _⟩ := sortOn_perm hxs.2.here
    exact .of_ok (Check.lift_eq_ok.mpr hos)

/-! ## The whole -/

/-- **Matching does not care which side the datatypes are on,** if one side holds no spread datatype, datasets
can be put in order and repeat no member, and no pattern only looks ahead.  Either way round it gives the same
answer, or stops with a fault; it does not stop where every datatype can be asked and every integer has a nearest
double. -/
theorem isMatch_sides (hspread : l.Throughout Spreadless ∨ r.Throughout Spreadless) (hl : l.Everywhere Orderly)
    (hr : r.Everywhere Orderly) (hlahead : l.Throughout fun v => v.looksAhead = false)
    (hrahead : r.Throughout fun v => v.looksAhead = false) (settings : Settings) :
    (∀ a b, isMatch l r settings = .ok a → isMatch r l settings = .ok b → a = b) ∧
    (∀ e, isMatch l r settings = .error e ∨ isMatch r l settings = .error e → ∃ f, e = .fault f) ∧
    (l.Throughout Askable → r.Throughout Askable →
      ∃ a, isMatch l r settings = .ok a ∧ isMatch r l settings = .ok a) := by
  -- a yes one way round leaves room for a yes the other way round, so the answers cannot differ
  have hsame : ∀ a b, isMatch l r settings = .ok a → isMatch r l settings = .ok b → a = b := by
    intro a b ha hb
    cases a with
    | true =>
      cases b with
      | true => rfl
      | false => exact absurd hb (mayMatch_symm hspread hl hr ha)
    | false =>
      cases b with
      | true => exact absurd ha (mayMatch_symm hspread.symm hr hl hb)
      | false => rfl
  refine ⟨hsame, fun e he => ?_, fun hlask hrask => ?_⟩
  · rcases he with he | he
    · exact (isFault_of_isMatch hlahead hrahead e he).exists_fault
    · exact (isFault_of_isMatch hrahead hlahead e he).exists_fault
  · obtain ⟨a, ha⟩ := Check.answers_iff.mp (answers_isMatch hlask hrask hl.comparable hr.comparable)
    obtain ⟨b, hb⟩ := Check.answers_iff.mp (answers_isMatch hrask hlask hr.comparable hl.comparable)
    exact ⟨a, ha, hsame a b ha hb ▸ hb⟩

/-- An array of a dataset. -/
def aroundOne : Value := .array [oneThenList]

/-- An array that stands for any number of values. -/
def anyNumber : Value := .array [.datatype (.named "anything" true)]

/-- That there is a result can be evaluated, where there is no need to say which. -/
theorem exists_of_isOk {r : Except Fault α} (h : r.isOk = true) : ∃ a, r = .ok a := by
  cases r with
  | ok a => exact ⟨a, rfl⟩
  | error f => cases h

/-- A value holds no spread datatype, no look-ahead pattern, and nothing that cannot be asked. -/
theorem plain_aroundOne :
    aroundOne.Throughout fun v => Spreadless v ∧ v.looksAhead = false ∧ v.Askable := by
  have hone : ∃ x, (Number.int 1).toDouble = .ok x := exists_of_isOk (by decide +kernel)
  refine .only rfl ⟨rfl, rfl, trivial⟩ (.pair rfl ⟨rfl, rfl, trivial⟩ (.single rfl ⟨rfl, rfl, hone⟩) ?_)
  exact .only rfl ⟨rfl, rfl, trivial⟩ (.single rfl ⟨rfl, rfl, trivial⟩)

/-- An array of a dataset and one that stands for any number of values match either way round. -/
theorem isMatch_aroundOne :
    (aroundOne.Throughout Spreadless ∨ anyNumber.Throughout Spreadless) ∧ aroundOne.Everywhere Orderly ∧
      anyNumber.Everywhere Orderly ∧ aroundOne.Throughout (fun v => v.looksAhead = false) ∧
      anyNumber.Throughout (fun v => v.looksAhead = false) ∧ aroundOne.Throughout Askable ∧
      anyNumber.Throughout Askable ∧
      ∃ a, isMatch aroundOne anyNumber Settings.usual = .ok a ∧
        isMatch anyNumber aroundOne Settings.usual = .ok a := by
  have hspread : aroundOne.Throughout Spreadless := plain_aroundOne.mono And.left
  have hl : aroundOne.Everywhere Orderly := everywhere_of_parts_one rfl trivial proper_oneThenList.orderly
  have hr : anyNumber.Everywhere Orderly :=
    everywhere_of_parts_one rfl trivial (everywhere_of_parts_nil rfl trivial)
  have hlahead : aroundOne.Throughout fun v => v.looksAhead = false := plain_aroundOne.mono fun h => h.2.1
  have hrahead : anyNumber.Throughout fun v => v.looksAhead = false := .only rfl rfl (.single rfl rfl)
  have hlask : aroundOne.Throughout Askable := plain_aroundOne.mono fun h => h.2.2
  have hrask : anyNumber.Throughout Askable := .only rfl trivial (.single rfl rfl)
  exact ⟨Or.inl hspread, hl, hr, hlahead, hrahead, hlask, hrask,
    (isMatch_sides (Or.inl hspread) hl hr hlahead hrahead _).2.2 hlask hrask⟩

/-! ## The order of names -/

/-- Values that are not collections of one kind, and neither of which claims the other, match if they are equal. -/
theorem isMatch_of_equals {yes : Bool} (hl : l.claims r settings = .ok false) (hr : r.claims l settings = .ok false)
    (hnone : areCollections l r = false) (h : equals l r = .ok yes) : isMatch l r settings = .ok yes := by
  have hinside : matchInside l r settings = .ok yes := by
    rw [matchInside_eq hnone]
    exact Check.lift_eq_ok.mpr h
  rw [isMatch_eq, Check.bind_of_ok hl, Check.bind_of_ok hr]
  exact hinside

/-- Datamaps that have names in common are matched name by name, in the order of the first. -/
theorem isMatch_datamap {s t : Tag} {xs ys : List (Name × Value)} (hlength : xs.length = ys.length)
    (hnames : xs.all (fun e => (lookupName ys e.1).isSome) = true) :
    isMatch (.datamap s xs) (.datamap t ys) settings = xs.allM (matchEntry ys) settings := by
  rw [isMatch_eq]
  show matchEntries xs ys settings = _
  rw [matchEntries, if_pos ⟨hlength, hnames⟩]

/-- An integer without a nearest double, behind a name of which there is another value. -/
def oneThenLarge : Value := .datamap none [(.text "a", .number (.int 1)), (.text "b", .number (.int (10 ^ 400)))]

/-- The same names the other way round, a datatype behind the one and another number behind the other. -/
def integerThenTwo : Value :=
  .datamap none [(.text "b", .datatype (.named "integer" false)), (.text "a", .number (.int 2))]

/-- **One way round the answer is no, and the other way round there is none.** -/
theorem oneThenLarge_sides :
    oneThenLarge.Throughout Spreadless ∧ integerThenTwo.Throughout Spreadless ∧
      oneThenLarge.Everywhere Orderly ∧ integerThenTwo.Everywhere Orderly ∧
      oneThenLarge.Throughout (fun v => v.looksAhead = false) ∧
      integerThenTwo.Throughout (fun v => v.looksAhead = false) ∧
      isMatch oneThenLarge integerThenTwo Settings.usual = .ok false ∧
      isMatch integerThenTwo oneThenLarge Settings.usual = .error (.fault .integerTooLarge) := by
  refine ⟨.pair rfl rfl (.single rfl rfl) (.single rfl rfl), .pair rfl rfl (.single rfl rfl) (.single rfl rfl),
    ?_, ?_, .pair rfl rfl (.single rfl rfl) (.single rfl rfl), .pair rfl rfl (.single rfl rfl) (.single rfl rfl), ?_, ?_⟩
  · exact everywhere_of_parts_two rfl (List.pairwise_pair.mpr (by decide)) (everywhere_of_parts_nil rfl trivial)
      (everywhere_of_parts_nil rfl trivial)
  · exact everywhere_of_parts_two rfl (List.pairwise_pair.mpr (by decide)) (everywhere_of_parts_nil rfl trivial)
      (everywhere_of_parts_nil rfl trivial)
  · -- the numbers that are compared first differ
    refine (isMatch_datamap (by rfl) (by rfl)).trans ?_
    rw [List.allM]
    refine Check.bind_of_ok (a := false) ?_
    show isMatch (.number (.int 1)) (.number (.int 2)) _ = .ok false
    refine isMatch_of_equals rfl rfl rfl ?_
    rw [equals.eq_def, if_pos (by rfl)]
    decide +kernel
  · -- the datatype is asked first
    refine (isMatch_datamap (by rfl) (by rfl)).trans ?_
    rw [List.allM]
    refine Check.bind_of_error ?_
    show isMatch (.datatype (.named "integer" false)) (.number (.int (10 ^ 400))) _ = _
    rw [isMatch_eq]
    exact Check.bind_of_error (by decide +kernel)

end Value

end StoryValues
