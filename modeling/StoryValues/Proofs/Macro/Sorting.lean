import StoryValues.Proofs.Macro.InTurn
import StoryValues.Proofs.Macro.Parameters
import StoryValues.Proofs.Macro.Shortage
import StoryValues.Proofs.Value.Sorted

/-
  SORTED IS A STABLE SORT.

  The macro sorts values by keys: by the values themselves, or by what a lambda in front of them makes of them.  Keys and
  values are two lists, which belong together place by place.

  1. **Sorting with places** (`Value.placed_sortOn`) — what was sorted, each with the place that it had.  It is in order,
     and elements that tie stand in the order of their places.
  2. **What a stable sort is** (`StablySorted`) — the rows of key, value and place, put in order.  There is one such order
     only (`StablySorted.unique`).
  3. **Where the keys come from** (`KeysOf`) — with a lambda, from its turns (`visits_keysFrom`).
  4. **The macro** (`sortValues_stable`), and every call that gives an array (`Registry.call_sorted_stable`).  A call with
     strings and numbers only is sorting them by themselves (`Registry.call_of_sortByKeys`).
-/

namespace StoryValues

namespace Value

/-! ## Sorting with places -/

section

variable {α : Type} {key : α → Except Fault NaturalKey} {xs os : List α}

/-- Elements with the places that they had tell which of two that tie stood first. -/
theorem le_of_zipIdxLE {le : α → α → Bool} {p q : α × Nat} (h : List.zipIdxLE le p q = true) :
    le p.1 q.1 = true ∧ (le q.1 p.1 = true → p.2 ≤ q.2) := by
  unfold List.zipIdxLE at h
  split at h
  · rename_i hle
    refine ⟨hle, fun hback => ?_⟩
    rw [if_pos hback] at h
    exact of_decide_eq_true h
  · exact nomatch h

/-- **What was sorted, with its places:** it is in order, and what ties stands in the order of its places. -/
theorem placed_sortOn (h : sortOn key xs = .ok os) :
    ∃ placed : List (α × Nat), placed.Perm xs.zipIdx ∧ placed.map Prod.fst = os ∧
      (placed.Pairwise fun p q => Before key p.1 q.1) ∧
      placed.Pairwise fun p q => Tied key p.1 q.1 → p.2 < q.2 := by
  obtain ⟨keyed, hkeyed, rfl, rfl⟩ := of_sortOn_keyed h
  -- the same sort on elements with their places, which decide where keys tie
  let ranked := keyed.zipIdx.mergeSort (List.zipIdxLE fun p q => p.1.le q.1)
  let forget : (NaturalKey × α) × Nat → α × Nat := Prod.map Prod.snd id
  have hperm : ranked.Perm keyed.zipIdx := List.mergeSort_perm _ _
  have hkey : ∀ p ∈ ranked, key p.1.2 = .ok p.1.1 := fun p hp =>
    hkeyed p.1 (List.fst_mem_of_mem_zipIdx (hperm.mem_iff.mp hp))
  have hsorted : ranked.Pairwise fun p q => List.zipIdxLE (fun p q => p.1.le q.1) p q = true :=
    List.pairwise_mergeSort (List.zipIdxLE_trans le_trans_keyed) (List.zipIdxLE_total le_total_keyed) _
  -- no two elements have one place
  have hplaces : ranked.Pairwise fun p q => p.2 ≠ q.2 := by
    have hnodup : (ranked.map Prod.snd).Nodup := by
      rw [(hperm.map Prod.snd).nodup_iff, List.zipIdx_map_snd]
      exact List.nodup_range' 1
    exact List.pairwise_map.mp hnodup
  refine ⟨ranked.map forget, ?_, ?_, ?_, ?_⟩
  · rw [List.zipIdx_map]
    exact hperm.map forget
  · rw [sortByKey, ← List.mergeSort_zipIdx, List.map_map, List.map_map]
    rfl
  · refine List.pairwise_map.mpr (hsorted.imp_of_mem fun {p q} hp hq hle => ?_)
    intro j k hj hk
    obtain rfl := Except.ok.inj ((hkey p hp).symm.trans hj)
    obtain rfl := Except.ok.inj ((hkey q hq).symm.trans hk)
    exact (le_of_zipIdxLE hle).1
  · refine List.pairwise_map.mpr ((hsorted.and hplaces).imp_of_mem fun {p q} hp hq hpq => ?_)
    rintro ⟨j, k, hj, hk, hties⟩
    obtain rfl := Except.ok.inj ((hkey p hp).symm.trans hj)
    obtain rfl := Except.ok.inj ((hkey q hq).symm.trans hk)
    exact Nat.lt_of_le_of_ne ((le_of_zipIdxLE hpq.1).2 hties.symm.le) hpq.2

end

/-- Where all values pass a test, there is no objection to any. -/
theorem objection?_of_forall {test : Value → Bool} {vs : List Value} (h : ∀ v ∈ vs, test v = true) :
    objection? test vs = none := by
  have hpass : vs.find? (fun v => !test v) = none := by
    refine List.find?_eq_none.mpr fun v hv => ?_
    rw [h v hv]
    exact Bool.false_ne_true
  rw [objection?, hpass]

end Value

variable {σ : Type} {settings : Settings} {host : Host σ} {w w' w₁ w₂ : World σ}

namespace StandardMacro

open Lambda
open Value (Before Tied naturalKey)

/-! ## What a stable sort is -/

/-- A value with its key, and the place that it had. -/
structure Row where
  key : Value
  value : Value
  place : Nat

/-- Keys and values that belong together place by place. -/
def rows (keys values : List Value) : List Row :=
  (keys.zip values).zipIdx.map fun p => ⟨p.1.1, p.1.2, p.2⟩

/-- **A stable sort of values by keys:** each value has a key that can be compared.  The rows are all there, in order of
their keys, and those whose keys tie in the order of their places. -/
structure StablySorted (keys values out : List Value) : Prop where
  lengths : keys.length = values.length
  comparable : ∀ k ∈ keys, ∃ j, naturalKey k = .ok j
  ordered : ∃ ordered : List Row, ordered.Perm (rows keys values) ∧ ordered.map Row.value = out ∧
    (ordered.Pairwise fun r s => Before naturalKey r.key s.key) ∧
    ordered.Pairwise fun r s => Tied naturalKey r.key s.key → r.place < s.place

namespace StablySorted

variable {keys values out out' : List Value}

/-- The rows have the values in the order that they had, where there are as many keys. -/
theorem map_value_rows (h : keys.length = values.length) : (rows keys values).map Row.value = values := by
  rw [rows, List.map_map]
  have hvalue : (Row.value ∘ fun p : (Value × Value) × Nat => ⟨p.1.1, p.1.2, p.2⟩) = Prod.snd ∘ Prod.fst := rfl
  rw [hvalue, ← List.map_map, List.zipIdx_map_fst, List.map_snd_zip h.ge]

/-- No value is lost and none is added: the rows are all there, and their values are the values. -/
theorem perm (h : StablySorted keys values out) : out.Perm values := by
  obtain ⟨ordered, hperm, rfl, -⟩ := h.ordered
  have hvalues := hperm.map Row.value
  rwa [map_value_rows h.lengths] at hvalues

/-- The key of a row is one of the keys. -/
theorem mem_keys {r : Row} (h : r ∈ rows keys values) : r.key ∈ keys := by
  obtain ⟨p, hp, rfl⟩ := List.mem_map.mp h
  exact (List.of_mem_zip (List.fst_mem_of_mem_zipIdx hp)).1

/-- **There is one stable order only.**  Two orders of the same rows, each in order of key and place, are the same,
since no two rows tie in both. -/
theorem unique (h : StablySorted keys values out) (h' : StablySorted keys values out') : out = out' := by
  obtain ⟨first, hfirst, rfl, hbefore, hties⟩ := h.ordered
  obtain ⟨second, hsecond, rfl, hbefore', hties'⟩ := h'.ordered
  have hcomparable : ∀ r ∈ first, ∃ j, naturalKey r.key = .ok j := fun r hr =>
    h.comparable r.key (mem_keys (hfirst.mem_iff.mp hr))
  have hperm : first.Perm second := hfirst.trans hsecond.symm
  refine congrArg (List.map Row.value) (hperm.eq_of_pairwise (fun r s hr hs hrs hsr => ?_) (hbefore.and hties)
    (hbefore'.and hties'))
  -- two rows that may stand either way tie, and then each has the lower place
  have htied : Tied naturalKey r.key s.key :=
    Value.tied_of_before (hcomparable r hr) (hcomparable s (hperm.mem_iff.mpr hs)) hrs.1 hsr.1
  exact absurd (hrs.2 htied) (Nat.not_lt_of_lt (hsr.2 htied.symm))

end StablySorted

/-- **What sorting by keys gives is sorted stably.**  Each pair of key and value is taken with its place; sorting
keeps pairs that tie in the order of their places. -/
theorem stable_of_sortByKeys {keys values : List Value} {v : Value} (hlength : keys.length = values.length)
    (h : sortByKeys values keys settings = .ok v) : ∃ out, v = .array out ∧ StablySorted keys values out := by
  -- there is a result, so nothing was objected to and the pairs were sorted
  obtain ⟨sorted, hsorts, h⟩ : ∃ sorted : List (Value × Value),
      Value.sortOn (fun pair => naturalKey pair.1) (keys.zip values) = .ok sorted ∧
        Except.ok (.array (sorted.map Prod.snd)) = (Except.ok v : Except Failure Value) := by
    unfold sortByKeys at h
    cases hobjection : Value.objection? isSortable keys with
    | some bad =>
      rw [hobjection] at h
      obtain ⟨_, -, h⟩ := Check.bind_eq_ok.mp h
      obtain ⟨_, hfail, -⟩ := Check.bind_eq_ok.mp h
      exact absurd hfail Check.fail_ne_ok
    | none =>
      rw [hobjection] at h
      obtain ⟨sorted, hsorts, h⟩ := Check.bind_eq_ok.mp h
      exact ⟨sorted, Check.lift_eq_ok.mp hsorts, h⟩
  refine ⟨sorted.map Prod.snd, (Except.ok.inj h).symm, hlength, fun k hk => ?_, ?_⟩
  · rw [← List.map_fst_zip hlength.le] at hk
    obtain ⟨pair, hpair, rfl⟩ := List.mem_map.mp hk
    exact (Value.of_sortOn hsorts).1 pair hpair
  · obtain ⟨placed, hperm, hmap, hbefore, hties⟩ := Value.placed_sortOn hsorts
    refine ⟨placed.map fun p => ⟨p.1.1, p.1.2, p.2⟩, hperm.map _, ?_, ?_, ?_⟩
    · rw [← hmap, List.map_map, List.map_map]
      rfl
    · exact List.pairwise_map.mpr hbefore
    · exact List.pairwise_map.mpr hties

/-- Values whose keys are in order stay where they are. -/
theorem sortByKeys_of_before {keys values : List Value} (hlength : keys.length = values.length)
    (hsortable : Value.objection? isSortable keys = none) (hkeys : ∀ k ∈ keys, ∃ j, naturalKey k = .ok j)
    (h : keys.Pairwise (Before naturalKey)) : sortByKeys values keys settings = .ok (.array values) := by
  have hpairs : Value.sortOn (fun pair => naturalKey pair.1) (keys.zip values) = .ok (keys.zip values) := by
    refine Value.sortOn_of_before (fun pair hpair => hkeys pair.1 (List.of_mem_zip hpair).1) ?_
    rw [← List.map_fst_zip hlength.le, List.pairwise_map] at h
    exact h
  unfold sortByKeys
  rw [hsortable]
  refine (Check.bind_of_ok (Check.lift_eq_ok.mpr hpairs)).trans ?_
  rw [List.map_snd_zip hlength.ge]
  rfl

/-! ## Where the keys come from -/

variable {l : Lambda} {text : String} {passed values keys out : List Value}

/-- What sorting does with an item: it records what is made of it, or that it was passed over. -/
def recordKey (_ : Value) (outcome : Option Value) (rest : List Value) : List Value := outcome.getD .filtered :: rest

/-- **The loop of `sorted` visits its items.**  It is one of the loops of `Visits`, with its own way to record what
has become of an item. -/
theorem visits_keysFrom (hl : l.Loops) (hvia : l.via = some text) :
    Visits host settings l l.via recordKey (keysFrom host l) where
  ends _ _ := rfl
  stops h _ := Run.bind_of_error (applyOrStop_alterCall hl hvia h)
  goesOn {w item pos outcome w'} h items := by
    have hstep : keysFrom host l pos (item :: items) settings w =
        (do return recordKey item outcome (← keysFrom host l (pos + 1) items)) settings w' :=
      Run.bind_of_ok (applyOrStop_alterCall hl hvia h)
    rw [hstep, map_run]

/-- What it gathers is a key for each item; one that was passed over has the mark for that. -/
theorem gathered_recordKey {items : List Value} {outcomes : List (Option Value)} (h : outcomes.length = items.length) :
    gathered recordKey items outcomes = outcomes.map fun outcome => outcome.getD .filtered := by
  conv_rhs => rw [← List.map_snd_zip h.le, List.map_map, List.map_eq_foldr]
  rfl

/-- **What values are sorted by:** themselves, or what a lambda in front of them makes of each in its turn. -/
inductive KeysOf (host : Host σ) (settings : Settings) (w : World σ) :
    List Value → List Value → List Value → World σ → Prop
  | themselves {values : List Value} : (∀ l rest, values ≠ .lambda l :: rest) →
      KeysOf host settings w values values values w
  | transformed {l : Lambda} {values : List Value} {outcomes : List (Option Value)} {w' : World σ} :
      l.shape = [.via] → InTurn host settings l l.via w 1 values outcomes w' →
      KeysOf host settings w (.lambda l :: values) values (outcomes.map fun outcome => outcome.getD .filtered) w'

/-- There are as many keys as values. -/
theorem KeysOf.length_eq (h : KeysOf host settings w passed values keys w') : keys.length = values.length := by
  cases h with
  | themselves _ => rfl
  | transformed _ hturn => rw [List.length_map, hturn.length_eq]

/-- Values without a lambda in front are sorted by themselves. -/
theorem KeysOf.eq_of_plain (h : KeysOf host settings w passed values keys w')
    (hother : ∀ l rest, passed ≠ .lambda l :: rest) : values = passed ∧ keys = passed := by
  cases h with
  | themselves _ => exact ⟨rfl, rfl⟩
  | transformed _ _ => exact absurd rfl (hother _ _)

/-- A lambda whose only clause is a transform is one that loops can use. -/
theorem loops_of_via (h : l.shape = [.via]) : l.Loops ∧ ∃ text, l.via = some text := by
  have hhas : ∀ c, l.has c = [Clause.via].contains c := by
    intro c
    rw [Bool.eq_iff_iff, List.contains_iff_mem, ← h, Lambda.shape, List.mem_filter]
    exact ⟨fun hc => ⟨Entry.mem_all c, hc⟩, fun hc => hc.2⟩
  exact ⟨loops_of_shape hhas rfl rfl, Option.isSome_iff_exists.mp (hhas .via)⟩

/-! ## The macro -/

/-- Without a lambda in front, the values are their own keys. -/
theorem sortValues_plain (h : ∀ l values, passed ≠ .lambda l :: values) :
    sortValues host passed = liftM (sortByKeys passed passed) := by
  unfold sortValues
  split
  · rename_i l values
    exact absurd rfl (h l values)
  · rfl

/-- With a lambda that has only a transform, its results are the keys. -/
theorem sortValues_lambda (h : l.shape = [.via]) (values : List Value) :
    sortValues host (.lambda l :: values) = (do sortByKeys values (← keysFrom host l 1 values) : Run σ Value) := by
  rw [sortValues, if_neg (not_not_intro h)]

/-- **Whatever the macro gives is an array,** and sorted stably by the keys of its values.  The two cases are those of
a lambda in front and of none. -/
theorem sortValues_stable {v : Value} (h : sortValues host passed settings w = (.ok v, w')) :
    ∃ values keys out, KeysOf host settings w passed values keys w' ∧ v = .array out ∧
      StablySorted keys values out := by
  by_cases hlambda : ∃ l values, passed = .lambda l :: values
  · obtain ⟨l, values, rfl⟩ := hlambda
    by_cases hshape : l.shape = [.via]
    · obtain ⟨hl, text, hvia⟩ := loops_of_via hshape
      rw [sortValues_lambda hshape] at h
      obtain ⟨keys, w₁, hkeys, h⟩ := Run.bind_eq_ok.mp h
      obtain ⟨rfl, hsorts⟩ := Run.check_eq_ok.mp h
      -- the keys are what the lambda makes of the values, one after another; a failure would have ended the call
      have hvisits : Visits host settings l l.via recordKey (keysFrom host l) := visits_keysFrom hl hvia
      rcases inTurn_or_fails host settings l l.via values w 1 with
        ⟨outcomes, w₂, hturn⟩ | ⟨before, item, later, outcomes, w₂, e, w₃, rfl, hturn, hfails⟩
      · obtain ⟨hgathered, rfl⟩ := Prod.mk.inj (hkeys.symm.trans (hvisits.gives hturn))
        obtain rfl := Except.ok.inj hgathered
        rw [gathered_recordKey hturn.length_eq] at hsorts
        have hkeysof : KeysOf host settings w (.lambda l :: values) values _ w' := .transformed hshape hturn
        obtain ⟨out, rfl, hstable⟩ := stable_of_sortByKeys hkeysof.length_eq hsorts
        exact ⟨values, _, out, hkeysof, rfl, hstable⟩
      · exact nomatch hkeys.symm.trans (hvisits.fails hturn hfails later)
    · rw [sortValues, if_pos hshape] at h
      obtain ⟨_, w₁, hfail, -⟩ := Run.bind_eq_ok.mp h
      exact absurd (Run.check_eq_ok.mp hfail).2 Check.fail_ne_ok
  · have hother : ∀ l values, passed ≠ .lambda l :: values := fun l values heq => hlambda ⟨l, values, heq⟩
    rw [sortValues_plain hother] at h
    obtain ⟨rfl, hsorts⟩ := Run.check_eq_ok.mp h
    obtain ⟨out, rfl, hstable⟩ := stable_of_sortByKeys rfl hsorts
    exact ⟨passed, passed, out, .themselves hother, rfl, hstable⟩

end StandardMacro

/-! ## Calls -/

/-- What has become an array in the hands of whoever called was one. -/
theorem Value.of_adopt_array {v : Value} {next : Nat} {out : List Value} (h : (v.adopt next).1 = .array out) :
    ∃ items, v = .array items ∧ out = (Value.adoptAll next items).1 := by
  cases v with
  | array items => exact ⟨items, rfl, (Value.array.inj h).symm⟩
  | _ => exact nomatch h

namespace Registry

open StandardMacro

/-- A call of `sorted` that gives an array has sorted what dispatch lets through. -/
theorem sortValues_of_call {r : Registry} {name : String} {args out : List Value}
    (hbody : (r.get? name).map Macro.body = some (.standard .sorted))
    (hcall : r.call host name args settings w = (.ok (.array out), w')) :
    ∃ m passed w₁ ordered w₂, r.get? name = some m ∧
      Dispatch.arguments ⟨name, m.signature⟩ args settings w = (.ok passed, w₁) ∧
      sortValues host passed settings w₁ = (.ok (.array ordered), w₂) ∧
      ∃ next, out = (Value.adoptAll next ordered).1 := by
  obtain ⟨m, hget, hbody⟩ := Option.map_eq_some_iff.mp hbody
  obtain ⟨passed, w₁, answer, w₂, hpassed, hperform, hadopt⟩ := of_call hget hcall nofun
  obtain ⟨ordered, rfl, hout⟩ := Value.of_adopt_array hadopt.symm
  rw [hbody] at hperform
  exact ⟨m, passed, w₁, ordered, w₂, hget, hpassed, hperform, _, hout⟩

/-- **Every call of `sorted` that gives an array gives a stable sort:** of the values that dispatch lets through, by
themselves or by what the lambda in front of them makes of them.  The array holds the sorted values in the hands of
whoever called. -/
theorem call_sorted_stable {r : Registry} {name : String} {args out : List Value}
    (hbody : (r.get? name).map Macro.body = some (.standard .sorted))
    (hcall : r.call host name args settings w = (.ok (.array out), w')) :
    ∃ m passed w₁ values keys w₂ ordered next, r.get? name = some m ∧
      Dispatch.arguments ⟨name, m.signature⟩ args settings w = (.ok passed, w₁) ∧
      KeysOf host settings w₁ passed values keys w₂ ∧ StablySorted keys values ordered ∧
      ordered.Perm values ∧ out = (Value.adoptAll next ordered).1 := by
  obtain ⟨m, passed, w₁, ordered, w₂, hget, hpassed, hsorts, next, hout⟩ := sortValues_of_call hbody hcall
  obtain ⟨values, keys, sorted, hkeys, heq, hstable⟩ := sortValues_stable hsorts
  obtain rfl := Value.array.inj heq
  exact ⟨m, passed, w₁, values, keys, w₂, ordered, next, hget, hpassed, hkeys, hstable, hstable.perm, hout⟩

/-! ### Strings and numbers -/

/-- Whether a macro sorts, and takes any number of values. -/
def sortsAny (m : Macro) : Bool :=
  match m.body, m.signature.fixed, m.signature.rest with
  | .standard .sorted, [], some (.any, 0) => true
  | _, _, _ => false

/-- The standard library has the macro under its name. -/
theorem exists_sorted : ∃ m, standard.get? "sorted" = some m ∧ m.body = .standard .sorted ∧
    m.signature = ⟨[], some (.any, 0)⟩ := by
  have hfound : (standard.get? "sorted").map sortsAny = some true := by
    rw [standard_eq_listed]
    decide +kernel
  obtain ⟨m, hget, hsorts⟩ := Option.map_eq_some_iff.mp hfound
  obtain ⟨names, body, ⟨fixed, rest⟩, returns⟩ := m
  unfold sortsAny at hsorts
  split at hsorts
  · rename_i hbody hfixed hrest
    exact ⟨_, hget, hbody, congrArg₂ Signature.mk hfixed hrest⟩
  · exact nomatch hsorts

/-- What is found there sorts. -/
theorem body_sorted : (standard.get? "sorted").map Macro.body = some (.standard .sorted) := by
  obtain ⟨m, hget, hbody, -⟩ := exists_sorted
  rw [hget]
  exact congrArg some hbody

/-- What can be sorted stands for itself, being a text or a number. -/
theorem plain_of_isSortable {v : Value} (h : isSortable v = true) : v.Plain := by
  cases v with
  | string s => exact ⟨.other nofun nofun, nofun⟩
  | number n => exact ⟨.other nofun nofun, nofun⟩
  | _ => exact nomatch h

/-- What can be sorted can be kept, so dispatch lets it through. -/
theorem accepts_of_isSortable {v : Value} (h : isSortable v = true) : Entry.accepts v .any settings = .ok true := by
  cases v with
  | string s => rfl
  | number n => rfl
  | _ => exact nomatch h

/-- **A call with strings and numbers is sorting them,** by themselves.  Dispatch spreads nothing, refuses nothing,
and the result gets tags that it has no use for. -/
theorem call_of_sortByKeys {r : Registry} {name : String} (hsorted : r.get? name = standard.get? "sorted")
    {values out : List Value} (hsortable : ∀ v ∈ values, isSortable v = true)
    (h : sortByKeys values values settings = .ok (.array out)) (host : Host σ) (w : World σ) :
    (r.call host name values settings w).1 = .ok (.array (Value.adoptAll w.fresh out).1) := by
  obtain ⟨m, hget, hbody, hsignature⟩ := exists_sorted
  have hplain : ∀ v ∈ values, v.Plain := fun v hv => plain_of_isSortable (hsortable v hv)
  have haccepted : ∀ v ∈ values, v.ErrorFree ∧ Entry.accepts v .any settings = .ok true := fun v hv =>
    ⟨(hplain v hv).1, accepts_of_isSortable (hsortable v hv)⟩
  have hother : ∀ l rest, values ≠ .lambda l :: rest := by
    rintro l rest rfl
    exact nomatch hsortable (.lambda l) List.mem_cons_self
  show _ = Except.ok (Value.adopt w.fresh (.array out)).1
  refine call_of_checked (hsorted.trans hget) (fun v hv => (hplain v hv).1)
    (Dispatch.Callee.spreadArguments_plain hplain) ?_ fun w' => ?_
  · rw [hsignature]
    cases values with
    | nil => rfl
    | cons v values => exact CustomMacro.checkRest_accepted haccepted 0
  · rw [hbody]
    show sortValues host values settings w' = _
    rw [sortValues_plain hother]
    exact Run.check_eq_ok.mpr ⟨rfl, h⟩

/-- Two numbers that may stand in the order that they have are given in it. -/
theorem call_sorted_pair {x y : Number} (hx : x.isNumber = true) (hy : y.isNumber = true)
    (h : Value.checkBefore (.number x) (.number y) = .ok true) (host : Host σ) (w : World σ) :
    ∃ w', standard.call host "sorted" [.number x, .number y] settings w =
      (.ok (.array (Value.adoptAll w.fresh [.number x, .number y]).1), w') := by
  have hsortable : ∀ v ∈ [Value.number x, .number y], isSortable v = true :=
    List.forall_mem_cons.mpr ⟨hx, List.forall_mem_singleton.mpr hy⟩
  obtain ⟨hkeys, hbefore⟩ := Value.of_checkBefore h
  have hsorts : sortByKeys [.number x, .number y] [.number x, .number y] settings = .ok (.array [.number x, .number y]) :=
    sortByKeys_of_before rfl (Value.objection?_of_forall hsortable) hkeys (List.pairwise_pair.mpr hbefore)
  exact Run.exists_of_fst (call_of_sortByKeys rfl hsortable hsorts host w)

/-- A double and an integer that tie. -/
def tiedZeros : List Value := [.number (.real .zero), .number (.int 0)]

/-- The double stays in front of the integer, where it was. -/
theorem sorted_tiedZeros :
    let settings : Settings := Settings.usual
    (standard.get? "sorted").map Macro.body = some (.standard .sorted) ∧
      (∃ w', standard.call placing "sorted" tiedZeros settings (World.start [] ()) = (.ok (.array tiedZeros), w')) ∧
      ∃ passed keys values ordered next w₁ w₂, KeysOf placing settings w₁ passed values keys w₂ ∧
        StablySorted keys values ordered ∧ tiedZeros = (Value.adoptAll next ordered).1 := by
  intro settings
  obtain ⟨w', hcall⟩ : ∃ w', standard.call placing "sorted" tiedZeros settings (World.start [] ()) =
      (.ok (.array tiedZeros), w') := call_sorted_pair rfl rfl (by decide +kernel) placing (World.start [] ())
  obtain ⟨m, passed, w₁, values, keys, w₂, ordered, next, -, -, hkeys, hstable, -, hout⟩ :=
    call_sorted_stable body_sorted hcall
  exact ⟨body_sorted, ⟨w', hcall⟩, passed, keys, values, ordered, next, w₁, w₂, hkeys, hstable, hout⟩

end Registry

end StoryValues
