import StoryValues.Proofs.Macro.Sorting
import StoryValues.Proofs.Number.Rounding

/-
  SORTED NUMBERS are in order of their nearest doubles, and not always of their values.

  1. **A stable sort by less than is asked for** (`StablySorted.pairwise_iff`).  Let a relation hold wherever one value
     comes strictly before another.  Then it holds all along the sorted values iff it held already between any two that
     tie, in the order that they had.
  2. **Numbers by their doubles** — the one comes strictly before the other only if its value is less, since rounding
     keeps the order; but neighbours may share a double (`Number.SharesDouble`).
  3. **A call with finite numbers** gives the numbers, and in order of their values iff those that share a double were in
     that order before (`Registry.call_sorted_numbers`).  Two integers past 2 ^ 53 that were not stay as they are
     (`Registry.sorted_neighbours`).
-/

namespace StoryValues

variable {σ : Type} {settings : Settings} {host : Host σ} {w w' : World σ}

namespace StandardMacro

open Value (Before Tied naturalKey)

/-! ## Sorting by less than is asked for -/

/-- Of two elements of a list all of whose elements are related, one is related to the other. -/
theorem rel_or_rel {α : Type} {R : α → α → Prop} {xs : List α} {x y : α} (h : xs.Pairwise R) (hx : x ∈ xs)
    (hy : y ∈ xs) (hne : x ≠ y) : R x y ∨ R y x := by
  have : Std.Symm fun a b => R a b ∨ R b a := ⟨fun _ _ => Or.symm⟩
  have heither : xs.Pairwise fun a b => R a b ∨ R b a := h.imp Or.inl
  exact heither.forall hx hy hne

/-- Values that are their own keys make rows with both the same. -/
theorem key_eq_value {values : List Value} {r : Row} (h : r ∈ rows values values) : r.key = r.value := by
  obtain ⟨p, hp, rfl⟩ := List.mem_map.mp h
  obtain ⟨i, hi, heq⟩ := List.mem_iff_getElem.mp (List.fst_mem_of_mem_zipIdx hp)
  rw [List.getElem_zip] at heq
  show p.1.1 = p.1.2
  rw [← heq]

/-- The rows stand in the order of their places. -/
theorem pairwise_place_rows (keys values : List Value) : (rows keys values).Pairwise fun r s => r.place < s.place := by
  refine List.pairwise_map.mpr (List.pairwise_map.mp ?_)
  rw [List.zipIdx_map_snd]
  exact List.pairwise_lt_range' 1

/-- **What a stable sort puts in order:** a relation that holds wherever one value comes strictly before another holds all
along the sorted values iff it held of those that tie, in the order that they had. -/
theorem StablySorted.pairwise_iff {values out : List Value} {R : Value → Value → Prop}
    (h : StablySorted values values out)
    (hR : ∀ v ∈ values, ∀ u ∈ values, Before naturalKey v u → ¬ Tied naturalKey v u → R v u) :
    out.Pairwise R ↔ values.Pairwise fun v u => Tied naturalKey v u → R v u := by
  obtain ⟨ordered, hperm, rfl, hbefore, hties⟩ := h.ordered
  have hrow : ∀ r ∈ ordered, r.key = r.value ∧ r.value ∈ values := by
    intro r hr
    have hmem : r ∈ rows values values := hperm.mem_iff.mp hr
    exact ⟨key_eq_value hmem, key_eq_value hmem ▸ StablySorted.mem_keys hmem⟩
  have hvalues := StablySorted.map_value_rows h.lengths
  have hplaces := pairwise_place_rows values values
  constructor
  · intro hout
    have hsorted := (List.pairwise_map.mp hout).and hties
    rw [← hvalues]
    refine List.pairwise_map.mpr (hplaces.imp_of_mem fun {r s} hr hs hlt htied => ?_)
    have hne : r ≠ s := fun heq => Nat.ne_of_lt hlt (congrArg Row.place heq)
    -- the later of the two in the list cannot stand first, because it ties
    rcases rel_or_rel hsorted (hperm.mem_iff.mpr hr) (hperm.mem_iff.mpr hs) hne with hrs | hsr
    · exact hrs.1
    · rw [key_eq_value hr, key_eq_value hs] at hsr
      exact absurd (hsr.2 htied.symm) (Nat.not_lt_of_lt hlt)
  · intro hin
    rw [← hvalues, List.pairwise_map] at hin
    refine List.pairwise_map.mpr ((hbefore.and hties).imp_of_mem fun {r s} hr hs hrs => ?_)
    obtain ⟨hrkey, hrmem⟩ := hrow r hr
    obtain ⟨hskey, hsmem⟩ := hrow s hs
    rw [hrkey, hskey] at hrs
    by_cases htied : Tied naturalKey r.value s.value
    · have hlt := hrs.2 htied
      have hne : r ≠ s := fun heq => Nat.ne_of_lt hlt (congrArg Row.place heq)
      rcases rel_or_rel (hin.and hplaces) (hperm.mem_iff.mp hr) (hperm.mem_iff.mp hs) hne with hboth | hboth
      · exact hboth.1 htied
      · exact absurd hboth.2 (Nat.not_lt_of_lt hlt)
    · exact hR _ hrmem _ hsmem hrs.1 htied

end StandardMacro

/-! ## Numbers by their doubles -/

namespace Number

variable {m n : Number} {x y : Double}

/-- Two numbers share a double: those nearest to them are of one value. -/
def SharesDouble (m n : Number) : Prop :=
  ∃ x y, m.toDouble = .ok x ∧ n.toDouble = .ok y ∧ (Number.real x).sameValue (.real y) = true

end Number

/-- By their keys, doubles between the infinities stand in the order of their units. -/
theorem NaturalKey.units_le_of_le {x y : Double} (hx : (Number.real x).side = 0) (hy : (Number.real y).side = 0)
    (h : NaturalKey.le [.numeral x ""] [.numeral y ""] = true) : x.units ≤ y.units := by
  by_contra hlt
  have hunits : compare x.units y.units = .gt := Int.compare_eq_gt.mpr (Int.not_le.mp hlt)
  have hvalues : KeyPart.compareValues x y = .gt := by
    rw [KeyPart.compareValues, hx, hy, hunits]
    rfl
  rw [NaturalKey.le, NaturalKey.order, KeyPart.order, hvalues] at h
  exact Bool.false_ne_true h

namespace Value

section

variable {m n : Number}

/-- Numbers in the order of their keys have doubles in that order. -/
theorem doubles_of_before (hm : m.IsFinite) (hn : n.IsFinite) (hkm : ∃ j, naturalKey (.number m) = .ok j)
    (hkn : ∃ k, naturalKey (.number n) = .ok k) (h : Before naturalKey (.number m) (.number n)) :
    ∃ x y, m.toDouble = .ok x ∧ n.toDouble = .ok y ∧ (Number.real x).side = 0 ∧ (Number.real y).side = 0 ∧
      x.units ≤ y.units := by
  obtain ⟨j, hj⟩ := hkm
  obtain ⟨k, hk⟩ := hkn
  have hle := h j k hj hk
  rw [naturalKey_number hm.1] at hj
  rw [naturalKey_number hn.1] at hk
  obtain ⟨x, hx, rfl⟩ := NaturalKey.of_ofNumber hj
  obtain ⟨y, hy, rfl⟩ := NaturalKey.of_ofNumber hk
  obtain ⟨-, s, e, f, rfl⟩ := Number.units_toDouble hm hx
  obtain ⟨-, t, e', f', rfl⟩ := Number.units_toDouble hn hy
  exact ⟨_, _, hx, hy, rfl, rfl, NaturalKey.units_le_of_le rfl rfl hle⟩

/-- **Which number comes strictly before another has the lesser value.**  If it were greater, its double would not be
less, and then the two would tie. -/
theorem exact_le_of_before (hm : m.IsFinite) (hn : n.IsFinite) (hkm : ∃ j, naturalKey (.number m) = .ok j)
    (hkn : ∃ k, naturalKey (.number n) = .ok k) (h : Before naturalKey (.number m) (.number n))
    (huntied : ¬ Tied naturalKey (.number m) (.number n)) : m.exact ≤ n.exact := by
  obtain ⟨x, y, hx, hy, hsx, hsy, hunits⟩ := doubles_of_before hm hn hkm hkn h
  rw [Number.exact_le_iff hm.side_eq hn.side_eq]
  by_contra hlt
  -- if the values were the other way round, rounding would put the doubles so too, and they would tie
  have hback := Number.toDouble_mono hn hm hy hx (Int.le_of_lt (Int.not_le.mp hlt))
  refine huntied ((tied_number_iff hm.1 hn.1).mpr ⟨x, y, hx, hy, ?_⟩)
  exact Number.sameValue_iff.mpr ⟨NaturalKey.isNumber_of_toDouble hm.1 hx, NaturalKey.isNumber_of_toDouble hn.1 hy,
    hsx.trans hsy.symm, Int.le_antisymm hunits hback⟩

end

/-- If both are numbers, the first is no more than the second. -/
def AtMost (v u : Value) : Prop := ∀ m n, v = .number m → u = .number n → m.exact ≤ n.exact

/-- At most, of numbers, is in the order of their exact values. -/
theorem atMost_number {m n : Number} : AtMost (.number m) (.number n) ↔ m.exact ≤ n.exact := by
  constructor
  · exact fun h => h m n rfl rfl
  · rintro h _ _ ⟨⟩ ⟨⟩
    exact h

/-- Values all of which are numbers are a list of numbers. -/
theorem exists_numbers {vs : List Value} (h : ∀ v ∈ vs, ∃ n, v = .number n) :
    ∃ ms : List Number, vs = ms.map .number := by
  obtain ⟨ms, hms⟩ : vs ∈ Set.range (List.map Value.number) := by
    rw [Set.range_list_map]
    exact fun v hv => (h v hv).imp fun _ => Eq.symm
  exact ⟨ms, hms.symm⟩

/-- A list whose values get no tags gets none. -/
theorem adoptAll_eq_self {vs : List Value} (h : ∀ v ∈ vs, ∀ next, Value.adopt next v = (v, next)) (next : Nat) :
    Value.adoptAll next vs = (vs, next) := by
  induction vs with
  | nil => rfl
  | cons v vs ih =>
    obtain ⟨hv, hvs⟩ := List.forall_mem_cons.mp h
    simp only [Value.adoptAll, hv next, ih hvs]

/-- Finite numbers get no tags. -/
theorem adoptAll_numbers {ms : List Number} (h : ∀ m ∈ ms, m.IsFinite) (next : Nat) :
    Value.adoptAll next (ms.map .number) = (ms.map .number, next) := by
  refine adoptAll_eq_self (List.forall_mem_map.mpr fun m hm next => ?_) next
  cases m with
  | int k => rfl
  | real x =>
    cases x with
    | nan tag => exact nomatch (h _ hm).1
    | _ => rfl

end Value

/-! ## Calls -/

namespace Registry

open StandardMacro

/-- **Sorted numbers are in order of their values iff those that share a double were before.**  A call of `sorted` with
finite numbers and no lambda that gives an array gives the numbers, in order of their nearest doubles. -/
theorem call_sorted_numbers {r : Registry} {name : String} {ns : List Number} {out : List Value}
    (hbody : (r.get? name).map Macro.body = some (.standard .sorted)) (hfinite : ∀ n ∈ ns, n.IsFinite)
    (hcall : r.call host name (ns.map .number) settings w = (.ok (.array out), w')) :
    ∃ ms : List Number, out = ms.map .number ∧ ms.Perm ns ∧
      (ms.Pairwise fun m n => ∃ x y, m.toDouble = .ok x ∧ n.toDouble = .ok y ∧
        (Number.real x).exact ≤ (Number.real y).exact) ∧
      ((ms.Pairwise fun m n => m.exact ≤ n.exact) ↔ ns.Pairwise fun m n => m.SharesDouble n → m.exact ≤ n.exact) := by
  obtain ⟨m, passed, w₁, ordered, w₂, hget, hpassed, hsorts, next, rfl⟩ := sortValues_of_call hbody hcall
  have hplain : ∀ v ∈ ns.map Value.number, v.Plain := by
    intro v hv
    obtain ⟨n, -, rfl⟩ := List.mem_map.mp hv
    exact ⟨.other nofun nofun, nofun⟩
  obtain ⟨hadmits, -, -⟩ := Dispatch.arguments_ok hpassed
  obtain rfl := Except.ok.inj ((Dispatch.Callee.spreadArguments_plain hplain).symm.trans hadmits.spread)
  obtain ⟨values, keys, sorted, hkeys, heq, hstable⟩ := sortValues_stable hsorts
  obtain rfl := Value.array.inj heq
  obtain ⟨rfl, rfl⟩ := hkeys.eq_of_plain fun l rest heq => by
    have hmem : Value.lambda l ∈ ns.map Value.number := heq ▸ List.mem_cons_self
    obtain ⟨n, -, hn⟩ := List.mem_map.mp hmem
    exact nomatch hn
  -- the sorted values are the numbers again, in some order
  obtain ⟨ms, rfl⟩ : ∃ ms : List Number, ordered = ms.map .number := Value.exists_numbers fun v hv => by
    obtain ⟨n, -, rfl⟩ := List.mem_map.mp (hstable.perm.mem_iff.mp hv)
    exact ⟨n, rfl⟩
  have hperm : ms.Perm ns := (List.map_perm_map_iff fun _ _ => Value.number.inj).mp hstable.perm
  have hms : ∀ n ∈ ms, n.IsFinite := fun n hn => hfinite n (hperm.mem_iff.mp hn)
  have hkey : ∀ n ∈ ns, ∃ j, Value.naturalKey (.number n) = .ok j := fun n hn =>
    hstable.comparable _ (List.mem_map_of_mem hn)
  refine ⟨ms, congrArg Prod.fst (Value.adoptAll_numbers hms next), hperm, ?_, ?_⟩
  · -- values that tie may stand either way, so all are in order
    have hbefore : (ms.map Value.number).Pairwise (Value.Before Value.naturalKey) :=
      (hstable.pairwise_iff fun _ _ _ _ h _ => h).mpr (List.pairwise_of_forall fun _ _ => Value.Tied.before)
    refine (List.pairwise_map.mp hbefore).imp_of_mem fun {m n} hm hn h => ?_
    obtain ⟨x, y, hx, hy, hsx, hsy, hunits⟩ := Value.doubles_of_before (hms m hm) (hms n hn)
      (hkey m (hperm.mem_iff.mp hm)) (hkey n (hperm.mem_iff.mp hn)) h
    exact ⟨x, y, hx, hy, (Number.exact_le_iff hsx hsy).mpr hunits⟩
  · have horder : (ms.map Value.number).Pairwise Value.AtMost ↔ (ns.map Value.number).Pairwise fun v u =>
        Value.Tied Value.naturalKey v u → Value.AtMost v u := by
      refine hstable.pairwise_iff fun v hv u hu hbefore huntied => ?_
      obtain ⟨m, hm, rfl⟩ := List.mem_map.mp hv
      obtain ⟨n, hn, rfl⟩ := List.mem_map.mp hu
      exact Value.atMost_number.mpr
        (Value.exact_le_of_before (hfinite m hm) (hfinite n hn) (hkey m hm) (hkey n hn) hbefore huntied)
    rw [List.pairwise_map, List.pairwise_map] at horder
    simp only [Value.atMost_number] at horder
    refine horder.trans (List.Pairwise.iff_of_mem fun {m n} hm hn => ?_)
    rw [Value.tied_number_iff (hfinite m hm).1 (hfinite n hn).1, Number.SharesDouble]

/-! ### Neighbours past 2 ^ 53 -/

/-- The first integer that shares its double with another. -/
def evenNeighbour : Number := .int 9007199254740992

/-- The integer behind it, which has no double of its own. -/
def oddNeighbour : Number := .int 9007199254740993

/-- The even neighbour is the lesser one. -/
theorem exact_neighbours :
    evenNeighbour.exact ≤ oddNeighbour.exact ∧ ¬ oddNeighbour.exact ≤ evenNeighbour.exact := by
  rw [Number.exact_le_iff rfl rfl, Number.exact_le_iff rfl rfl]
  decide +kernel

/-- Both are finite. -/
theorem isFinite_of_mem {n : Number} (h : n ∈ [evenNeighbour, oddNeighbour]) : n.IsFinite := by
  rcases List.mem_pair.mp h with rfl | rfl
  · exact ⟨rfl, rfl⟩
  · exact ⟨rfl, rfl⟩

/-- In the order of their values they stay in it. -/
theorem sorted_neighbours_inOrder :
    let settings : Settings := Settings.usual
    let ns : List Number := [evenNeighbour, oddNeighbour]
    (standard.get? "sorted").map Macro.body = some (.standard .sorted) ∧ (∀ n ∈ ns, n.IsFinite) ∧
      (∃ w', standard.call placing "sorted" (ns.map .number) settings (World.start [] ()) =
        (.ok (.array (ns.map .number)), w')) ∧
      ∃ ms : List Number, ns.map Value.number = ms.map .number ∧ ms.Perm ns ∧
        ms.Pairwise fun m n => m.exact ≤ n.exact := by
  intro settings ns
  obtain ⟨w', hcall⟩ : ∃ w', standard.call placing "sorted" (ns.map .number) settings (World.start [] ()) =
      (.ok (.array (ns.map .number)), w') := call_sorted_pair rfl rfl (by decide +kernel) placing (World.start [] ())
  obtain ⟨ms, hout, hperm, -, horder⟩ := call_sorted_numbers body_sorted (fun n hn => isFinite_of_mem hn) hcall
  have hbefore : ns.Pairwise fun m n => m.SharesDouble n → m.exact ≤ n.exact :=
    List.pairwise_pair.mpr fun _ => exact_neighbours.1
  exact ⟨body_sorted, fun n hn => isFinite_of_mem hn, ⟨w', hcall⟩, ms, hout, hperm, horder.mpr hbefore⟩

/-- **The other way round they stay so, too:** the greater integer is given before the lesser. -/
theorem sorted_neighbours :
    (∀ n ∈ [oddNeighbour, evenNeighbour], n.IsFinite) ∧
      (∃ w', standard.call placing "sorted" [.number oddNeighbour, .number evenNeighbour] Settings.usual
        (World.start [] ()) = (.ok (.array [.number oddNeighbour, .number evenNeighbour]), w')) ∧
      ¬ oddNeighbour.exact ≤ evenNeighbour.exact := by
  refine ⟨fun n hn => isFinite_of_mem (by simpa [or_comm] using hn), ?_, exact_neighbours.2⟩
  exact call_sorted_pair rfl rfl (by decide +kernel) placing (World.start [] ())

end Registry

end StoryValues
