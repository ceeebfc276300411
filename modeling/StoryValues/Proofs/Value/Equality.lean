import StoryValues.Proofs.Number.Exact
import StoryValues.Proofs.Value.Agreement

/-
  EQUALITY IS AN EQUIVALENCE.

  On values that are in good order at every depth (`Value.Proper`), the operator `is` always gives an
  answer, every value is equal to itself, the two sides may change places, and what is equal to equals is
  equal.

  1. **One step** — `Agree` is reflexive, transitive and symmetric where the relation between parts is
     (`Agree.refl`, `Agree.trans`, `Agree.symm`).  Symmetry is where the work is: datamaps and datasets
     are compared one way only, from the entries of the first to those of the second, and the other way
     follows by counting.  For that no two members of the first may find the same partner in the second,
     which is symmetry and transitivity on the members.
  2. **All steps** — by induction on a bound of the sizes, since the parts of three values are compared
     with each other in either order (`equal_trans`, `equal_symm`).
  3. **The whole** (`equals_equivalence`), with what equality of identical data and of numbers means.
-/

namespace StoryValues

namespace Value

/-! ## One step -/

namespace Agree

variable {R : Value → Value → Prop} {Q : Value → Prop} {a b c : Value}

/-- A value in good order agrees with itself, if its parts are related to themselves.  Names and hook names find
themselves because they are what they are. -/
theorem refl (ha : a.Proper) (h : ∀ x ∈ a.parts, R x x) : Agree R a a := by
  cases a with
  | number n => exact .number (Number.sameDatum_equivalence.refl n)
  | array items => exact .array (List.forall₂_same.mpr h)
  | datamap tag entries =>
    refine .datamap rfl fun e he => ⟨e, he, Name.same_refl (ha.1 e he), ?_⟩
    exact h e.2 (List.mem_map_of_mem he)
  | dataset tag members => exact .dataset rfl fun x hx => ⟨x, hx, h x hx⟩
  | datatype d => exact .datatype (Datatype.same_equivalence.refl d)
  | typedVar v => exact .typedVar (TypedVar.same_equivalence.refl v)
  | spread v => exact .spread (h v (List.mem_singleton.mpr rfl))
  | changer nodes =>
    refine .changer (List.forall₂_same.mpr fun n hn => ⟨rfl, List.forall₂_same.mpr fun x hx => ?_⟩)
    exact h x (List.mem_flatMap.mpr ⟨n, hn, hx⟩)
  | colour c => exact .colour (Colour.same_equivalence.refl c)
  | gradient g => exact .gradient (Gradient.same_refl ha)
  | hooks names => exact .hooks (sameHooks_equivalence.refl names)
  | _ => exact .individual rfl

/-- Agreement goes on from one pair to the next, if the relation between parts does.  Only parts of the three values
are compared, which the induction below makes use of. -/
theorem trans (hR : ∀ x y z, Q x → Q y → Q z → R x y → R y z → R x z) (ha : ∀ x ∈ a.parts, Q x)
    (hb : ∀ x ∈ b.parts, Q x) (hc : ∀ x ∈ c.parts, Q x) (hab : Agree R a b) (hbc : Agree R b c) :
    Agree R a c := by
  cases hab with
  | individual _ => exact hbc
  | number h =>
    cases hbc with
    | individual h' => exact .number h
    | number h' => exact .number (Number.sameDatum_equivalence.trans h h')
  | array h =>
    cases hbc with
    | individual _ => exact .array h
    | array h' =>
      exact .array (forall₂_trans (fun x hx y hy z hz => hR x y z (ha x hx) (hb y hy) (hc z hz)) h h')
  | datamap hlen h =>
    cases hbc with
    | individual _ => exact .datamap hlen h
    | datamap hlen' h' =>
      refine .datamap (hlen.trans hlen') fun e he => ?_
      obtain ⟨e', he', hname, hvalue⟩ := h e he
      obtain ⟨e'', he'', hname', hvalue'⟩ := h' e' he'
      refine ⟨e'', he'', Name.same_trans hname' hname, ?_⟩
      exact hR e.2 e'.2 e''.2 (ha _ (List.mem_map_of_mem he)) (hb _ (List.mem_map_of_mem he'))
        (hc _ (List.mem_map_of_mem he'')) hvalue hvalue'
  | dataset hlen h =>
    cases hbc with
    | individual _ => exact .dataset hlen h
    | dataset hlen' h' =>
      -- members are compared the other way round, so the chain runs backwards
      refine .dataset (hlen.trans hlen') fun x hx => ?_
      obtain ⟨y, hy, hyx⟩ := h x hx
      obtain ⟨z, hz, hzy⟩ := h' y hy
      exact ⟨z, hz, hR z y x (hc z hz) (hb y hy) (ha x hx) hzy hyx⟩
  | datatype h =>
    cases hbc with
    | individual _ => exact .datatype h
    | datatype h' => exact .datatype (Datatype.same_equivalence.trans h h')
  | typedVar h =>
    cases hbc with
    | individual _ => exact .typedVar h
    | typedVar h' => exact .typedVar (TypedVar.same_equivalence.trans h h')
  | @spread v w h =>
    cases hbc with
    | individual _ => exact .spread h
    | @spread _ u h' =>
      exact .spread (hR v w u (ha v (List.mem_singleton.mpr rfl)) (hb w (List.mem_singleton.mpr rfl))
        (hc u (List.mem_singleton.mpr rfl)) h h')
  | changer h =>
    cases hbc with
    | individual _ => exact .changer h
    | changer h' =>
      refine .changer (forall₂_trans (fun n hn m hm k hk hnm hmk => ⟨hnm.1.trans hmk.1, ?_⟩) h h')
      refine forall₂_trans (fun x hx y hy z hz => hR x y z ?_ ?_ ?_) hnm.2 hmk.2
      · exact ha x (List.mem_flatMap.mpr ⟨n, hn, hx⟩)
      · exact hb y (List.mem_flatMap.mpr ⟨m, hm, hy⟩)
      · exact hc z (List.mem_flatMap.mpr ⟨k, hk, hz⟩)
  | colour h =>
    cases hbc with
    | individual _ => exact .colour h
    | colour h' => exact .colour (Colour.same_equivalence.trans h h')
  | gradient h =>
    cases hbc with
    | individual _ => exact .gradient h
    | gradient h' => exact .gradient (Gradient.same_trans h h')
  | hooks h =>
    cases hbc with
    | individual _ => exact .hooks h
    | hooks h' => exact .hooks (sameHooks_equivalence.trans h h')

/-- Names that are all different find different partners among the names of another datamap.  This is what the
counting needs by which symmetry follows. -/
theorem partners_differ {xs ys : List (Name × Value)} (hxs : xs.Pairwise fun e e' => ¬ e.1.same e'.1 = true) :
    xs.Pairwise fun e e' => ∀ f ∈ ys, f.1.same e.1 = true ∧ R e.2 f.2 →
      ¬ (f.1.same e'.1 = true ∧ R e'.2 f.2) := by
  refine hxs.imp fun {e e'} hdiffer f _ hf hf' => ?_
  exact hdiffer (Name.same_trans (Name.same_symm hf.1) hf'.1)

/-- **Agreement goes both ways,** if equality of parts does, and goes on from one pair to the next.  Where the
comparison is made from one side only, the other follows by counting. -/
theorem symm (htrans : ∀ x y z, Q x → Q y → Q z → Equal x y → Equal y z → Equal x z)
    (hsymm : ∀ x y, Q x → Q y → Equal x y → Equal y x) (horderly : a.Orderly)
    (ha : ∀ x ∈ a.parts, Q x) (hb : ∀ x ∈ b.parts, Q x) (hab : Agree Equal a b) : Agree Equal b a := by
  cases hab with
  | individual h => exact .individual h
  | number h => exact .number (Number.sameDatum_equivalence.symm h)
  | array h => exact .array (forall₂_symm (fun x hx y hy => hsymm x y (ha x hx) (hb y hy)) h)
  | @datamap s t xs ys hlen h =>
    -- every entry of the second has a partner in the first, by counting
    have hcover := covers_of_length_eq hlen h (partners_differ horderly)
    refine .datamap hlen.symm fun e' he' => ?_
    obtain ⟨e, he, hname, hvalue⟩ := hcover e' he'
    refine ⟨e, he, Name.same_symm hname, ?_⟩
    exact hsymm e.2 e'.2 (ha _ (List.mem_map_of_mem he)) (hb _ (List.mem_map_of_mem he')) hvalue
  | @dataset s t xs ys hlen h =>
    -- two members with the same partner would be equal, and the members are all different
    have hdiffer : xs.Pairwise fun x x' => ∀ y ∈ ys, Equal y x → ¬ Equal y x' := by
      refine horderly.2.imp_of_mem fun {x x'} hx hx' hne y hy hyx hyx' => hne ?_
      exact htrans x y x' (ha x hx) (hb y hy) (ha x' hx')
        (hsymm y x (hb y hy) (ha x hx) hyx) hyx'
    have hcover := covers_of_length_eq hlen h hdiffer
    refine .dataset hlen.symm fun y hy => ?_
    obtain ⟨x, hx, hyx⟩ := hcover y hy
    exact ⟨x, hx, hsymm y x (hb y hy) (ha x hx) hyx⟩
  | datatype h => exact .datatype (Datatype.same_equivalence.symm h)
  | typedVar h => exact .typedVar (TypedVar.same_equivalence.symm h)
  | @spread v w h =>
    exact .spread (hsymm v w (ha v (List.mem_singleton.mpr rfl)) (hb w (List.mem_singleton.mpr rfl)) h)
  | changer h =>
    refine .changer (forall₂_symm (fun n hn m hm hnm => ⟨hnm.1.symm, ?_⟩) h)
    refine forall₂_symm (fun x hx y hy => hsymm x y ?_ ?_) hnm.2
    · exact ha x (List.mem_flatMap.mpr ⟨n, hn, hx⟩)
    · exact hb y (List.mem_flatMap.mpr ⟨m, hm, hy⟩)
  | colour h => exact .colour (Colour.same_equivalence.symm h)
  | gradient h => exact .gradient (Gradient.same_symm h)
  | hooks h => exact .hooks (sameHooks_equivalence.symm h)

end Agree

/-! ## All steps -/

/-- Comparing values that can be compared at every depth gives an answer.  By induction on both, as the comparison
goes. -/
theorem answers_of_comparable {a b : Value} (ha : a.Everywhere Comparable) (hb : b.Everywhere Comparable) :
    ∃ r, equals a b = .ok r := by
  have hparts : ∀ x ∈ a.parts, ∀ y ∈ b.parts,
      (∃ r, equals x y = .ok r) ∧ ∃ r, equals y x = .ok r := by
    intro x hx y hy
    have hxa := sizeOf_lt_of_mem_parts hx
    have hyb := sizeOf_lt_of_mem_parts hy
    exact ⟨answers_of_comparable (ha.inside hx) (hb.inside hy),
      answers_of_comparable (hb.inside hy) (ha.inside hx)⟩
  obtain ⟨r, hr, _⟩ := decides_agree ha.here hb.here hparts
  exact ⟨r, hr⟩
termination_by sizeOf a + sizeOf b

variable {a b c : Value}

/-- **Values are equal iff they agree,** up to equality of their parts. -/
theorem equal_iff_agree (ha : a.Everywhere Comparable) (hb : b.Everywhere Comparable) :
    Equal a b ↔ Agree Equal a b := by
  refine Decides.iff_ok_true (decides_agree ha.here hb.here fun x hx y hy => ?_)
  exact ⟨answers_of_comparable (ha.inside hx) (hb.inside hy),
    answers_of_comparable (hb.inside hy) (ha.inside hx)⟩

/-- Values in good order can be compared. -/
theorem Everywhere.orderly (ha : a.Everywhere Proper) : a.Everywhere Orderly := ha.mono Proper.orderly

/-- And so at every depth: what is orderly can be sorted where it is compared. -/
theorem Everywhere.comparable (ha : a.Everywhere Orderly) : a.Everywhere Comparable :=
  ha.mono Orderly.comparable

/-- Comparing values in good order gives an answer. -/
theorem equals_answers (ha : a.Everywhere Proper) (hb : b.Everywhere Proper) :
    ∃ r, equals a b = .ok r :=
  answers_of_comparable ha.orderly.comparable hb.orderly.comparable

/-- A value in good order is equal to itself, by induction on it. -/
theorem equal_refl (ha : a.Everywhere Proper) : Equal a a := by
  induction ha with
  | intro hproper hparts ih =>
    have ha := (Everywhere.intro hproper hparts).orderly.comparable
    exact (equal_iff_agree ha ha).mpr (Agree.refl hproper ih)

/-- An orderly value of less than a size. -/
def OrderlyBelow (n : Nat) (v : Value) : Prop := v.Everywhere Orderly ∧ sizeOf v < n

/-- Parts are smaller than what they are parts of, and orderly too. -/
theorem OrderlyBelow.inside {n : Nat} (ha : OrderlyBelow (n + 1) a) : ∀ x ∈ a.parts, OrderlyBelow n x := by
  intro x hx
  have hsize := sizeOf_lt_of_mem_parts hx
  exact ⟨ha.1.inside hx, by have := ha.2; omega⟩

/-- What is equal to equals is equal; the induction is on a bound of the sizes.  A structural one would not do, since
the three values lose a layer each at once. -/
theorem equal_trans_below (n : Nat) : ∀ a b c, OrderlyBelow n a → OrderlyBelow n b → OrderlyBelow n c →
    Equal a b → Equal b c → Equal a c := by
  induction n with
  | zero => exact fun a b c ha => absurd ha.2 (Nat.not_lt_zero _)
  | succ n ih =>
    intro a b c ha hb hc hab hbc
    rw [equal_iff_agree ha.1.comparable hb.1.comparable] at hab
    rw [equal_iff_agree hb.1.comparable hc.1.comparable] at hbc
    rw [equal_iff_agree ha.1.comparable hc.1.comparable]
    exact Agree.trans ih ha.inside hb.inside hc.inside hab hbc

/-- Two sides that are equal may change places; the induction is on a bound of the sizes.  It needs transitivity for
parts, which is there already. -/
theorem equal_symm_below (n : Nat) : ∀ a b, OrderlyBelow n a → OrderlyBelow n b → Equal a b → Equal b a := by
  induction n with
  | zero => exact fun a b ha => absurd ha.2 (Nat.not_lt_zero _)
  | succ n ih =>
    intro a b ha hb hab
    rw [equal_iff_agree ha.1.comparable hb.1.comparable] at hab
    rw [equal_iff_agree hb.1.comparable ha.1.comparable]
    exact Agree.symm (equal_trans_below n) ih ha.1.here ha.inside hb.inside hab

/-- The bound plays no part: it is chosen above all three sizes. -/
theorem Orderly.equal_trans (ha : a.Everywhere Orderly) (hb : b.Everywhere Orderly)
    (hc : c.Everywhere Orderly) (hab : Equal a b) (hbc : Equal b c) : Equal a c :=
  equal_trans_below (sizeOf a + sizeOf b + sizeOf c + 1) a b c ⟨ha, by omega⟩ ⟨hb, by omega⟩
    ⟨hc, by omega⟩ hab hbc

/-- Nor here, above both. -/
theorem Orderly.equal_symm (ha : a.Everywhere Orderly) (hb : b.Everywhere Orderly) (hab : Equal a b) :
    Equal b a :=
  equal_symm_below (sizeOf a + sizeOf b + 1) a b ⟨ha, by omega⟩ ⟨hb, by omega⟩ hab

/-- What is equal to equals is equal, for values in good order. -/
theorem equal_trans (ha : a.Everywhere Proper) (hb : b.Everywhere Proper) (hc : c.Everywhere Proper)
    (hab : Equal a b) (hbc : Equal b c) : Equal a c :=
  Orderly.equal_trans ha.orderly hb.orderly hc.orderly hab hbc

/-- And two such values may change sides. -/
theorem equal_symm (ha : a.Everywhere Proper) (hb : b.Everywhere Proper) (hab : Equal a b) : Equal b a :=
  Orderly.equal_symm ha.orderly hb.orderly hab

/-! ## The whole -/

/-- An individual agrees with itself only. -/
theorem Agree.individual_iff {R : Value → Value → Prop} (ha : a.isIndividual = true) :
    Agree R a b ↔ a = b := by
  constructor
  · intro h
    cases h with
    | individual _ => rfl
    | _ => exact absurd ha Bool.false_ne_true
  · rintro rfl
    exact .individual ha

/-- An individual is equal to itself and to nothing else. -/
theorem decides_individual (ha : a.isIndividual = true) : Decides (equals a b) (a = b) := by
  unfold equals
  split
  · rename_i hplain
    exact (Decides.of_bool _).congr ((samePlain_iff hplain).trans (Agree.individual_iff (R := Eq) ha))
  · -- no individual is of a kind that has a rule of its own
    split
    iterate 10 exact absurd ha Bool.false_ne_true
    exact (Decides.of_bool _).congr beq_iff_eq

/-- Numbers are equal iff they are of the same value. -/
theorem decides_number {m n : Number} (hm : m.isNumber = true) (hn : n.isNumber = true) :
    Decides (equals (.number m) (.number n)) (m.exact = n.exact) := by
  have hplain : ((Value.number m).isPlain || (Value.number n).isPlain) = true := by
    simp [isPlain, hm]
  unfold equals
  rw [if_pos hplain]
  exact (Decides.of_bool _).congr (Number.sameValue_iff_exact hm hn)

/-- **Equality is an equivalence** on values that are in good order at every depth, and it always gives
an answer there.  Data that are told apart by identity (errors, commands, lambdas and custom macros), and
plain data but numbers, are equal to themselves only; numbers are equal iff they stand for the same. -/
theorem equals_equivalence (ha : a.Everywhere Proper) (hb : b.Everywhere Proper)
    (hc : c.Everywhere Proper) :
    equals a a = .ok true ∧
    (∃ r, equals a b = .ok r ∧ equals b a = .ok r) ∧
    (equals a b = .ok true → equals b c = .ok true → equals a c = .ok true) ∧
    (∀ x y, x.isIndividual = true → Decides (equals x y) (x = y)) ∧
    (∀ m n : Number, m.isNumber = true → n.isNumber = true →
      Decides (equals (.number m) (.number n)) (m.exact = n.exact)) := by
  refine ⟨equal_refl ha, ?_, equal_trans ha hb hc, fun x y hx => decides_individual hx,
    fun m n hm hn => decides_number hm hn⟩
  obtain ⟨r, hr⟩ := equals_answers ha hb
  obtain ⟨r', hr'⟩ := equals_answers hb ha
  have hsame : equals a b = equals b a :=
    Decides.unique (Decides.of_answer hr) (Decides.of_answer hr')
      ⟨equal_symm ha hb, equal_symm hb ha⟩
  exact ⟨r, hr, hsame ▸ hr⟩

/-- A dataset of the number one and a list. -/
def oneThenList : Value := .dataset (some 1) [.number (.int 1), .array [.string "x"]]

/-- A dataset of the same members the other way round, with the number as a double. -/
def listThenOne : Value :=
  .dataset (some 2) [.array [.string "x"], .number (.real (.finite false ⟨1023, by decide⟩ ⟨0, twoTo_pos 52⟩))]

/-- Where there are no parts, it is enough that something holds of the value itself. -/
theorem everywhere_of_parts_nil {P : Value → Prop} (hparts : a.parts = []) (h : P a) : a.Everywhere P :=
  .intro h fun _ hx => absurd (hparts ▸ hx) List.not_mem_nil

/-- Where there is one, it has to hold everywhere in that as well. -/
theorem everywhere_of_parts_one {P : Value → Prop} (hparts : a.parts = [b]) (h : P a) (hb : b.Everywhere P) :
    a.Everywhere P :=
  .intro h (hparts ▸ List.forall_mem_singleton.mpr hb)

/-- Where there are two, in both. -/
theorem everywhere_of_parts_two {P : Value → Prop} (hparts : a.parts = [b, c]) (h : P a) (hb : b.Everywhere P)
    (hc : c.Everywhere P) : a.Everywhere P :=
  .intro h (hparts ▸ List.forall_mem_cons.mpr ⟨hb, List.forall_mem_singleton.mpr hc⟩)

/-- A list of one string is in good order. -/
theorem everywhere_list : (Value.array [.string "x"]).Everywhere Proper :=
  everywhere_of_parts_one rfl trivial (everywhere_of_parts_nil rfl trivial)

/-- Plain values that are told apart by their data are not equal. -/
theorem not_equal_of_samePlain (hplain : (a.isPlain || b.isPlain) = true) (h : samePlain a b = false) :
    ¬ Equal a b := by
  rw [Equal, equals.eq_def, if_pos hplain, h]
  exact fun h => nomatch h

/-- That a key was computed can be evaluated, where there is no need to say which. -/
theorem exists_key_of_isOk (h : (naturalKey a).isOk = true) : ∃ key, naturalKey a = .ok key := by
  cases hkey : naturalKey a with
  | ok key => exact ⟨key, rfl⟩
  | error f =>
    rw [hkey] at h
    exact nomatch h

/-- A dataset of two members that differ and have keys is in good order, if they are. -/
theorem everywhere_pair {tag : Tag} (ha : a.Everywhere Proper) (hb : b.Everywhere Proper)
    (hkeya : (naturalKey a).isOk = true) (hkeyb : (naturalKey b).isOk = true) (hne : ¬ Equal a b) :
    (Value.dataset tag [a, b]).Everywhere Proper := by
  refine everywhere_of_parts_two rfl ⟨fun v hv => ?_, List.pairwise_pair.mpr hne⟩ ha hb
  rcases List.mem_pair.mp hv with rfl | rfl
  · exact exists_key_of_isOk hkeya
  · exact exists_key_of_isOk hkeyb

/-- The first dataset of the example is in good order. -/
theorem proper_oneThenList : oneThenList.Everywhere Proper :=
  everywhere_pair (everywhere_of_parts_nil rfl trivial) everywhere_list (by decide +kernel)
    (by decide) (not_equal_of_samePlain rfl rfl)

/-- So is the second. -/
theorem proper_listThenOne : listThenOne.Everywhere Proper :=
  everywhere_pair everywhere_list (everywhere_of_parts_nil rfl trivial) (by decide)
    (by decide) (not_equal_of_samePlain rfl rfl)

/-- Two datasets with equal members in another order are equal both ways. -/
theorem equals_oneThenList :
    oneThenList.Everywhere Proper ∧ listThenOne.Everywhere Proper ∧
      ∃ r, equals oneThenList listThenOne = .ok r ∧ equals listThenOne oneThenList = .ok r :=
  ⟨proper_oneThenList, proper_listThenOne,
    (equals_equivalence proper_oneThenList proper_listThenOne proper_oneThenList).2.1⟩

end Value

end StoryValues
