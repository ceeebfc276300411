import StoryValues.Collection.Dataset
import StoryValues.Proofs.Value.Equality
import StoryValues.Proofs.Value.Printing

/-
  MEMBERSHIP in datasets.  The members of a dataset make a **set** (`IsSet`) when no two of them are
  equal.  Equality being an equivalence, membership is then all there is to know of a set: every
  operation on sets gives a set, and says of each value whether it is in (`Yields`).

  The operations that combine two datasets add the members of one or of both to an empty one, in natural
  order, so all of them rest on adding (`add_yields`); all that take away rest on discarding, which in a
  set takes one member or none (`discard_cases`).
-/

namespace StoryValues

namespace Dataset

open Value

/-! ## Sets -/

/-- A dataset has a value: asking its members in turn says yes. -/
def Holds (members : List Value) (v : Value) : Prop := has members v = .ok true

/-- A value that can be a member: in good order at every depth, and with a natural key. -/
def Fit (v : Value) : Prop := v.Everywhere Proper ∧ ∃ key, v.naturalKey = .ok key

/-- Members that make a set: each can be a member, and no two are equal. -/
structure IsSet (members : List Value) : Prop where
  fit : ∀ m ∈ members, Fit m
  differ : members.Pairwise fun m m' => ¬ Equal m m'

variable {a b c : List Value} {v x : Value}

/-- Members are proper all through, so they can be compared. -/
theorem IsSet.proper (ha : IsSet a) : ∀ m ∈ a, m.Everywhere Proper := fun m hm => (ha.fit m hm).1

/-- What is left of a set when members are taken away is a set. -/
theorem IsSet.sublist (ha : IsSet a) (h : b.Sublist a) : IsSet b :=
  ⟨fun m hm => ha.fit m (h.subset hm), ha.differ.sublist h⟩

/-- No members make a set. -/
theorem isSet_nil : IsSet [] := ⟨fun _ hm => absurd hm List.not_mem_nil, List.Pairwise.nil⟩

/-- An operation gives a set, and a value is in it iff the value has a property. -/
def Yields (r : Except Fault (List Value)) (p : Value → Prop) : Prop :=
  ∃ c, r = .ok c ∧ IsSet c ∧ ∀ x, x.Everywhere Proper → (Holds c x ↔ p x)

/-- What an operation gives is a set. -/
theorem Yields.isSet {r : Except Fault (List Value)} {p : Value → Prop} (h : Yields r p) (hc : r = .ok c) :
    IsSet c := by
  obtain ⟨c', hc', hset, _⟩ := h
  exact Except.ok.inj (hc'.symm.trans hc) ▸ hset

/-- What is yielded may be said in other words, as long as these agree on proper values. -/
theorem Yields.congr {r : Except Fault (List Value)} {p q : Value → Prop} (h : Yields r p)
    (hpq : ∀ x, x.Everywhere Proper → (p x ↔ q x)) : Yields r q := by
  obtain ⟨c, hc, hset, hholds⟩ := h
  exact ⟨c, hc, hset, fun x hx => (hholds x hx).trans (hpq x hx)⟩

/-! ## Membership -/

/-- Asking a dataset for a value says whether a member equals it. -/
theorem decides_has (ha : ∀ m ∈ a, m.Everywhere Proper) (hx : x.Everywhere Proper) :
    Decides (has a x) (∃ m ∈ a, Equal m x) := by
  refine Decides.anyM fun m hm => ?_
  obtain ⟨r, hr⟩ := equals_answers (ha m hm) hx
  exact Decides.of_answer hr

/-- A dataset holds what equals one of its members. -/
theorem holds_iff (ha : ∀ m ∈ a, m.Everywhere Proper) (hx : x.Everywhere Proper) :
    Holds a x ↔ ∃ m ∈ a, Equal m x := (decides_has ha hx).iff_ok_true

/-- What equals a value is in a dataset if that is. -/
theorem IsSet.holds_of_equal (ha : IsSet a) (hv : v.Everywhere Proper) (hx : x.Everywhere Proper)
    (h : Holds a v) (heq : Equal v x) : Holds a x := by
  obtain ⟨m, hm, hmv⟩ := (holds_iff ha.proper hv).mp h
  exact (holds_iff ha.proper hx).mpr ⟨m, hm, equal_trans (ha.proper m hm) hv hx hmv heq⟩

/-! ## Adding -/

/-- Adding a value changes nothing if it is there, and else puts it at the end. -/
theorem add_cases (ha : IsSet a) (hv : Fit v) :
    Holds a v ∧ add a v = .ok a ∨ has a v = .ok false ∧ add a v = .ok (a ++ [v]) := by
  obtain ⟨yes, hhas, _⟩ := decides_has ha.proper hv.1
  cases yes with
  | true =>
    refine Or.inl ⟨hhas, ?_⟩
    rw [add, hhas]
    rfl
  | false =>
    refine Or.inr ⟨hhas, ?_⟩
    rw [add, hhas]
    rfl

/-- A value that is not there makes a set with the members, in either order of asking, since equality is symmetric. -/
theorem isSet_append (ha : IsSet a) (hv : Fit v) (habsent : has a v = .ok false) : IsSet (a ++ [v]) where
  fit := by
    intro m hm
    rcases List.mem_append.mp hm with hm | hm
    · exact ha.fit m hm
    · exact List.mem_singleton.mp hm ▸ hv
  differ := by
    refine List.pairwise_append.mpr ⟨ha.differ, List.pairwise_singleton _ _, fun m hm w hw heq => ?_⟩
    obtain rfl := List.mem_singleton.mp hw
    have hholds : Holds a w := (holds_iff ha.proper hv.1).mpr ⟨m, hm, heq⟩
    rw [Holds, habsent] at hholds
    exact nomatch hholds

/-- **Adding** a value puts in what equals it. -/
theorem add_yields (ha : IsSet a) (hv : Fit v) : Yields (add a v) fun x => Holds a x ∨ Equal v x := by
  rcases add_cases ha hv with ⟨hholds, hadd⟩ | ⟨habsent, hadd⟩
  · refine ⟨a, hadd, ha, fun x hx => ⟨Or.inl, fun h => ?_⟩⟩
    rcases h with h | h
    · exact h
    · exact ha.holds_of_equal hv.1 hx hholds h
  · have hset := isSet_append ha hv habsent
    refine ⟨a ++ [v], hadd, hset, fun x hx => ?_⟩
    simp only [holds_iff hset.proper hx, holds_iff ha.proper hx]
    constructor
    · rintro ⟨m, hm, heq⟩
      rcases List.mem_append.mp hm with hm | hm
      · exact Or.inl ⟨m, hm, heq⟩
      · exact Or.inr (List.mem_singleton.mp hm ▸ heq)
    · rintro (⟨m, hm, heq⟩ | heq)
      · exact ⟨m, List.mem_append_left _ hm, heq⟩
      · exact ⟨v, List.mem_append_right _ (List.mem_singleton.mpr rfl), heq⟩

/-- Adding values one after another, by induction on them. -/
theorem addAll_yields (ha : IsSet a) {vs : List Value} (hvs : ∀ v ∈ vs, Fit v) :
    Yields (addAll a vs) fun x => Holds a x ∨ ∃ v ∈ vs, Equal v x := by
  induction vs generalizing a with
  | nil =>
    refine ⟨a, rfl, ha, fun x _ => ⟨Or.inl, ?_⟩⟩
    rintro (h | ⟨v, hv, _⟩)
    · exact h
    · exact absurd hv List.not_mem_nil
  | cons v vs ih =>
    obtain ⟨hv, hvs⟩ := List.forall_mem_cons.mp hvs
    obtain ⟨r, hadd, hr, hmem⟩ := add_yields ha hv
    obtain ⟨s, haddAll, hs, hmem'⟩ := ih hr hvs
    refine ⟨s, ?_, hs, fun x hx => ?_⟩
    · rw [addAll, hadd]
      exact haddAll
    · simp only [hmem' x hx, hmem x hx, List.exists_mem_cons_iff, or_assoc]

/-! ## Taking away -/

/-- Discarding goes through the members, and leaves out those that equal the value. -/
theorem discard_cons {m : Value} {yes : Bool} (h : equals m v = .ok yes) :
    discard (m :: a) v = (discard a v).map fun rest => if yes then rest else m :: rest := by
  rw [discard, h]
  rfl

/-- Nothing is taken away that is not there. -/
theorem discard_absent (ha : ∀ m ∈ a, equals m v = .ok false) : discard a v = .ok a := by
  induction a with
  | nil => rfl
  | cons m a ih =>
    obtain ⟨hm, ha⟩ := List.forall_mem_cons.mp ha
    rw [discard_cons hm, ih ha]
    rfl

/-- **Taking away** a value takes one member that equals it, if there is one; in a set there is no other. -/
theorem discard_cases (ha : IsSet a) (hv : v.Everywhere Proper) :
    has a v = .ok false ∧ discard a v = .ok a ∨
    Holds a v ∧ ∃ before m after, a = before ++ m :: after ∧ Equal m v ∧
      discard a v = .ok (before ++ after) := by
  induction a with
  | nil => exact Or.inl ⟨rfl, rfl⟩
  | cons m a ih =>
    have hm := (ha.fit m List.mem_cons_self).1
    have ha' := ha.sublist (List.sublist_cons_self m a)
    obtain ⟨hdiffer, _⟩ := List.pairwise_cons.mp ha.differ
    obtain ⟨yes, hequals⟩ := equals_answers hm hv
    cases yes with
    | true =>
      -- no other member equals the value, or it would equal this one
      have hothers : ∀ m' ∈ a, equals m' v = .ok false := by
        intro m' hm'
        have hm'p := ha'.proper m' hm'
        obtain ⟨yes, hequals'⟩ := equals_answers hm'p hv
        cases yes with
        | false => exact hequals'
        | true => exact absurd (equal_trans hm hv hm'p hequals (equal_symm hm'p hv hequals')) (hdiffer m' hm')
      refine Or.inr ⟨?_, [], m, a, rfl, hequals, ?_⟩
      · exact (holds_iff ha.proper hv).mpr ⟨m, List.mem_cons_self, hequals⟩
      · rw [discard_cons hequals, discard_absent hothers]
        rfl
    | false =>
      have hhas : has (m :: a) v = has a v := by
        show (equals m v >>= fun yes => _) = _
        rw [hequals]
        rfl
      rcases ih ha' with ⟨habsent, hdiscard⟩ | ⟨hholds, before, m', after, rfl, heq, hdiscard⟩
      · refine Or.inl ⟨hhas.trans habsent, ?_⟩
        rw [discard_cons hequals, hdiscard]
        rfl
      · refine Or.inr ⟨hhas.trans hholds, m :: before, m', after, rfl, heq, ?_⟩
        rw [discard_cons hequals, hdiscard]
        rfl

/-- What is left holds what was there and does not equal the value.  That a member which is left equals nothing that
equals the value is where transitivity comes in. -/
theorem holds_discard (ha : IsSet a) (hv : v.Everywhere Proper) (hr : discard a v = .ok c)
    (hx : x.Everywhere Proper) : Holds c x ↔ Holds a x ∧ ¬ Equal v x := by
  rcases discard_cases ha hv with ⟨habsent, hdiscard⟩ | ⟨_, before, m, after, rfl, heq, hdiscard⟩
  · obtain rfl : a = c := Except.ok.inj (hdiscard.symm.trans hr)
    refine ⟨fun h => ⟨h, fun heq => ?_⟩, fun h => h.1⟩
    have hholds : Holds a v := ha.holds_of_equal hx hv h (equal_symm hv hx heq)
    rw [Holds, habsent] at hholds
    exact nomatch hholds
  · obtain rfl : before ++ after = c := Except.ok.inj (hdiscard.symm.trans hr)
    have hmiddle : List.Sublist (before ++ after) (before ++ m :: after) :=
      (List.sublist_cons_self m after).append_left before
    have hset := ha.sublist hmiddle
    have hmproper := ha.proper m (List.mem_append_right _ List.mem_cons_self)
    -- the member that went is unequal to all that stayed
    have hdiffer : ∀ m' ∈ before ++ after, ¬ Equal m' m := by
      obtain ⟨_, hafter, hbetween⟩ := List.pairwise_append.mp ha.differ
      intro m' hm' hequal
      have hm'proper := hset.proper m' hm'
      rcases List.mem_append.mp hm' with hm' | hm'
      · exact hbetween m' hm' m List.mem_cons_self hequal
      · exact (List.pairwise_cons.mp hafter).1 m' hm' (equal_symm hm'proper hmproper hequal)
    rw [holds_iff hset.proper hx, holds_iff ha.proper hx]
    constructor
    · rintro ⟨m', hm', hm'x⟩
      refine ⟨⟨m', hmiddle.subset hm', hm'x⟩, fun hvx => hdiffer m' hm' ?_⟩
      have hm'proper := hset.proper m' hm'
      exact equal_trans hm'proper hx hmproper hm'x
        (equal_symm hmproper hx (equal_trans hmproper hv hx heq hvx))
    · rintro ⟨⟨m', hm', hm'x⟩, hne⟩
      rcases List.mem_append.mp hm' with hm' | hm'
      · exact ⟨m', List.mem_append_left _ hm', hm'x⟩
      · rcases List.mem_cons.mp hm' with rfl | hm'
        · exact absurd (equal_trans hv hmproper hx (equal_symm hmproper hv heq) hm'x) hne
        · exact ⟨m', List.mem_append_right _ hm', hm'x⟩

/-- **Discarding** takes out what equals the value, and nothing else. -/
theorem discard_yields (ha : IsSet a) (hv : v.Everywhere Proper) :
    Yields (discard a v) fun x => Holds a x ∧ ¬ Equal v x := by
  rcases discard_cases ha hv with ⟨_, hdiscard⟩ | ⟨_, before, m, after, rfl, _, hdiscard⟩
  · exact ⟨a, hdiscard, ha, fun x hx => holds_discard ha hv hdiscard hx⟩
  · refine ⟨before ++ after, hdiscard, ?_, fun x hx => holds_discard ha hv hdiscard hx⟩
    exact ha.sublist ((List.sublist_cons_self m after).append_left before)

/-- A value that is there is removed by taking it away. -/
theorem remove_of_holds (h : Holds a v) : remove a v = discard a v := by
  rw [remove, h]
  rfl

/-- Removing a value that is not there is a mistake of the host. -/
theorem remove_of_lacks (h : has a v = .ok false) : remove a v = .error (.missingKey "") := by
  rw [remove, h]
  rfl

/-- Going through a dataset in natural order meets each member once. -/
theorem sorted_perm (ha : IsSet a) : ∃ ordered, sorted a = .ok ordered ∧ ordered.Perm a :=
  sortOn_perm fun m hm => (ha.fit m hm).2

/-- **Taking the first:** a set that is not empty gives a member and what is left without it.  The first in natural
order is a member, and discarding it takes one away. -/
theorem pop_spec (ha : IsSet a) (hne : a ≠ []) : ∃ first rest, pop a = .ok (first, rest) ∧ first ∈ a ∧
    discard a first = .ok rest ∧ IsSet rest ∧ rest.length + 1 = a.length := by
  obtain ⟨ordered, hsorted, hperm⟩ := sorted_perm ha
  cases ordered with
  | nil => exact absurd (List.nil_perm.mp hperm) hne
  | cons first others =>
    have hfirst : first ∈ a := hperm.mem_iff.mp List.mem_cons_self
    have hproper := ha.proper first hfirst
    have hpop : pop a = discard a first >>= fun rest => pure (first, rest) := by
      rw [pop, hsorted]
      rfl
    rcases discard_cases ha hproper with ⟨habsent, _⟩ | ⟨_, before, m, after, rfl, _, hdiscard⟩
    · -- a member is there, for it equals itself
      have hholds : Holds a first := (holds_iff ha.proper hproper).mpr ⟨first, hfirst, equal_refl hproper⟩
      rw [Holds, habsent] at hholds
      exact nomatch hholds
    · refine ⟨first, before ++ after, ?_, hfirst, hdiscard, ?_, ?_⟩
      · rw [hpop, hdiscard]
        rfl
      · exact ha.sublist ((List.sublist_cons_self m after).append_left before)
      · rw [List.length_append, List.length_append, List.length_cons]
        omega

/-- There is nothing to take from an empty dataset. -/
theorem pop_nil : pop [] = .error (.missingKey "") := by
  obtain ⟨ordered, hsorted, hperm⟩ := sorted_perm isSet_nil
  obtain rfl := hperm.eq_nil
  rw [pop, hsorted]
  rfl

/-- Clearing a set ends with nothing, by induction on its size: each round takes one member. -/
theorem clear_spec {members : List Value} (ha : IsSet members) : clear members = some (.ok []) := by
  by_cases hne : members = []
  · subst hne
    rw [clear, pop_nil]
  · obtain ⟨first, rest, hpop, _, _, hrest, hlength⟩ := pop_spec ha hne
    have hless : rest.length < members.length := by omega
    rw [clear, hpop]
    show (if _h : rest.length < members.length then clear rest else none) = _
    rw [dif_pos hless]
    exact clear_spec hrest
termination_by members.length

/-! ## Algebra -/

/-- Of the values that are gone through, those are kept that are, or are not, members. -/
theorem keep_spec (hb : IsSet b) (wanted : Bool) {vs : List Value} (hvs : ∀ v ∈ vs, Fit v) :
    ∃ r, keep wanted b vs = .ok r ∧ ∀ v, v ∈ r ↔ v ∈ vs ∧ has b v = .ok wanted := by
  induction vs with
  | nil => exact ⟨[], rfl, fun v => ⟨fun h => absurd h List.not_mem_nil, fun h => h.1⟩⟩
  | cons v vs ih =>
    obtain ⟨hv, hvs⟩ := List.forall_mem_cons.mp hvs
    obtain ⟨r, hkeep, hmem⟩ := ih hvs
    obtain ⟨yes, hhas, _⟩ := decides_has hb.proper hv.1
    refine ⟨if yes = wanted then v :: r else r, ?_, fun w => ?_⟩
    · rw [keep, hhas, hkeep]
      rfl
    · -- the first value is kept, or left out
      by_cases hyes : yes = wanted
      · rw [if_pos hyes, List.mem_cons, List.mem_cons, hmem]
        constructor
        · rintro (rfl | ⟨hw, hhas'⟩)
          · exact ⟨Or.inl rfl, hyes ▸ hhas⟩
          · exact ⟨Or.inr hw, hhas'⟩
        · rintro ⟨rfl | hw, hhas'⟩
          · exact Or.inl rfl
          · exact Or.inr ⟨hw, hhas'⟩
      · rw [if_neg hyes, List.mem_cons, hmem]
        constructor
        · rintro ⟨hw, hhas'⟩
          exact ⟨Or.inr hw, hhas'⟩
        · rintro ⟨rfl | hw, hhas'⟩
          · exact absurd (Except.ok.inj (hhas.symm.trans hhas')) hyes
          · exact ⟨hw, hhas'⟩

/-- A new dataset holds what equals one of its values. -/
theorem addAll_nil_yields {vs : List Value} (hvs : ∀ v ∈ vs, Fit v) :
    Yields (addAll [] vs) fun x => ∃ v ∈ vs, Equal v x :=
  (addAll_yields isSet_nil hvs).congr fun _ _ => ⟨fun h => h.resolve_left nofun, Or.inr⟩

/-- **The union** of two sets holds what either holds. -/
theorem union_yields (ha : IsSet a) (hb : IsSet b) : Yields (union a b) fun x => Holds a x ∨ Holds b x := by
  obtain ⟨as, hsorta, hperma⟩ := sorted_perm ha
  obtain ⟨bs, hsortb, hpermb⟩ := sorted_perm hb
  obtain ⟨first, hadd, hfirst, hmem⟩ := addAll_nil_yields fun v hv => ha.fit v (hperma.mem_iff.mp hv)
  obtain ⟨r, hadd', hr, hmem'⟩ := addAll_yields hfirst fun v hv => hb.fit v (hpermb.mem_iff.mp hv)
  refine ⟨r, ?_, hr, fun x hx => ?_⟩
  · rw [union, hsorta, hsortb]
    show (addAll [] as >>= fun first => addAll first bs) = _
    rw [hadd]
    exact hadd'
  · simp only [hmem' x hx, hmem x hx, holds_iff ha.proper hx, holds_iff hb.proper hx, hperma.mem_iff,
      hpermb.mem_iff]

/-- The members of one dataset that are, or are not, in another.  Intersection and difference are this with one answer
or the other. -/
theorem sift_yields (ha : IsSet a) (hb : IsSet b) (wanted : Bool) :
    Yields (sorted a >>= fun as => keep wanted b as >>= fun kept => addAll [] kept)
      fun x => Holds a x ∧ has b x = .ok wanted := by
  obtain ⟨as, hsorta, hperma⟩ := sorted_perm ha
  have hfit : ∀ v ∈ as, Fit v := fun v hv => ha.fit v (hperma.mem_iff.mp hv)
  obtain ⟨kept, hkeep, hkept⟩ := keep_spec hb wanted hfit
  obtain ⟨r, hadd, hr, hmem⟩ := addAll_nil_yields fun v hv => hfit v ((hkept v).mp hv).1
  refine ⟨r, ?_, hr, fun x hx => ?_⟩
  · rw [hsorta]
    show (keep wanted b as >>= fun kept => addAll [] kept) = _
    rw [hkeep]
    exact hadd
  · -- a member and what equals it are in the other dataset both or neither
    have hhas : ∀ v ∈ a, Equal v x → has b v = has b x := by
      intro v hv heq
      have hvp := ha.proper v hv
      refine Decides.unique (decides_has hb.proper hvp) (decides_has hb.proper hx) ?_
      rw [← holds_iff hb.proper hvp, ← holds_iff hb.proper hx]
      exact ⟨fun h => hb.holds_of_equal hvp hx h heq, fun h => hb.holds_of_equal hx hvp h (equal_symm hvp hx heq)⟩
    simp only [hmem x hx, holds_iff ha.proper hx]
    constructor
    · rintro ⟨v, hv, heq⟩
      obtain ⟨hvas, hwanted⟩ := (hkept v).mp hv
      have hva := hperma.mem_iff.mp hvas
      exact ⟨⟨v, hva, heq⟩, hhas v hva heq ▸ hwanted⟩
    · rintro ⟨⟨v, hv, heq⟩, hwanted⟩
      exact ⟨v, (hkept v).mpr ⟨hperma.mem_iff.mpr hv, (hhas v hv heq).trans hwanted⟩, heq⟩

/-- **The intersection** holds what both datasets hold. -/
theorem intersection_yields (ha : IsSet a) (hb : IsSet b) :
    Yields (intersection a b) fun x => Holds a x ∧ Holds b x :=
  (sift_yields hb ha true).congr fun _ _ => and_comm

/-- A dataset lacks a value iff it does not have it. -/
theorem IsSet.lacks_iff (ha : IsSet a) (hx : x.Everywhere Proper) : has a x = .ok false ↔ ¬ Holds a x := by
  obtain ⟨yes, hhas, _⟩ := decides_has ha.proper hx
  rw [Holds, hhas]
  cases yes <;> decide

/-- **The difference** holds what the first dataset holds and the second does not. -/
theorem difference_yields (ha : IsSet a) (hb : IsSet b) :
    Yields (difference a b) fun x => Holds a x ∧ ¬ Holds b x :=
  (sift_yields ha hb false).congr fun _ hx => and_congr_right' (hb.lacks_iff hx)

/-- **The symmetric difference** holds what exactly one of the two datasets holds. -/
theorem symmetric_yields (ha : IsSet a) (hb : IsSet b) :
    Yields (symmetric a b) fun x => Xor (Holds a x) (Holds b x) := by
  obtain ⟨first, hfirst, hfirstset, hmem⟩ := difference_yields ha hb
  obtain ⟨second, hsecond, hsecondset, hmem'⟩ := difference_yields hb ha
  obtain ⟨r, hr, hset, hmem''⟩ := union_yields hfirstset hsecondset
  refine ⟨r, ?_, hset, fun x hx => ?_⟩
  · rw [symmetric, hfirst, hsecond]
    exact hr
  · simp only [hmem'' x hx, hmem x hx, hmem' x hx]
    rfl

end Dataset

end StoryValues
