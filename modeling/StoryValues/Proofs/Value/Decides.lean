import Mathlib.Data.Fintype.EquivFin
import Mathlib.Data.List.Forall2
import StoryValues.Value.Printing

/-
  ANSWERS THAT MAY FAIL TO COME.  A comparison of values gives a truth value or a fault.  It **decides**
  a proposition when there is an answer and it is the right one (`Decides`); comparisons that decide
  can be put together member by member, condition by condition, and still decide.

  Two facts about lists go with it: sorting by keys that all exist moves members and loses none
  (`sortOn_perm`), and members that find different partners in a list of their number find all of it
  (`covers_of_length_eq`).
-/

namespace StoryValues

/-- A comparison gives an answer, and it says whether a proposition holds. -/
def Decides (r : Except Fault Bool) (p : Prop) : Prop := ∃ yes, r = .ok yes ∧ (yes = true ↔ p)

namespace Decides

variable {α : Type} {p q : Prop} {r s : Except Fault Bool}

/-- What decides a proposition decides any that is equivalent to it. -/
theorem congr (h : Decides r p) (hpq : p ↔ q) : Decides r q := by
  obtain ⟨yes, hr, hyes⟩ := h
  exact ⟨yes, hr, hyes.trans hpq⟩

/-- An answer that is there decides whether it is yes. -/
theorem of_bool (b : Bool) : Decides (.ok b) (b = true) := ⟨b, rfl, Iff.rfl⟩

/-- What gives an answer decides whether it is yes. -/
theorem of_answer {b : Bool} (h : r = .ok b) : Decides r (r = .ok true) := by
  refine ⟨b, h, ?_⟩
  rw [h, Except.ok.injEq]

/-- It says yes iff the proposition holds, as there is an answer in any case. -/
theorem iff_ok_true (h : Decides r p) : r = .ok true ↔ p := by
  obtain ⟨yes, rfl, hyes⟩ := h
  rw [Except.ok.injEq, hyes]

/-- Comparisons that decide the same give the same answer. -/
theorem unique (hr : Decides r p) (hs : Decides s q) (hpq : p ↔ q) : r = s := by
  obtain ⟨b, rfl, hb⟩ := hr
  obtain ⟨c, rfl, hc⟩ := hs
  rw [Except.ok.injEq, Bool.eq_iff_iff, hb, hc, hpq]

/-- A condition in front of a comparison: the comparison needs to decide only where the condition holds. -/
theorem ite_false {c : Prop} [Decidable c] (h : c → Decides r p) :
    Decides (if c then r else .ok false) (c ∧ p) := by
  by_cases hc : c
  · rw [if_pos hc]
    exact (h hc).congr ⟨fun hp => ⟨hc, hp⟩, fun hp => hp.2⟩
  · rw [if_neg hc]
    exact ⟨false, rfl, ⟨fun h => absurd h (by decide), fun h => absurd h.1 hc⟩⟩

/-- Comparisons of all members of a list decide whether it holds of all of them. -/
theorem allM {f : α → Except Fault Bool} {P : α → Prop} {xs : List α}
    (h : ∀ x ∈ xs, Decides (f x) (P x)) : Decides (xs.allM f) (∀ x ∈ xs, P x) := by
  induction xs with
  | nil =>
    refine ⟨true, rfl, ⟨fun _ x hx => ?_, fun _ => rfl⟩⟩
    exact absurd hx List.not_mem_nil
  | cons x xs ih =>
    obtain ⟨hx, hxs⟩ := List.forall_mem_cons.mp h
    obtain ⟨yes, hfx, hyes⟩ := hx
    rw [List.allM, hfx]
    cases yes with
    | true =>
      refine (ih hxs).congr ?_
      rw [List.forall_mem_cons]
      exact ⟨fun h => ⟨hyes.mp rfl, h⟩, fun h => h.2⟩
    | false =>
      refine ⟨false, rfl, ⟨fun h => absurd h (by decide), fun h => ?_⟩⟩
      exact hyes.mpr (h x List.mem_cons_self)

/-- Comparisons of members of a list until one says yes decide whether it holds of one. -/
theorem anyM {f : α → Except Fault Bool} {P : α → Prop} {xs : List α}
    (h : ∀ x ∈ xs, Decides (f x) (P x)) : Decides (xs.anyM f) (∃ x ∈ xs, P x) := by
  induction xs with
  | nil =>
    refine ⟨false, rfl, ⟨fun h => absurd h (by decide), ?_⟩⟩
    rintro ⟨x, hx, _⟩
    exact absurd hx List.not_mem_nil
  | cons x xs ih =>
    obtain ⟨hx, hxs⟩ := List.forall_mem_cons.mp h
    obtain ⟨yes, hfx, hyes⟩ := hx
    rw [List.anyM, hfx]
    cases yes with
    | true => exact ⟨true, rfl, ⟨fun _ => ⟨x, List.mem_cons_self, hyes.mp rfl⟩, fun _ => rfl⟩⟩
    | false =>
      refine (ih hxs).congr ⟨?_, ?_⟩
      · rintro ⟨y, hy, hPy⟩
        exact ⟨y, List.mem_cons_of_mem x hy, hPy⟩
      · rintro ⟨y, hy, hPy⟩
        rcases List.mem_cons.mp hy with rfl | hy
        · exact absurd (hyes.mpr hPy) (by decide)
        · exact ⟨y, hy, hPy⟩

end Decides

/-! ## Sorting -/

/-- Where every key exists, all of them are collected. -/
theorem collect_map {α β : Type} {key : α → Except Fault β} {xs : List α}
    (h : ∀ x ∈ xs, ∃ k, key x = .ok k) :
    ∃ keys, collect (xs.map key) = .ok keys ∧ keys.length = xs.length := by
  induction xs with
  | nil => exact ⟨[], rfl, rfl⟩
  | cons x xs ih =>
    obtain ⟨⟨k, hk⟩, hxs⟩ := List.forall_mem_cons.mp h
    obtain ⟨keys, hkeys, hlen⟩ := ih hxs
    refine ⟨k :: keys, ?_, congrArg (· + 1) hlen⟩
    rw [List.map_cons, collect, hk, hkeys]
    rfl

/-- Sorting by keys that exist moves members and loses none.  The keys are computed first, all of them, so one that
does not exist is found wherever it stands. -/
theorem sortOn_perm {α : Type} {key : α → Except Fault NaturalKey} {xs : List α}
    (h : ∀ x ∈ xs, ∃ k, key x = .ok k) :
    ∃ ordered, Value.sortOn key xs = .ok ordered ∧ ordered.Perm xs := by
  obtain ⟨keys, hkeys, hlen⟩ := collect_map h
  refine ⟨sortByKey (keys.zip xs), ?_, ?_⟩
  · rw [Value.sortOn, hkeys]
    rfl
  · have hperm := perm_sortByKey (keys.zip xs)
    rwa [List.map_snd_zip (Nat.le_of_eq hlen.symm)] at hperm

/-! ## Partners -/

/-- Place by place, every member of the first list has a partner in the second. -/
theorem exists_of_forall₂ {α β : Type} {R : α → β → Prop} {xs : List α} {ys : List β} (h : List.Forall₂ R xs ys) :
    ∀ x ∈ xs, ∃ y ∈ ys, R x y := by
  induction h with
  | nil => exact nofun
  | @cons x y xs ys hxy _ ih =>
    refine List.forall_mem_cons.mpr ⟨⟨y, List.mem_cons_self, hxy⟩, fun x' hx' => ?_⟩
    obtain ⟨y', hy', hR⟩ := ih x' hx'
    exact ⟨y', List.mem_cons_of_mem y hy', hR⟩

/-- **Counting.**  When every member of a list has a partner in a second list of its length, and no two
have the same, every member of the second list is a partner. -/
theorem covers_of_length_eq {α β : Type} {R : α → β → Prop} {xs : List α} {ys : List β}
    (hlen : xs.length = ys.length) (hpartner : ∀ x ∈ xs, ∃ y ∈ ys, R x y)
    (hdiffer : xs.Pairwise fun x x' => ∀ y ∈ ys, R x y → ¬ R x' y) : ∀ y ∈ ys, ∃ x ∈ xs, R x y := by
  have hindex : ∀ i : Fin xs.length, ∃ j : Fin ys.length, R (xs.get i) (ys.get j) := by
    intro i
    obtain ⟨y, hy, hR⟩ := hpartner (xs.get i) (List.get_mem xs i)
    obtain ⟨j, rfl⟩ := List.mem_iff_get.mp hy
    exact ⟨j, hR⟩
  choose partner hR using hindex
  have hdiffer' := List.pairwise_iff_get.mp hdiffer
  have hinjective : Function.Injective partner := by
    intro i j hij
    rcases lt_trichotomy i j with hlt | rfl | hgt
    · exact absurd (hij ▸ hR j) (hdiffer' i j hlt _ (List.get_mem ys (partner i)) (hR i))
    · rfl
    · exact absurd (hij ▸ hR i) (hdiffer' j i hgt _ (List.get_mem ys (partner j)) (hR j))
  -- as many places on both sides: no two with the same partner, so no place without one
  have hcard : Fintype.card (Fin xs.length) = Fintype.card (Fin ys.length) := by
    rw [Fintype.card_fin, Fintype.card_fin, hlen]
  have hsurjective := ((Fintype.bijective_iff_injective_and_card partner).mpr ⟨hinjective, hcard⟩).2
  intro y hy
  obtain ⟨j, rfl⟩ := List.mem_iff_get.mp hy
  obtain ⟨i, rfl⟩ := hsurjective j
  exact ⟨xs.get i, List.get_mem xs i, hR i⟩

end StoryValues
