import Mathlib.Data.List.Perm.Subperm
import StoryValues.Proofs.Check
import StoryValues.Proofs.Value.Decides
import StoryValues.Value.Matching

/-
  PAIRING OFF.  Two datasets match when their members can be paired off, which is searched for: the first
  member of the one is tried with each member of the other, and the rest with what is left.

  1. **What is looked for** — `PairsInto`: a list of partners, in the order of the first list, that takes
     no member of the second more often than it is there.
  2. **What the search finds** (`decides_matchPairs`), by induction on the first list.  One step of it is
     `pairsInto_cons`, which says the same of a pairing and of what is left without its first pair.
  3. **When there is a pairing** (`pairsInto_of_partners`): where members have partners and no two have the
     same, any choice will do, and the search never has to go back.

  The tests of the search are checks, which may also stop.  `Check.Decides` says that one does not stop and
  that its answer is right, as `Decides` does of comparisons.
-/

namespace StoryValues

/-! ## Checks that decide -/

namespace Check

variable {α : Type} {settings : Settings} {p q : Prop} {c : Check Bool}

/-- A check gives an answer, and it says whether a proposition holds. -/
def Decides (settings : Settings) (c : Check Bool) (p : Prop) : Prop :=
  ∃ yes, c settings = .ok yes ∧ (yes = true ↔ p)

namespace Decides

/-- What decides a proposition decides any that is equivalent to it. -/
theorem congr (h : Decides settings c p) (hpq : p ↔ q) : Decides settings c q := by
  obtain ⟨yes, hc, hyes⟩ := h
  exact ⟨yes, hc, hyes.trans hpq⟩

/-- A comparison that decides still does as a check, whatever the settings are. -/
theorem of_lift {r : Except Fault Bool} (h : StoryValues.Decides r p) :
    Decides settings (Check.lift r) p := by
  obtain ⟨yes, hr, hyes⟩ := h
  exact ⟨yes, lift_eq_ok.mpr hr, hyes⟩

/-- A condition in front of a check. -/
theorem ite_false {b : Prop} [Decidable b] (h : b → Decides settings c p) :
    Decides settings (if b then c else pure false) (b ∧ p) := by
  by_cases hb : b
  · rw [if_pos hb]
    exact (h hb).congr ⟨fun hp => ⟨hb, hp⟩, fun hp => hp.2⟩
  · rw [if_neg hb]
    exact ⟨false, rfl, ⟨fun h => absurd h (by decide), fun h => absurd h.1 hb⟩⟩

/-- A check that goes on only if an earlier one says yes. -/
theorem bind_ite {d : Check Bool} (hc : Decides settings c p) (hd : p → Decides settings d q) :
    Decides settings (do if ← c then d else return false) (p ∧ q) := by
  obtain ⟨yes, hrun, hyes⟩ := hc
  obtain ⟨yes', hrun', hyes'⟩ : Decides settings (if yes = true then d else pure false) (yes = true ∧ q) :=
    ite_false fun h => hd (hyes.mp h)
  exact ⟨yes', (bind_of_ok hrun).trans hrun', hyes'.trans (and_congr_left' hyes)⟩

/-- Checks of all members of a list. -/
theorem allM {f : α → Check Bool} {P : α → Prop} {xs : List α}
    (h : ∀ x ∈ xs, Decides settings (f x) (P x)) : Decides settings (xs.allM f) (∀ x ∈ xs, P x) := by
  induction xs with
  | nil => exact ⟨true, rfl, ⟨fun _ x hx => absurd hx List.not_mem_nil, fun _ => rfl⟩⟩
  | cons x xs ih =>
    obtain ⟨hx, hxs⟩ := List.forall_mem_cons.mp h
    obtain ⟨yes, hrun, hyes⟩ := hx
    rw [List.forall_mem_cons]
    cases yes with
    | true =>
      obtain ⟨all, hall, hiff⟩ := ih hxs
      refine ⟨all, (bind_of_ok hrun).trans hall, hiff.trans ?_⟩
      exact ⟨fun h => ⟨hyes.mp rfl, h⟩, fun h => h.2⟩
    | false =>
      refine ⟨false, bind_of_ok hrun, ⟨fun h => absurd h (by decide), fun h => hyes.mpr h.1⟩⟩

/-- Checks of members of a list until one says yes. -/
theorem anyM {f : α → Check Bool} {P : α → Prop} {xs : List α}
    (h : ∀ x ∈ xs, Decides settings (f x) (P x)) : Decides settings (xs.anyM f) (∃ x ∈ xs, P x) := by
  induction xs with
  | nil =>
    refine ⟨false, rfl, ⟨fun h => absurd h (by decide), ?_⟩⟩
    rintro ⟨x, hx, _⟩
    exact absurd hx List.not_mem_nil
  | cons x xs ih =>
    obtain ⟨hx, hxs⟩ := List.forall_mem_cons.mp h
    obtain ⟨yes, hrun, hyes⟩ := hx
    rw [List.exists_mem_cons_iff]
    cases yes with
    | true => exact ⟨true, bind_of_ok hrun, ⟨fun _ => Or.inl (hyes.mp rfl), fun _ => rfl⟩⟩
    | false =>
      obtain ⟨any, hany, hiff⟩ := ih hxs
      refine ⟨any, (bind_of_ok hrun).trans hany, hiff.trans ?_⟩
      exact ⟨Or.inr, fun h => h.resolve_left fun hp => absurd (hyes.mpr hp) (by decide)⟩

end Decides

end Check

/-! ## One with the others -/

namespace Value

variable {α β : Type} {R : α → β → Prop} {settings : Settings}

/-- Whichever element is taken out, it and the others are the whole list.  So a search that goes on with the others
uses none twice. -/
theorem perm_of_mem_withOthers {ys : List β} {y : β} {others : List β} (h : (y, others) ∈ withOthers ys) :
    ys.Perm (y :: others) := by
  induction ys generalizing y others with
  | nil => exact absurd h List.not_mem_nil
  | cons z ys ih =>
    rcases List.mem_cons.mp h with h | h
    · obtain ⟨rfl, rfl⟩ := Prod.mk.inj h
      exact List.Perm.refl _
    · obtain ⟨⟨y', others'⟩, hmem, heq⟩ := List.mem_map.mp h
      obtain ⟨rfl, rfl⟩ := Prod.mk.inj heq
      exact ((ih hmem).cons z).trans (List.Perm.swap _ _ _)

/-- Every element can be taken out, so the search leaves no partner untried. -/
theorem exists_mem_withOthers {ys : List β} {y : β} (h : y ∈ ys) : ∃ others, (y, others) ∈ withOthers ys := by
  induction ys with
  | nil => exact absurd h List.not_mem_nil
  | cons z ys ih =>
    rcases List.mem_cons.mp h with rfl | h
    · exact ⟨ys, List.mem_cons_self⟩
    · obtain ⟨others, hothers⟩ := ih h
      exact ⟨z :: others, List.mem_cons_of_mem _ (List.mem_map.mpr ⟨(y, others), hothers, rfl⟩)⟩

/-! ## Pairings -/

/-- Some members of the second list, each taken once, are partners of the members of the first, in order. -/
def PairsInto (R : α → β → Prop) (xs : List α) (ys : List β) : Prop :=
  ∃ zs, zs.Subperm ys ∧ List.Forall₂ R xs zs

/-- The first member has a partner, and the others can be paired off without it.  This is the step of the search, told
of pairings. -/
theorem pairsInto_cons {x : α} {xs : List α} {ys : List β} :
    PairsInto R (x :: xs) ys ↔ ∃ p ∈ withOthers ys, R x p.1 ∧ PairsInto R xs p.2 := by
  constructor
  · rintro ⟨zs, hsub, hzs⟩
    obtain ⟨y, zs, hxy, hrest, rfl⟩ := List.forall₂_cons_left_iff.mp hzs
    obtain ⟨others, hothers⟩ := exists_mem_withOthers (hsub.subset List.mem_cons_self)
    have hsub' : (y :: zs).Subperm (y :: others) := (perm_of_mem_withOthers hothers).subperm_left.mp hsub
    exact ⟨(y, others), hothers, hxy, zs, (List.subperm_cons y).mp hsub', hrest⟩
  · rintro ⟨⟨y, others⟩, hothers, hxy, zs, hsub, hzs⟩
    refine ⟨y :: zs, ?_, .cons hxy hzs⟩
    exact (perm_of_mem_withOthers hothers).subperm_left.mpr ((List.subperm_cons y).mpr hsub)

/-- **The search finds a pairing iff there is one,** if its tests give answers.  By induction on the first list: a
partner that leads nowhere is given up for the next. -/
theorem decides_matchPairs {test : α → β → Check Bool} {xs : List α} {ys : List β}
    (h : ∀ x ∈ xs, ∀ y ∈ ys, Check.Decides settings (test x y) (R x y)) :
    Check.Decides settings (matchPairs test xs ys) (PairsInto R xs ys) := by
  induction xs generalizing ys with
  | nil =>
    rw [matchPairs]
    exact ⟨true, rfl, fun _ => ⟨[], List.nil_subperm, .nil⟩, fun _ => rfl⟩
  | cons x xs ih =>
    obtain ⟨hx, hxs⟩ := List.forall_mem_cons.mp h
    rw [matchPairs]
    refine Check.Decides.congr (Check.Decides.anyM fun p hp => ?_) pairsInto_cons.symm
    have hperm := perm_of_mem_withOthers hp
    refine Check.Decides.bind_ite (hx p.1 (hperm.mem_iff.mpr List.mem_cons_self)) fun _ => ?_
    exact ih fun x' hx' y' hy' => hxs x' hx' y' (hperm.mem_iff.mpr (List.mem_cons_of_mem _ hy'))

/-- **Pairing without choice.** Members each of which has a partner, and no two of which have the same, can be paired
off. -/
theorem pairsInto_of_partners {xs : List α} {ys : List β} (hpartner : ∀ x ∈ xs, ∃ y ∈ ys, R x y)
    (hdiffer : xs.Pairwise fun x x' => ∀ y ∈ ys, R x y → ¬ R x' y) : PairsInto R xs ys := by
  induction xs generalizing ys with
  | nil => exact ⟨[], List.nil_subperm, .nil⟩
  | cons x xs ih =>
    -- the partner of the first member is taken away; it was no partner of the others
    obtain ⟨hx, hxs⟩ := List.forall_mem_cons.mp hpartner
    obtain ⟨hfirst, hrest⟩ := List.pairwise_cons.mp hdiffer
    obtain ⟨y, hy, hxy⟩ := hx
    obtain ⟨others, hothers⟩ := exists_mem_withOthers hy
    have hperm := perm_of_mem_withOthers hothers
    have hsub : ∀ y' ∈ others, y' ∈ ys := fun y' hy' => hperm.mem_iff.mpr (List.mem_cons_of_mem _ hy')
    refine pairsInto_cons.mpr ⟨(y, others), hothers, hxy, ih (fun x' hx' => ?_) ?_⟩
    · obtain ⟨y', hy', hxy'⟩ := hxs x' hx'
      rcases List.mem_cons.mp (hperm.mem_iff.mp hy') with rfl | hmem
      · exact absurd hxy' (hfirst x' hx' y' hy hxy)
      · exact ⟨y', hmem, hxy'⟩
    · exact hrest.imp fun hd y' hy' => hd y' (hsub y' hy')

/-- Members that are paired off have partners. -/
theorem partners_of_pairsInto {xs : List α} {ys : List β} (h : PairsInto R xs ys) :
    ∀ x ∈ xs, ∃ y ∈ ys, R x y := by
  induction xs generalizing ys with
  | nil => exact fun x hx => absurd hx List.not_mem_nil
  | cons x xs ih =>
    obtain ⟨⟨y, others⟩, hothers, hxy, hrest⟩ := pairsInto_cons.mp h
    have hperm := perm_of_mem_withOthers hothers
    refine List.forall_mem_cons.mpr ⟨⟨y, hperm.mem_iff.mpr List.mem_cons_self, hxy⟩, fun x' hx' => ?_⟩
    obtain ⟨y', hy', hxy'⟩ := ih hrest x' hx'
    exact ⟨y', hperm.mem_iff.mpr (List.mem_cons_of_mem _ hy'), hxy'⟩

end Value

end StoryValues
