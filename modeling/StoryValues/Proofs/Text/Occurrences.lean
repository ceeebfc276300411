import Mathlib.Data.Finset.Image
import Mathlib.Data.Finset.Max
import StoryValues.Text.Search

/-
  OCCURRENCES OF A PART.  A scan from the left that goes on behind each occurrence finds as many as there can be side by
  side, also of a part that overlaps itself.

  1. **Places side by side** (`Apart`) — the part stands at each of them, and each copy ends before the next begins.
  2. **One step** — places behind the first element are places in the rest (`Apart.cons`, `Apart.tail`).  A copy in
     front goes with all places behind its end (`Apart.insert_zero`), and of any places, those but the first are behind
     it (`Apart.erase_min`).
  3. **The scan** finds such places (`exists_apart`), and there are no more of them (`Apart.card_le`), both by induction
     as the scan goes.  It takes the first copy that it meets: the least of any places may be given up for it.
-/

namespace StoryValues

variable {α : Type}

/-- **Places side by side:** at each the part stands in the list, and the copy there ends before the next place.  None
is among the first ones that are left out. -/
structure Apart (part whole : List α) (skip : Nat) (places : Finset Nat) : Prop where
  behind : ∀ p ∈ places, skip ≤ p
  stands : ∀ p ∈ places, part <+: whole.drop p
  apart : ∀ p ∈ places, ∀ q ∈ places, p < q → p + part.length ≤ q

/-- How many copies of a part there can be in a list without any two that overlap. -/
def SideBySide (part whole : List α) : Set Nat := {n | ∃ places, Apart part whole 0 places ∧ places.card = n}

namespace Apart

variable {part xs : List α} {x : α} {skip : Nat} {places : Finset Nat}

/-- No places are side by side. -/
theorem empty (part xs : List α) (skip : Nat) : Apart part xs skip ∅ :=
  ⟨nofun, nofun, nofun⟩

/-- Nothing but an empty part stands in an empty list. -/
theorem eq_empty (hpart : part ≠ []) (h : Apart part [] skip places) : places = ∅ := by
  refine Finset.eq_empty_of_forall_notMem fun p hp => hpart ?_
  have hstands := h.stands p hp
  rwa [List.drop_nil, List.prefix_nil] at hstands

/-! ## One step -/

/-- With an element in front, every place is one further. -/
theorem cons (h : Apart part xs skip places) (x : α) :
    Apart part (x :: xs) (skip + 1) (places.image Nat.succ) where
  behind := Finset.forall_mem_image.mpr fun p hp => Nat.succ_le_succ (h.behind p hp)
  stands := Finset.forall_mem_image.mpr fun p hp => h.stands p hp
  apart := by
    refine Finset.forall_mem_image.mpr fun p hp => Finset.forall_mem_image.mpr fun q hq hlt => ?_
    have hapart := h.apart p hp q hq (Nat.lt_of_succ_lt_succ hlt)
    omega

/-- Places behind the first element are places in the rest. -/
theorem tail (h : Apart part (x :: xs) (skip + 1) places) :
    ∃ before, Apart part xs skip before ∧ places = before.image Nat.succ := by
  have hsucc : (places.image Nat.pred).image Nat.succ = places := by
    rw [Finset.image_image]
    refine (Finset.image_congr fun p hp => ?_).trans Finset.image_id
    exact Nat.succ_pred_eq_of_pos (Nat.zero_lt_of_lt (h.behind p hp))
  rw [← hsucc] at h
  refine ⟨places.image Nat.pred, ⟨fun p hp => ?_, fun p hp => ?_, fun p hp q hq hlt => ?_⟩, hsucc.symm⟩
  · exact Nat.le_of_succ_le_succ (h.behind _ (Finset.mem_image_of_mem _ hp))
  · exact h.stands _ (Finset.mem_image_of_mem _ hp)
  · have hapart := h.apart _ (Finset.mem_image_of_mem _ hp) _ (Finset.mem_image_of_mem _ hq) (Nat.succ_lt_succ hlt)
    omega

/-- If the part does not stand in front, no place is lost by leaving out the first element. -/
theorem skip_one (hfront : ¬ part <+: xs) (h : Apart part xs 0 places) : Apart part xs 1 places where
  behind p hp := by
    rcases Nat.eq_zero_or_pos p with rfl | hpos
    · exact absurd (h.stands 0 hp) hfront
    · exact hpos
  stands := h.stands
  apart := h.apart

/-- A copy in front goes with all places behind its end.  It is how the scan gets one place more. -/
theorem insert_zero (hfront : part <+: xs) (h : Apart part xs part.length places) :
    Apart part xs 0 (insert 0 places) where
  behind _ _ := Nat.zero_le _
  stands := by
    rw [Finset.forall_mem_insert]
    exact ⟨hfront, h.stands⟩
  apart := by
    simp only [Finset.forall_mem_insert]
    refine ⟨⟨fun hlt => absurd hlt (Nat.lt_irrefl 0), fun q hq _ => ?_⟩, fun p hp => ⟨nofun, h.apart p hp⟩⟩
    rw [Nat.zero_add]
    exact h.behind q hq

/-- **Without the first of them,** all places are behind the end of a copy in front. -/
theorem erase_min (h : Apart part xs 0 places) (hsome : places.Nonempty) :
    Apart part xs part.length (places.erase (places.min' hsome)) where
  behind p hp := by
    obtain ⟨hne, hp⟩ := Finset.mem_erase.mp hp
    have hlt : places.min' hsome < p := lt_of_le_of_ne (places.min'_le p hp) hne.symm
    have hapart := h.apart _ (places.min'_mem hsome) p hp hlt
    omega
  stands p hp := h.stands p (Finset.mem_of_mem_erase hp)
  apart p hp q hq := h.apart p (Finset.mem_of_mem_erase hp) q (Finset.mem_of_mem_erase hq)

end Apart

/-! ## The scan -/

section

variable [BEq α] [LawfulBEq α] {part whole : List α}

/-- **As many as the scan finds stand side by side.**  By induction along the scan: it skips an element, or it counts
a copy in front and skips that. -/
theorem exists_apart (hpart : part ≠ []) (skip : Nat) (xs : List α) :
    ∃ places, Apart part xs skip places ∧ places.card = countFrom part skip xs := by
  have hlength : part.length - 1 + 1 = part.length := Nat.sub_add_cancel (List.length_pos_iff.mpr hpart)
  fun_induction countFrom part skip xs with
  | case1 skip => exact ⟨∅, .empty part [] skip, Finset.card_empty⟩
  | case2 skip x xs ih =>
    obtain ⟨places, hapart, hcard⟩ := ih
    exact ⟨_, hapart.cons x, (Finset.card_image_of_injective _ Nat.succ_injective).trans hcard⟩
  | case3 x xs hfront ih =>
    obtain ⟨places, hapart, hcard⟩ := ih
    have hbehind := hapart.cons x
    rw [hlength] at hbehind
    have hzero : 0 ∉ places.image Nat.succ := by simp
    refine ⟨_, hbehind.insert_zero (List.isPrefixOf_iff_prefix.mp hfront), ?_⟩
    rw [Finset.card_insert_of_notMem hzero, Finset.card_image_of_injective _ Nat.succ_injective, hcard, Nat.add_comm]
  | case4 x xs hfront ih =>
    obtain ⟨places, hapart, hcard⟩ := ih
    have hmore := hapart.cons x
    exact ⟨_, ⟨fun _ _ => Nat.zero_le _, hmore.stands, hmore.apart⟩,
      (Finset.card_image_of_injective _ Nat.succ_injective).trans hcard⟩

/-- **No more stand side by side than the scan finds.**  By the same induction: where a copy stands in front, taking
the first place away from any places leaves places behind this copy. -/
theorem Apart.card_le (hpart : part ≠ []) {skip : Nat} {xs : List α} {places : Finset Nat}
    (h : Apart part xs skip places) : places.card ≤ countFrom part skip xs := by
  have hlength : part.length - 1 + 1 = part.length := Nat.sub_add_cancel (List.length_pos_iff.mpr hpart)
  fun_induction countFrom part skip xs generalizing places with
  | case1 skip => rw [h.eq_empty hpart, Finset.card_empty]
  | case2 skip x xs ih =>
    obtain ⟨before, hbefore, rfl⟩ := h.tail
    rw [Finset.card_image_of_injective _ Nat.succ_injective]
    exact ih hbefore
  | case3 x xs hfront ih =>
    rcases places.eq_empty_or_nonempty with rfl | hsome
    · exact Nat.zero_le _
    · -- the first place is taken away, and the others are behind this copy
      have hbehind := h.erase_min hsome
      rw [← hlength] at hbehind
      obtain ⟨before, hbefore, herase⟩ := hbehind.tail
      have hone : (places.erase (places.min' hsome)).card + 1 = places.card :=
        Finset.card_erase_add_one (places.min'_mem hsome)
      rw [herase, Finset.card_image_of_injective _ Nat.succ_injective] at hone
      have hrest := ih hbefore
      omega
  | case4 x xs hfront ih =>
    have hmore := h.skip_one fun hprefix => hfront (List.isPrefixOf_iff_prefix.mpr hprefix)
    obtain ⟨before, hbefore, rfl⟩ := hmore.tail
    rw [Finset.card_image_of_injective _ Nat.succ_injective]
    exact ih hbefore

/-- **The scan counts the greatest number of copies that do not overlap.** -/
theorem countOccurrences_isGreatest (hpart : part ≠ []) :
    IsGreatest (SideBySide part whole) (countOccurrences part whole) := by
  refine ⟨exists_apart hpart 0 whole, ?_⟩
  rintro n ⟨places, hapart, rfl⟩
  exact hapart.card_le hpart

/-- A part that stands somewhere is found. -/
theorem occursIn_iff : occursIn part whole = true ↔ ∃ p, part <+: whole.drop p := by
  induction whole with
  | nil => simp [occursIn]
  | cons x xs ih =>
    rw [occursIn, Bool.or_eq_true, List.isPrefixOf_iff_prefix, ih]
    constructor
    · rintro (hfront | ⟨p, hp⟩)
      · exact ⟨0, hfront⟩
      · exact ⟨p + 1, hp⟩
    · rintro ⟨p, hp⟩
      cases p with
      | zero => exact .inl hp
      | succ p => exact .inr ⟨p, hp⟩

/-- **Counted are those parts that are found.** -/
theorem countOccurrences_pos_iff (hpart : part ≠ []) :
    0 < countOccurrences part whole ↔ occursIn part whole = true := by
  have hgreatest : IsGreatest (SideBySide part whole) (countOccurrences part whole) := countOccurrences_isGreatest hpart
  obtain ⟨⟨places, hapart, hcard⟩, hmost⟩ := hgreatest
  rw [occursIn_iff]
  constructor
  · intro hpos
    rw [← hcard, Finset.card_pos] at hpos
    obtain ⟨p, hp⟩ := hpos
    exact ⟨p, hapart.stands p hp⟩
  · rintro ⟨p, hp⟩
    have hone : Apart part whole 0 {p} := ⟨fun _ _ => Nat.zero_le _, by simpa using hp, by simp⟩
    exact hmost ⟨{p}, hone, Finset.card_singleton p⟩

end

end StoryValues
