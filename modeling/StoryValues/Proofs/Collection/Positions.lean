import StoryValues.Collection.Sequence
import StoryValues.Error.Limit
import StoryValues.Error.Renderer
import StoryValues.Proofs.Check

/-
  POSITIONS in strings and arrays count from 1 at the front and from -1 at the back.

  A position names a **place**, counted from the front, which may lie before it or behind the back
  (`Sequence.placeOf`).  The part between two positions should be what stands at the places between the two, in
  order, whichever position comes first (`Sequence.between`); places without an item add nothing.

  1. **What stands between two places** is what is left when items are taken and dropped at the front
     (`map_filter_zipIdx`, by induction on the items, for places counted from any number).
  2. **A cut gives that part** as long as its later place is not before the front (`cut_eq_between`).
  3. **Both places before the front:** then there is nothing between them, but a cut counts the later one from the
     back once more.  So it gives items from the front, if the later place is before the front by less than there
     are items (`cut_of_runsOver`).
  4. **Strings and arrays** (`subset_eq_between_iff`): the part is right exactly where this does not happen.
-/

namespace StoryValues

namespace Sequence

variable {α : Type} {a b : Int}

/-- The place that a position names, counted from 1 at the front. -/
def placeOf (length : Nat) (p : Int) : Int := if 0 < p then p else length + p + 1

/-- The first of the places of two positions. -/
def firstPlace (length : Nat) (a b : Int) : Int := min (placeOf length a) (placeOf length b)

/-- The last of the places of two positions. -/
def lastPlace (length : Nat) (a b : Int) : Int := max (placeOf length a) (placeOf length b)

/-- **The part between two positions:** the items whose places lie between those of the two, in order. -/
def between (items : List α) (a b : Int) : List α :=
  ((items.zipIdx 1).filter fun x =>
    firstPlace items.length a b ≤ x.2 ∧ x.2 ≤ lastPlace items.length a b).map Prod.fst

/-- Both positions lie before the front, the later one by less than there are items. -/
def RunsOver (length : Nat) (a b : Int) : Prop := lastPlace length a b < 0 ∧ 0 < lastPlace length a b + length

/-! ## Between two places -/

/-- Where items are counted from a number on, those between two numbers are got by taking and dropping. -/
theorem map_filter_zipIdx (items : List α) (start : Nat) (low high : Int) :
    ((items.zipIdx start).filter fun x => low ≤ x.2 ∧ x.2 ≤ high).map Prod.fst =
      (items.take (high - start + 1).toNat).drop (low - start).toNat := by
  induction items generalizing start with
  | nil => simp
  | cons item items ih =>
    have hnext : (high - (start + 1 : Nat) + 1).toNat = (high - start + 1).toNat - 1 := by omega
    have hnext' : (low - (start + 1 : Nat)).toNat = (low - start).toNat - 1 := by omega
    rw [List.zipIdx_cons, List.filter_cons]
    by_cases hhigh : start ≤ high
    · obtain ⟨m, hm⟩ : ∃ m, (high - start + 1).toNat = m + 1 := ⟨(high - start).toNat, by omega⟩
      by_cases hlow : low ≤ start
      · -- this item stands between the two, and nothing is left to be dropped
        have hdrop : (low - start).toNat = 0 := by omega
        rw [if_pos (by simp [hlow, hhigh]), List.map_cons, ih, hnext, hnext', hm, hdrop]
        rfl
      · obtain ⟨d, hd⟩ : ∃ d, (low - start).toNat = d + 1 := ⟨(low - start - 1).toNat, by omega⟩
        rw [if_neg (by simp [hlow]), ih, hnext, hnext', hm, hd]
        rfl
    · -- this item stands behind them, and so do all others
      have htake : (high - start + 1).toNat = 0 := by omega
      rw [if_neg (by simp [hhigh]), ih, hnext, htake]
      simp

/-- What stands between two places is cut out by taking up to the last of them and dropping what is before the first. -/
theorem between_eq (items : List α) (a b : Int) :
    between items a b =
      (items.take (lastPlace items.length a b).toNat).drop (firstPlace items.length a b - 1).toNat := by
  have hlast : lastPlace items.length a b - (1 : Nat) + 1 = lastPlace items.length a b := by omega
  rw [between, map_filter_zipIdx, hlast]
  rfl

/-- The first of two places is not behind the last. -/
theorem firstPlace_le (length : Nat) (a b : Int) : firstPlace length a b ≤ lastPlace length a b := by
  unfold firstPlace lastPlace
  omega

/-! ## The cut -/

/-- A cut drops what is before its first place, and ends where its last place is thought to be. -/
theorem cut_eq (ha : a ≠ 0) (hb : b ≠ 0) (items : List α) :
    cut items a b = (items.take (stop items.length (lastPlace items.length a b))).drop
      (firstPlace items.length a b - 1).toNat := by
  have hplace : ∀ p : Int, p ≠ 0 → (if p < 0 then (items.length : Int) + p + 1 else p) = placeOf items.length p := by
    intro p hp
    unfold placeOf
    by_cases hneg : p < 0
    · rw [if_pos hneg, if_neg (by omega)]
    · rw [if_neg hneg, if_pos (by omega)]
  unfold cut firstPlace lastPlace
  simp only [hplace a ha, hplace b hb]

/-- **A cut gives the part between its positions** unless both lie before the front. -/
theorem cut_eq_between (ha : a ≠ 0) (hb : b ≠ 0) {items : List α} (h : ¬ RunsOver items.length a b) :
    cut items a b = between items a b := by
  rw [cut_eq ha hb, between_eq]
  by_cases hlast : lastPlace items.length a b < 0
  · -- the place before the front is counted from the back once more, and is before the front again
    have hover : ¬ 0 < lastPlace items.length a b + items.length := fun hover => h ⟨hlast, hover⟩
    have hstop : stop items.length (lastPlace items.length a b) = (lastPlace items.length a b).toNat := by
      rw [stop, if_pos hlast]
      omega
    rw [hstop]
  · rw [stop, if_neg hlast]

/-- **A cut before the front gives items from the front.** -/
theorem cut_of_runsOver (ha : a ≠ 0) (hb : b ≠ 0) {items : List α} (h : RunsOver items.length a b) :
    between items a b = [] ∧ cut items a b ≠ [] ∧
      cut items a b = items.take (lastPlace items.length a b + items.length).toNat := by
  obtain ⟨hlast, hover⟩ := h
  have hfirst := firstPlace_le items.length a b
  have hcut : cut items a b = items.take (lastPlace items.length a b + items.length).toNat := by
    have hdrop : (firstPlace items.length a b - 1).toNat = 0 := by omega
    rw [cut_eq ha hb, stop, if_pos hlast, hdrop, List.drop_zero]
  refine ⟨?_, ?_, hcut⟩
  · rw [between_eq, Int.toNat_of_nonpos (Int.le_of_lt hlast), List.take_zero, List.drop_nil]
  · rw [hcut]
    refine List.ne_nil_of_length_pos ?_
    rw [List.length_take]
    omega

/-- So a cut is right iff it does not run over. -/
theorem cut_eq_between_iff (ha : a ≠ 0) (hb : b ≠ 0) {items : List α} :
    cut items a b = between items a b ↔ ¬ RunsOver items.length a b := by
  refine ⟨fun heq h => ?_, cut_eq_between ha hb⟩
  obtain ⟨hnone, hsome, _⟩ := cut_of_runsOver ha hb h
  exact hsome (heq.trans hnone)

/-! ## Strings and arrays -/

/-- Part of an array is the cut of its items, for positions that there are: no sequence has a place zero. -/
theorem subset_array (ha : a ≠ 0) (hb : b ≠ 0) (items : List Value) (settings : Settings) :
    subset (.array items) a b settings = .ok (.array (cut items a b)) := by
  rw [subset, if_neg (not_or.mpr ⟨ha, hb⟩)]
  rfl

/-- Part of a string is made of the cut of its characters. -/
theorem subset_string (ha : a ≠ 0) (hb : b ≠ 0) (s : String) (settings : Settings) :
    subset (.string s) a b settings = .ok (.string (String.ofList (cut s.toList a b))) := by
  rw [subset, if_neg (not_or.mpr ⟨ha, hb⟩)]
  rfl

/-- **The part of a string or an array between two positions** is what stands at the places between the two, in
order, exactly if it does not happen that both lie before the front and the later one by less than there are items.
Where this happens nothing stands there, but items from the front are given: as many as are left when the distance
of the later place from the front is taken from the length. -/
theorem subset_eq_between_iff (ha : a ≠ 0) (hb : b ≠ 0) (settings : Settings) :
    (∀ items, (subset (.array items) a b settings = .ok (.array (between items a b)) ↔
        ¬ RunsOver items.length a b) ∧
      (RunsOver items.length a b → between items a b = [] ∧
        subset (.array items) a b settings =
          .ok (.array (items.take (lastPlace items.length a b + items.length).toNat)))) ∧
    (∀ s : String, (subset (.string s) a b settings = .ok (.string (String.ofList (between s.toList a b))) ↔
        ¬ RunsOver s.length a b) ∧
      (RunsOver s.length a b → between s.toList a b = [] ∧
        subset (.string s) a b settings =
          .ok (.string (String.ofList (s.toList.take (lastPlace s.length a b + s.length).toNat))))) := by
  refine ⟨fun items => ⟨?_, fun h => ?_⟩, fun s => ⟨?_, fun h => ?_⟩⟩
  · rw [subset_array ha hb, ← cut_eq_between_iff ha hb, Except.ok.injEq, Value.array.injEq]
  · obtain ⟨hnone, _, hcut⟩ := cut_of_runsOver ha hb h
    exact ⟨hnone, by rw [subset_array ha hb, hcut]⟩
  · rw [subset_string ha hb, ← String.length_toList, ← cut_eq_between_iff ha hb, Except.ok.injEq, Value.string.injEq,
      String.ofList_inj]
  · rw [← String.length_toList] at h ⊢
    obtain ⟨hnone, _, hcut⟩ := cut_of_runsOver ha hb h
    exact ⟨hnone, by rw [subset_string ha hb, hcut]⟩

/-- Places behind the back and before the front add nothing. -/
theorem subset_beyondEnds :
    (4 : Int) ≠ 0 ∧ (-9 : Int) ≠ 0 ∧ ¬ RunsOver 2 4 (-9) ∧
      subset (.string "ab") 4 (-9) Settings.usual = .ok (.string "ab") := by
  have hnot : ¬ RunsOver 2 4 (-9) := by
    unfold RunsOver
    decide
  exact ⟨by decide, by decide, hnot,
    ((subset_eq_between_iff (by decide) (by decide) Settings.usual).2 "ab").1.mpr hnot⟩

/-- **Two positions before the front:** of three items, the positions -5 and -6 name the places -1 and -2.  Nothing
stands there, but the first two items are given. -/
theorem subset_beforeFront :
    between [Value.number (.int 1), .number (.int 2), .number (.int 3)] (-5) (-6) = [] ∧
      subset (.array [.number (.int 1), .number (.int 2), .number (.int 3)]) (-5) (-6)
        Settings.usual = .ok (.array [.number (.int 1), .number (.int 2)]) :=
  ⟨rfl, rfl⟩

end Sequence

end StoryValues
