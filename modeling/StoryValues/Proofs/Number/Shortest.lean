import Mathlib.Algebra.Order.Field.Power
import Mathlib.Data.Rat.Cast.Order
import Mathlib.Tactic.FieldSimp
import Mathlib.Tactic.Linarith
import Mathlib.Tactic.Ring
import StoryValues.Proofs.Number.Index

/-
  SHORTEST DECIMALS tell doubles apart.  A decimal is *near* a double when it lies between the midpoints to
  the neighbours of that double, a midpoint belonging to the double of even index (`Double.Near`).  No value
  is near two doubles (`Double.Near.unique`), for the midpoints between two neighbours belong to one of
  them.  The decimal that is written for a double is near it (`shortest_near`), whichever grid it was found
  on, and so it is written for no other.
-/

namespace StoryValues

/-- Powers of ten are above zero. -/
theorem tenTo_pos (k : Nat) : 0 < tenTo k := Nat.pow_pos (by decide)

/-- The power of ten of the model, as a rational number. -/
theorem cast_tenTo (k : Nat) : (tenTo k : ℚ) = 10 ^ k := Nat.cast_pow 10 k

namespace Double

/-- A value lies between the midpoints to the neighbours of the double of an index; the midpoints
themselves count if the index is even. -/
def Near (i : Nat) (q : ℚ) : Prop :=
  let low : ℚ := unitsAt (i - 1) + unitsAt i
  let high : ℚ := unitsAt i + unitsAt (i + 1)
  let twice := 2 * q * unitsPerOne
  if i % 2 = 0 then low ≤ twice ∧ twice ≤ high else low < twice ∧ twice < high

variable {i j : Nat} {q : ℚ}

/-- What is near a double is not below the midpoint between it and the one before. -/
theorem Near.low_le (h : Near i q) : (unitsAt (i - 1) + unitsAt i : ℚ) ≤ 2 * q * unitsPerOne := by
  unfold Near at h
  split at h
  · exact h.1
  · exact h.1.le

/-- What is near a double is not above the midpoint between it and the one behind. -/
theorem Near.le_high (h : Near i q) : 2 * q * unitsPerOne ≤ (unitsAt i + unitsAt (i + 1) : ℚ) := by
  unfold Near at h
  split at h
  · exact h.2
  · exact h.2.le

/-- Of two doubles the one further out is near to no value that is near to the other.  A midpoint between neighbours
belongs to the even index, and only one of the two is even. -/
theorem Near.not_lt (hi : Near i q) (hj : Near j q) : ¬ i < j := by
  intro hlt
  have hnext : unitsAt i ≤ unitsAt (j - 1) := unitsAt_strictMono.monotone (by omega)
  have hnext' : unitsAt (i + 1) ≤ unitsAt j := unitsAt_strictMono.monotone hlt
  have hcast : (unitsAt i : ℚ) ≤ unitsAt (j - 1) := Nat.cast_le.mpr hnext
  have hcast' : (unitsAt (i + 1) : ℚ) ≤ unitsAt j := Nat.cast_le.mpr hnext'
  have hhigh := hi.le_high
  have hlow := hj.low_le
  -- both bounds are one midpoint, so the two are neighbours
  have hsame : unitsAt (i + 1) = unitsAt j := by
    have : (unitsAt (i + 1) : ℚ) = unitsAt j := by linarith
    exact Nat.cast_injective this
  obtain rfl := unitsAt_strictMono.injective hsame
  rw [Nat.add_sub_cancel] at hlow hcast
  unfold Near at hi hj
  -- and the midpoint belongs to the one of even index
  by_cases hparity : i % 2 = 0
  · rw [if_neg (by omega), Nat.add_sub_cancel] at hj
    have := hj.1
    linarith
  · rw [if_neg hparity] at hi
    have := hi.2
    linarith

/-- **No value is near two doubles.** -/
theorem Near.unique (hi : Near i q) (hj : Near j q) : i = j := by
  have hlt := hi.not_lt hj
  have hgt := hj.not_lt hi
  omega

/-- A double is near to itself. -/
theorem near_self (i : Nat) : Near i (unitsAt i / unitsPerOne) := by
  have hunits : (unitsPerOne : ℚ) ≠ 0 := Nat.cast_ne_zero.mpr (Nat.ne_of_gt (twoTo_pos 1074))
  have htwice : 2 * ((unitsAt i : ℚ) / unitsPerOne) * unitsPerOne = unitsAt i + unitsAt i := by
    rw [mul_assoc, div_mul_cancel₀ _ hunits, two_mul]
  have hbelow : (unitsAt (i - 1) : ℚ) ≤ unitsAt i :=
    Nat.cast_le.mpr (unitsAt_strictMono.monotone (Nat.sub_le i 1))
  have habove : (unitsAt i : ℚ) < unitsAt (i + 1) := Nat.cast_lt.mpr (unitsAt_lt_succ i)
  unfold Near
  rw [htwice]
  by_cases hparity : i % 2 = 0
  · rw [if_pos hparity]
    exact ⟨add_le_add_left hbelow _, (add_lt_add_right habove _).le⟩
  · rw [if_neg hparity]
    have hbelow' : (unitsAt (i - 1) : ℚ) < unitsAt i :=
      Nat.cast_lt.mpr (unitsAt_strictMono (by omega))
    exact ⟨add_lt_add_left hbelow' _, add_lt_add_right habove _⟩

end Double

namespace Decimal

open Double

/-- The number that a decimal stands for. -/
def value (d : Decimal) : ℚ := d.digits * 10 ^ d.exponent

/-- A power of ten is one of the two that make a grid, over the other. -/
theorem tenTo_toNat (p : ℤ) : (tenTo p.toNat : ℚ) = 10 ^ p * tenTo (-p).toNat := by
  rw [cast_tenTo, cast_tenTo, ← zpow_natCast, ← zpow_natCast, ← zpow_add₀ (by norm_num)]
  congr 1
  omega

/-- A grid point that reads back is near: to read back is to lie between the midpoints, asked in whole numbers. -/
theorem near_of_readsBack {i d : Nat} {p : ℤ} (h : (Measure.of i p).readsBack i d = true) :
    Near i (d * 10 ^ p) := by
  -- what reads back is asked with everything scaled by this power of ten, to stay with whole numbers
  have hscale : (0 : ℚ) < tenTo (-p).toNat := Nat.cast_pos.mpr (tenTo_pos _)
  have htwice : (2 * d * (Measure.of i p).grid : Nat) = 2 * (d * 10 ^ p) * unitsPerOne * (tenTo (-p).toNat : ℚ) := by
    have hgrid : (Measure.of i p).grid = unitsPerOne * tenTo p.toNat := rfl
    rw [hgrid, Nat.cast_mul, Nat.cast_mul, Nat.cast_mul, tenTo_toNat, Nat.cast_ofNat]
    ring
  have hlow : ((Measure.of i p).low : ℚ) = (unitsAt (i - 1) + unitsAt i) * tenTo (-p).toNat := by
    rw [← Nat.cast_add, ← Nat.cast_mul]
    rfl
  have hhigh : ((Measure.of i p).high : ℚ) = (unitsAt i + unitsAt (i + 1)) * tenTo (-p).toNat := by
    rw [← Nat.cast_add, ← Nat.cast_mul]
    rfl
  unfold Measure.readsBack at h
  unfold Near
  -- the midpoints themselves round to the even neighbour
  by_cases hparity : i % 2 = 0
  · rw [if_pos hparity] at h ⊢
    obtain ⟨hl, hh⟩ := (Bool.and_eq_true _ _).mp h
    have hl := Nat.cast_le (α := ℚ).mpr (of_decide_eq_true hl)
    have hh := Nat.cast_le (α := ℚ).mpr (of_decide_eq_true hh)
    rw [htwice] at hl hh
    rw [hlow] at hl
    rw [hhigh] at hh
    exact ⟨le_of_mul_le_mul_right hl hscale, le_of_mul_le_mul_right hh hscale⟩
  · rw [if_neg hparity] at h ⊢
    obtain ⟨hl, hh⟩ := (Bool.and_eq_true _ _).mp h
    have hl := Nat.cast_lt (α := ℚ).mpr (of_decide_eq_true hl)
    have hh := Nat.cast_lt (α := ℚ).mpr (of_decide_eq_true hh)
    rw [htwice] at hl hh
    rw [hlow] at hl
    rw [hhigh] at hh
    exact ⟨lt_of_mul_lt_mul_right hl hscale.le, lt_of_mul_lt_mul_right hh hscale.le⟩

/-- Only a grid point that reads back is picked. -/
theorem readsBack_of_pick? {m : Measure} {i d : Nat} (h : m.pick? i = some d) : m.readsBack i d = true := by
  unfold Measure.pick? at h
  simp only at h
  split at h
  · exact nomatch h
  · rename_i hbelow _
    exact Option.some.inj h ▸ hbelow
  · rename_i _ habove
    exact Option.some.inj h ▸ habove
  · rename_i hbelow habove
    split at h
    · exact Option.some.inj h ▸ hbelow
    · exact Option.some.inj h ▸ habove
    · rw [← Option.some.inj h]
      split
      · exact hbelow
      · exact habove

/-- Moving zeros into the exponent keeps the value. -/
theorem value_strip (d : Nat) (p : ℤ) : (strip d p).value = d * 10 ^ p := by
  induction d, p using strip.induct with
  | case1 d p h ih =>
    have hten : (10 : ℚ) ≠ 0 := by norm_num
    rw [strip, dif_pos h, ih, zpow_add_one₀ hten]
    have hd : (d : ℚ) = (d / 10 * 10 : Nat) := congrArg _ (by omega)
    rw [hd]
    push_cast
    ring
  | case2 d p h =>
    rw [strip, dif_neg h]
    rfl

/-- Halving so often is taking as many fifths of tenths: that many digits after the point. -/
theorem value_allDigits (u k : Nat) : ((u * fiveTo k : Nat) : ℚ) * 10 ^ (-(k : ℤ)) = u / twoTo k := by
  have hten : (10 : ℚ) ^ (-(k : ℤ)) = ((5 : ℚ) ^ k * 2 ^ k)⁻¹ := by
    rw [← mul_pow, zpow_neg, zpow_natCast]
    norm_num
  have hfive : (fiveTo k : ℚ) = 5 ^ k := Nat.cast_pow 5 k
  have htwo : (twoTo k : ℚ) = 2 ^ k := Nat.cast_pow 2 k
  rw [Nat.cast_mul, hfive, htwo, hten]
  field_simp

/-- **The decimal written for a double is near it.**  Either a grid point that reads back was picked, or all digits
are written and the value is that of the double. -/
theorem shortest_near (i : Nat) : Near i (shortest i).value := by
  unfold shortest
  simp only
  cases hfound : (List.range 17).findSome? fun (n : Nat) =>
      ((Measure.of i (magnitude i - ((n : Int) + 1))).pick? i).map fun d =>
        strip d (magnitude i - ((n : Int) + 1)) with
  | some d =>
    obtain ⟨n, _, hpick⟩ := List.exists_of_findSome?_eq_some hfound
    obtain ⟨digits, hdigits, rfl⟩ := Option.map_eq_some_iff.mp hpick
    rw [Option.getD_some, value_strip]
    exact near_of_readsBack (readsBack_of_pick? hdigits)
  | none =>
    -- all digits there are: the value of the double itself
    have hexponent : (-1074 : ℤ) = -((1074 : Nat) : ℤ) := rfl
    rw [Option.getD_none, value_strip, hexponent, value_allDigits (unitsAt i) 1074]
    exact near_self i

/-- Different doubles are written with different decimals. -/
theorem shortest_injective {i j : Nat} (h : (shortest i).value = (shortest j).value) : i = j := by
  have hj := shortest_near j
  rw [← h] at hj
  exact (shortest_near i).unique hj

end Decimal

end StoryValues
