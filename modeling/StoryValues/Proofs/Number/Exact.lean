import Mathlib.Data.Rat.Cast.Order
import Mathlib.Order.WithBot
import Mathlib.Tactic.FieldSimp
import Mathlib.Tactic.Ring
import StoryValues.Proofs.Number.Index
import StoryValues.Proofs.Value.Sameness

/-
  EXACT VALUES of numbers.  A number of a story stands for a rational number or for one of the two
  infinities; `Double.toRat` reads the value of a double off its three fields, as the format has it.
  Comparison works on whole numbers of tiny units instead, and on the side on which a number lies.
  It comes to the same: two numbers are of the same value iff what they stand for is the same
  (`Number.sameValue_iff_exact`).
-/

namespace StoryValues

namespace Double

/-- How far a double is from zero: below the first exponent the fraction stands alone, from there on it
comes after a leading one, and each exponent doubles the value. -/
def magnitude (exponent : Fin 2047) (fraction : Fin (twoTo 52)) : ℚ :=
  if exponent.val = 0 then (fraction.val : ℚ) * 2 ^ (-1074 : ℤ)
  else (2 ^ 52 + fraction.val : ℚ) * 2 ^ ((exponent.val : ℤ) - 1075)

/-- The value of a finite double; zero where there is none. -/
def toRat : Double → ℚ
  | .finite negative e f => if negative then -magnitude e f else magnitude e f
  | _ => 0

/-- The power of two of the model, as a rational number. -/
theorem cast_twoTo (k : Nat) : (twoTo k : ℚ) = 2 ^ k := Nat.cast_pow 2 k

/-- One is as many units as the smallest double needs to be a unit. -/
theorem unitsPerOne_eq : (unitsPerOne : ℚ) = 2 ^ ((1074 : Nat) : ℤ) :=
  (cast_twoTo 1074).trans (zpow_natCast 2 1074).symm

/-- Units measure the distance from zero: steps below an exponent, and the place within them, as the format has it. -/
theorem unitsAt_eq (e : Fin 2047) (f : Fin (twoTo 52)) :
    (unitsAt (index e f) : ℚ) = magnitude e f * unitsPerOne := by
  have htwo : (2 : ℚ) ≠ 0 := by decide
  rw [unitsPerOne_eq, magnitude]
  unfold unitsAt
  simp only [index_div, index_mod]
  by_cases he : e.val = 0
  · -- below the first exponent a unit is the step from one double to the next
    rw [if_pos he, if_pos he, mul_assoc, ← zpow_add₀ htwo]
    norm_num
  · rw [if_neg he, if_neg he, mul_assoc, ← zpow_add₀ htwo]
    have hexponent : (e.val : ℤ) - 1075 + (1074 : Nat) = ((e.val - 1 : Nat) : ℤ) := by omega
    rw [hexponent, zpow_natCast, Nat.cast_mul, Nat.cast_add, cast_twoTo, cast_twoTo]

/-- Units measure the value. -/
theorem units_eq (x : Double) : (x.units : ℚ) = x.toRat * unitsPerOne := by
  cases x with
  | infinite negative =>
    have hunits : (infinite negative).units = 0 := rfl
    have hvalue : (infinite negative).toRat = 0 := rfl
    rw [hunits, hvalue, Int.cast_zero, zero_mul]
  | nan tag =>
    have hunits : (nan tag).units = 0 := rfl
    have hvalue : (nan tag).toRat = 0 := rfl
    rw [hunits, hvalue, Int.cast_zero, zero_mul]
  | finite negative e f =>
    rw [units, toRat]
    cases negative with
    | false => rw [if_neg (by decide), if_neg (by decide), Int.cast_natCast, unitsAt_eq]
    | true => rw [if_pos rfl, if_pos rfl, Int.cast_neg, Int.cast_natCast, unitsAt_eq, neg_mul]

end Double

namespace Number

/-- What a number stands for: a rational number, or an infinity. -/
def exact : Number → WithBot (WithTop ℚ)
  | .int n => ((n : ℚ) : WithTop ℚ)
  | .real (.infinite true) => ⊥
  | .real (.infinite false) => ((⊤ : WithTop ℚ) : WithBot (WithTop ℚ))
  | .real x => (x.toRat : WithTop ℚ)

/-- A number between the infinities stands for a rational number, which its units measure. -/
theorem exact_of_side {a : Number} (h : a.side = 0) :
    ∃ q : ℚ, a.exact = ((q : WithTop ℚ) : WithBot (WithTop ℚ)) ∧ (a.units : ℚ) = q * Double.unitsPerOne := by
  cases a with
  | int n =>
    refine ⟨n, rfl, ?_⟩
    show ((n * (Double.unitsPerOne : Int) : Int) : ℚ) = _
    push_cast
    rfl
  | real x =>
    cases x with
    | finite negative e f => exact ⟨_, rfl, Double.units_eq (.finite negative e f)⟩
    | nan tag => exact ⟨_, rfl, Double.units_eq (.nan tag)⟩
    | infinite negative => cases negative <;> exact absurd h (by decide)

/-- A number lies between the infinities or is one of them. -/
theorem finite_or_infinite {a : Number} (h : a.isNumber = true) :
    a.side = 0 ∨ ∃ negative, a = .real (.infinite negative) := by
  cases a with
  | int n => exact Or.inl rfl
  | real x =>
    cases x with
    | finite negative e f => exact Or.inl rfl
    | nan tag => exact absurd h (by simp [isNumber, Double.isNumber])
    | infinite negative => exact Or.inr ⟨negative, rfl⟩

/-- **Numbers are of the same value iff they stand for the same.** -/
theorem sameValue_iff_exact {a b : Number} (ha : a.isNumber = true) (hb : b.isNumber = true) :
    a.sameValue b = true ↔ a.exact = b.exact := by
  have hunits : (Double.unitsPerOne : ℚ) ≠ 0 := by
    rw [Double.unitsPerOne_eq]
    exact zpow_ne_zero _ (by decide)
  rw [sameValue_iff]
  -- between the infinities units decide; elsewhere the sides do
  rcases finite_or_infinite ha with hsa | ⟨s, rfl⟩
  · obtain ⟨p, hp, hpu⟩ := exact_of_side hsa
    rcases finite_or_infinite hb with hsb | ⟨t, rfl⟩
    · obtain ⟨q, hq, hqu⟩ := exact_of_side hsb
      have hpq : a.units = b.units ↔ p = q := by
        rw [← Int.cast_inj (α := ℚ), hpu, hqu, mul_left_inj' hunits]
      rw [hp, hq, hsa, hsb, hpq, WithBot.coe_inj, WithTop.coe_inj]
      exact ⟨fun h => h.2.2.2, fun h => ⟨ha, hb, rfl, h⟩⟩
    · rw [hp, hsa]
      cases t <;> simp [side, exact]
  · rcases finite_or_infinite hb with hsb | ⟨t, rfl⟩
    · obtain ⟨q, hq, _⟩ := exact_of_side hsb
      rw [hq, hsb]
      cases s <;> simp [side, exact]
    · cases s <;> cases t <;> simp [side, exact, units, Double.units, isNumber, Double.isNumber]

end Number

end StoryValues
