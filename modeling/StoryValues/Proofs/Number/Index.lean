import Mathlib.Order.Monotone.Basic
import StoryValues.Number

/-
  INDICES of doubles.  The doubles of one sign are numbered by their distance from zero, and the distance
  grows strictly with the number (`unitsAt_strictMono`), so an index is as good as a value.  A number of
  units that some double has is rounded to that double and to no other (`indexOf_unitsAt`): rounding
  changes only what no double can hold.
-/

namespace StoryValues

namespace Double

/-! ## Places -/

/-- Division of an index by the steps of an exponent gives the exponent back. -/
theorem place_div {e f : Nat} (hf : f < twoTo 52) : (e * twoTo 52 + f) / twoTo 52 = e := by
  rw [Nat.add_comm, Nat.add_mul_div_right _ _ (twoTo_pos 52), Nat.div_eq_of_lt hf, Nat.zero_add]

/-- The remainder of an index by the steps of an exponent is the place within them. -/
theorem place_mod {e f : Nat} (hf : f < twoTo 52) : (e * twoTo 52 + f) % twoTo 52 = f := by
  rw [Nat.add_comm, Nat.add_mul_mod_self_right, Nat.mod_eq_of_lt hf]

/-- The exponent of a double is got back from its index. -/
theorem index_div (e : Fin 2047) (f : Fin (twoTo 52)) : index e f / twoTo 52 = e.val := place_div f.isLt

/-- The fraction of a double is got back from its index. -/
theorem index_mod (e : Fin 2047) (f : Fin (twoTo 52)) : index e f % twoTo 52 = f.val := place_mod f.isLt

/-- The double at the index of a double is that double. -/
theorem ofIndex_index (negative : Bool) (e : Fin 2047) (f : Fin (twoTo 52)) :
    ofIndex negative (index e f) = .finite negative e f := by
  have hdiv := index_div e f
  rw [ofIndex, dif_pos (by rw [hdiv]; exact e.isLt), finite.injEq]
  exact ⟨rfl, Fin.ext hdiv, Fin.ext (index_mod e f)⟩

/-! ## Distances -/

/-- One is some units. -/
theorem unitsPerOne_ne_zero : (unitsPerOne : Int) ≠ 0 := Int.natCast_ne_zero.mpr (Nat.ne_of_gt (twoTo_pos 1074))

/-- Steps below one exponent, and the place within them.  The first exponent is that of the smallest doubles, which
have no leading one. -/
theorem unitsAt_add {e f : Nat} (hf : f < twoTo 52) :
    unitsAt (e * twoTo 52 + f) = if e = 0 then f else (twoTo 52 + f) * twoTo (e - 1) := by
  simp only [unitsAt, place_div hf, place_mod hf]

/-- Every index is some steps of an exponent and a place within them. -/
theorem exists_place (i : Nat) : ∃ e f, f < twoTo 52 ∧ i = e * twoTo 52 + f := by
  refine ⟨i / twoTo 52, i % twoTo 52, Nat.mod_lt _ (twoTo_pos 52), ?_⟩
  rw [Nat.mul_comm]
  exact (Nat.div_add_mod i (twoTo 52)).symm

/-- Each power of two is twice the one before. -/
theorem twoTo_succ (k : Nat) : twoTo (k + 1) = 2 * twoTo k := by
  show 2 ^ (k + 1) = 2 * 2 ^ k
  rw [Nat.pow_succ, Nat.mul_comm]

/-- The next double lies further out: within the steps of an exponent by one step, and between two exponents since the
steps grow. -/
theorem unitsAt_lt_succ (i : Nat) : unitsAt i < unitsAt (i + 1) := by
  obtain ⟨e, f, hf, rfl⟩ := exists_place i
  rw [unitsAt_add hf]
  have hpos := twoTo_pos (e - 1)
  by_cases hnext : f + 1 < twoTo 52
  · -- one step further below the same exponent
    rw [Nat.add_assoc, unitsAt_add hnext]
    by_cases he : e = 0
    · rw [if_pos he, if_pos he]
      exact Nat.lt_succ_self f
    · rw [if_neg he, if_neg he]
      exact Nat.mul_lt_mul_of_pos_right (by omega) hpos
  · -- from the last step of an exponent to the first of the next
    have hcarry : e * twoTo 52 + f + 1 = (e + 1) * twoTo 52 + 0 := by
      rw [Nat.add_mul]
      omega
    rw [hcarry, unitsAt_add (twoTo_pos 52), if_neg (Nat.succ_ne_zero e), Nat.add_sub_cancel, Nat.add_zero]
    by_cases he : e = 0
    · subst he
      rw [if_pos rfl]
      exact Nat.lt_of_lt_of_eq hf (Nat.mul_one _).symm
    · rw [if_neg he]
      obtain ⟨k, rfl⟩ := Nat.exists_eq_succ_of_ne_zero he
      rw [Nat.succ_sub_one, Nat.succ_eq_add_one, twoTo_succ k, Nat.mul_left_comm, ← Nat.mul_assoc]
      exact Nat.mul_lt_mul_of_pos_right (by omega) (twoTo_pos k)

/-- So an index is as good as a distance. -/
theorem unitsAt_strictMono : StrictMono unitsAt := strictMono_nat_of_lt_succ unitsAt_lt_succ

/-! ## Signs -/

/-- The units of a positive double are those of its index. -/
theorem units_positive (e : Fin 2047) (f : Fin (twoTo 52)) :
    (Double.finite false e f).units = (unitsAt (index e f) : Int) := by
  rw [units]
  exact if_neg Bool.false_ne_true

/-- The units of a negative double are those of its index with the other sign. -/
theorem units_negative (e : Fin 2047) (f : Fin (twoTo 52)) :
    (Double.finite true e f).units = -(unitsAt (index e f) : Int) := by
  rw [units]
  exact if_pos rfl

/-- Either way their size is that of the index. -/
theorem natAbs_units (negative : Bool) (e : Fin 2047) (f : Fin (twoTo 52)) :
    (Double.finite negative e f).units.natAbs = unitsAt (index e f) := by
  cases negative with
  | false => rw [units_positive, Int.natAbs_natCast]
  | true => rw [units_negative, Int.natAbs_neg, Int.natAbs_natCast]

/-! ## Rounding what needs none -/

/-- A quotient that is whole is rounded to itself. -/
theorem roundHalfEven_mul {q d : Nat} (hd : 0 < d) : roundHalfEven (q * d) d = q := by
  rw [roundHalfEven, Nat.mul_mod_left, Nat.mul_zero, Nat.compare_eq_lt.mpr hd, Nat.mul_div_cancel q hd]

/-- **The double of a number of units is the one that has as many,** if there is one.  As many digits are shifted out
as the exponent says, and none of them is lost. -/
theorem indexOf_unitsAt (i : Nat) : indexOf (unitsAt i) 1 = i := by
  obtain ⟨e, f, hf, rfl⟩ := exists_place i
  rw [unitsAt_add hf, indexOf, Nat.div_one, Nat.one_mul]
  by_cases he : e = 0
  · subst he
    have hshift : f.log2 - 52 = 0 := by
      by_cases hzero : f = 0
      · rw [hzero]
        decide
      · have := (Nat.log2_lt hzero).mpr hf
        omega
    have hround : roundHalfEven (f * 1) 1 = f := roundHalfEven_mul Nat.one_pos
    rw [Nat.mul_one] at hround
    rw [if_pos rfl, hshift]
    exact congrArg (0 * twoTo 52 + ·) hround
  · obtain ⟨k, rfl⟩ := Nat.exists_eq_succ_of_ne_zero he
    rw [if_neg he, Nat.succ_sub_one]
    -- a leading one and 52 digits, and as many zeros as the exponent says
    have hlog : ((twoTo 52 + f) * twoTo k).log2 = 52 + k := by
      have hne : (twoTo 52 + f) * twoTo k ≠ 0 :=
        Nat.mul_ne_zero (by have := twoTo_pos 52; omega) (Nat.ne_of_gt (twoTo_pos k))
      rw [Nat.log2_eq_iff hne]
      have hpow : (2 : Nat) ^ (52 + k) = twoTo 52 * twoTo k := Nat.pow_add 2 52 k
      have hpow' : (2 : Nat) ^ (52 + k + 1) = 2 * twoTo 52 * twoTo k := by
        rw [Nat.pow_succ, hpow, Nat.mul_comm, ← Nat.mul_assoc]
      rw [hpow, hpow']
      exact ⟨Nat.mul_le_mul_right _ (Nat.le_add_right _ _),
        Nat.mul_lt_mul_of_pos_right (by omega) (twoTo_pos k)⟩
    rw [hlog, Nat.add_sub_cancel_left, roundHalfEven_mul (twoTo_pos k), Nat.succ_mul, Nat.add_assoc]

/-- The double of an index is a number, if perhaps an infinite one. -/
theorem isNumber_ofIndex (negative : Bool) (index : Nat) : (ofIndex negative index).isNumber = true := by
  unfold ofIndex
  split <;> rfl

/-- What passes as finite is the double itself. -/
theorem eq_of_finite? {x y : Double} (h : finite? x = some y) : y = x := by
  cases x with
  | infinite negative => exact nomatch h
  | _ => exact (Option.some.inj h).symm

/-- The nearest double to an integer is a number. -/
theorem isNumber_of_ofInt? {k : Int} {x : Double} (h : ofInt? k = some x) : x.isNumber = true := by
  have hfinite : finite? (ofRatio (k < 0) k.natAbs 1) = some x := h
  rw [eq_of_finite? hfinite]
  exact isNumber_ofIndex _ _

/-- **The nearest double to an integer that a double can hold** has its value. -/
theorem ofInt?_of_units {k : Int} {negative : Bool} {e : Fin 2047} {f : Fin (twoTo 52)}
    (h : k * unitsPerOne = (Double.finite negative e f).units) :
    ∃ negative', ofInt? k = some (.finite negative' e f) ∧ (Double.finite negative' e f).units = k * unitsPerOne := by
  have hat : k.natAbs * unitsPerOne = unitsAt (index e f) := by
    rw [← natAbs_units negative, ← h, Int.natAbs_mul, Int.natAbs_natCast]
  have hat' : (unitsAt (index e f) : Int) = k.natAbs * unitsPerOne := by
    rw [← hat, Int.natCast_mul]
  refine ⟨k < 0, ?_, ?_⟩
  · rw [ofInt?, ofRatio, hat, indexOf_unitsAt, ofIndex_index]
    rfl
  · by_cases hk : k < 0
    · rw [decide_eq_true hk, units_negative, hat', ← Int.neg_mul, Int.ofNat_natAbs_of_nonpos (Int.le_of_lt hk),
        Int.neg_neg]
    · rw [decide_eq_false hk, units_positive, hat', Int.natAbs_of_nonneg (Int.not_lt.mp hk)]

end Double

end StoryValues
