import StoryValues.Proofs.Number.Exact
import StoryValues.Proofs.Number.Within

/-
  ROUNDING KEEPS THE ORDER of numbers, but not all of it: neighbours may come to one double.

  1. **To whole numbers** (`roundHalfEven_mono`): quotients by one divisor.
  2. **To doubles** (`Double.indexOf_mono`): where as many digits are shifted out of both, their quotients are rounded;
     else a power of two stands between them, which rounding does not cross.
  3. **Of numbers** (`Number.toDouble_mono`): the units of the nearest double are a monotone function of the units of
     the number (`Double.rounded`), whichever sign and kind it has.
  4. **Of whole numbers** (`Number.isWhole_of_toDouble`): rounding cuts off digits and nothing else, so what is whole
     comes to a double that is.
-/

namespace StoryValues

/-! ## Quotients -/

/-- Rounding does not go below the whole part. -/
theorem div_le_roundHalfEven (num den : Nat) : num / den ≤ roundHalfEven num den := by
  rw [roundHalfEven]
  split
  · exact Nat.le_refl _
  · exact Nat.le_succ _
  · split <;> omega

/-- Rounding does not go beyond the next whole number. -/
theorem roundHalfEven_le_succ (num den : Nat) : roundHalfEven num den ≤ num / den + 1 := by
  rw [roundHalfEven]
  split
  · exact Nat.le_succ _
  · exact Nat.le_refl _
  · split <;> omega

/-- **A larger number is not rounded to less,** both being divided by the same.  Where the whole parts agree the
remainders decide, and halves go the same way for both. -/
theorem roundHalfEven_mono {m n : Nat} (h : m ≤ n) (den : Nat) : roundHalfEven m den ≤ roundHalfEven n den := by
  have hquotient : m / den ≤ n / den := Nat.div_le_div_right h
  rcases Nat.lt_or_eq_of_le hquotient with hlt | heq
  · calc roundHalfEven m den
        ≤ m / den + 1 := roundHalfEven_le_succ m den
      _ ≤ n / den := hlt
      _ ≤ roundHalfEven n den := div_le_roundHalfEven n den
  · -- of one quotient, the larger has the larger remainder
    have hm := Nat.div_add_mod m den
    have hn := Nat.div_add_mod n den
    rw [heq] at hm
    have hrest : m % den ≤ n % den := by omega
    unfold roundHalfEven
    rw [heq]
    rcases hcm : compare (2 * (m % den)) den with _ | _ | _
    all_goals rcases hcn : compare (2 * (n % den)) den with _ | _ | _
    all_goals simp only [Nat.compare_eq_lt, Nat.compare_eq_eq, Nat.compare_eq_gt] at hcm hcn
    all_goals simp only
    all_goals (try split) <;> omega

namespace Double

/-! ## Indices -/

/-- The index of a number of units: so many digits are shifted out that 53 are left, and the rest is rounded. -/
theorem indexOf_one (n : Nat) : indexOf n 1 = (n.log2 - 52) * twoTo 52 + roundHalfEven n (twoTo (n.log2 - 52)) := by
  rw [indexOf, Nat.div_one, Nat.one_mul]

/-- **More units are not rounded to a lower index.**  With as many digits shifted out it is `roundHalfEven_mono`;
otherwise a power of two lies between, whose index both keep to. -/
theorem indexOf_mono {m n : Nat} (h : m ≤ n) : indexOf m 1 ≤ indexOf n 1 := by
  have hlog : m.log2 ≤ n.log2 := by
    rcases Nat.eq_zero_or_pos m with rfl | hm
    · rw [Nat.log2_zero]
      exact Nat.zero_le _
    · exact (Nat.le_log2 (by omega)).mpr (Nat.le_trans (Nat.log2_self_le (by omega)) h)
  rcases Nat.lt_or_eq_of_le (Nat.sub_le_sub_right hlog 52) with hlt | heq
  · -- the power of two at which the digits of the larger begin is past the smaller
    have hbelow : m < 1 * twoTo (m.log2 - 52 + 53) := by
      rw [Nat.one_mul]
      exact Nat.lt_of_lt_of_le Nat.lt_log2_self (twoTo_mono (by omega))
    have hdigits : twoTo 52 ≤ n / twoTo (n.log2 - 52) := by
      rw [Nat.le_div_iff_mul_le (twoTo_pos _), ← twoTo_add]
      have hn : n ≠ 0 := by
        rintro rfl
        exact Nat.not_lt_zero _ hlt
      have hexponent : 52 + (n.log2 - 52) = n.log2 := by omega
      rw [hexponent]
      exact Nat.log2_self_le hn
    calc indexOf m 1
        ≤ (m.log2 - 52 + 53 - 51) * twoTo 52 := indexOf_le (by omega) hbelow
      _ ≤ (n.log2 - 52 + 1) * twoTo 52 := Nat.mul_le_mul_right _ (by omega)
      _ = (n.log2 - 52) * twoTo 52 + twoTo 52 := Nat.succ_mul _ _
      _ ≤ (n.log2 - 52) * twoTo 52 + n / twoTo (n.log2 - 52) := Nat.add_le_add_left hdigits _
      _ ≤ (n.log2 - 52) * twoTo 52 + roundHalfEven n (twoTo (n.log2 - 52)) :=
        Nat.add_le_add_left (div_le_roundHalfEven _ _) _
      _ = indexOf n 1 := (indexOf_one n).symm
  · rw [indexOf_one, indexOf_one, heq]
    exact Nat.add_le_add_left (roundHalfEven_mono h _) _

/-! ## Units -/

/-- The units of the double nearest to a number of units. -/
def rounded (u : Int) : Int := if u < 0 then -(unitsAt (indexOf u.natAbs 1) : Int) else unitsAt (indexOf u.natAbs 1)

/-- Rounding to a double keeps to the size of what is rounded. -/
theorem natAbs_rounded (u : Int) : (rounded u).natAbs = unitsAt (indexOf u.natAbs 1) := by
  unfold rounded
  split
  · rw [Int.natAbs_neg, Int.natAbs_natCast]
  · rw [Int.natAbs_natCast]

/-- More units are not rounded to less, whichever signs they have. -/
theorem rounded_mono {u v : Int} (h : u ≤ v) : rounded u ≤ rounded v := by
  have hmono : ∀ {m n : Nat}, m ≤ n → unitsAt (indexOf m 1) ≤ unitsAt (indexOf n 1) := fun hmn =>
    unitsAt_strictMono.monotone (indexOf_mono hmn)
  unfold rounded
  by_cases hv : v < 0
  · have hu : u < 0 := Int.lt_of_le_of_lt h hv
    have := hmono (show v.natAbs ≤ u.natAbs by omega)
    rw [if_pos hu, if_pos hv]
    omega
  · by_cases hu : u < 0
    · rw [if_pos hu, if_neg hv]
      omega
    · have := hmono (show u.natAbs ≤ v.natAbs by omega)
      rw [if_neg hu, if_neg hv]
      omega

/-- A double is nearest to itself. -/
theorem units_eq_rounded (s : Bool) (e : Fin 2047) (f : Fin (twoTo 52)) :
    (finite s e f).units = rounded (finite s e f).units := by
  rw [rounded, natAbs_units, indexOf_unitsAt]
  cases s with
  | false => rw [units_positive, if_neg (Int.not_lt.mpr (Int.natCast_nonneg _))]
  | true =>
    rw [units_negative]
    split <;> omega

/-- The units of the double of an index, and that it is finite. -/
theorem units_ofIndex {s : Bool} {i : Nat} {x : Double} (h : finite? (ofIndex s i) = some x) :
    x.units = (if s then -(unitsAt i : Int) else unitsAt i) ∧ ∃ e f, x = .finite s e f := by
  unfold ofIndex at h
  split at h
  · obtain rfl := eq_of_finite? h
    refine ⟨?_, _, _, rfl⟩
    rw [units, index, Nat.mul_comm, Nat.div_add_mod]
  · cases h

/-! ## Whole numbers -/

/-- Steps of some size, from where they have it on. -/
theorem unitsAt_steps {s r : Nat} (hlow : s = 0 ∨ twoTo 52 ≤ r) (hhigh : r ≤ twoTo 53) :
    unitsAt (s * twoTo 52 + r) = r * twoTo s := by
  have hdouble : twoTo 53 = 2 * twoTo 52 := twoTo_succ 52
  rcases Nat.lt_or_ge r (twoTo 52) with hsmall | hlarge
  · obtain rfl : s = 0 := hlow.resolve_right (Nat.not_le.mpr hsmall)
    rw [unitsAt_add hsmall, if_pos rfl]
    exact (Nat.mul_one r).symm
  · obtain ⟨f, rfl⟩ := Nat.exists_eq_add_of_le hlarge
    by_cases hf : f < twoTo 52
    · rw [show s * twoTo 52 + (twoTo 52 + f) = (s + 1) * twoTo 52 + f by rw [Nat.succ_mul, Nat.add_assoc],
        unitsAt_add hf, if_neg (Nat.succ_ne_zero s), Nat.add_sub_cancel]
    · -- at the end of the steps of this size, where those of twice the size begin
      obtain rfl : f = twoTo 52 := by omega
      rw [show s * twoTo 52 + (twoTo 52 + twoTo 52) = (s + 2) * twoTo 52 + 0 by rw [Nat.add_mul s 2]; omega,
        unitsAt_add (twoTo_pos 52), if_neg (Nat.succ_ne_zero _), Nat.add_zero, Nat.add_succ_sub_one, twoTo_succ s,
        ← Nat.two_mul, Nat.mul_left_comm, Nat.mul_assoc]

/-- Rounding cuts off digits and nothing else. -/
theorem unitsAt_indexOf (n : Nat) :
    unitsAt (indexOf n 1) = roundHalfEven n (twoTo (n.log2 - 52)) * twoTo (n.log2 - 52) := by
  rw [indexOf_one]
  refine unitsAt_steps ?_ (roundHalfEven_le ?_)
  · by_cases hs : n.log2 - 52 = 0
    · exact Or.inl hs
    · refine Or.inr (Nat.le_trans ?_ (div_le_roundHalfEven _ _))
      have hn : n ≠ 0 := by
        rintro rfl
        exact hs (by rw [Nat.log2_zero])
      rw [Nat.le_div_iff_mul_le (twoTo_pos _), ← twoTo_add, show 52 + (n.log2 - 52) = n.log2 by omega]
      exact Nat.log2_self_le hn
  · rw [← twoTo_add]
    exact Nat.lt_of_lt_of_le Nat.lt_log2_self (twoTo_mono (by omega))

/-- A power of two is a double. -/
theorem unitsAt_indexOf_twoTo {k : Nat} (hk : 52 ≤ k) : unitsAt (indexOf (twoTo k) 1) = twoTo k := by
  have hlog : (twoTo k).log2 = k := Nat.log2_two_pow
  have hpow : twoTo k = twoTo 52 * twoTo (k - 52) := by rw [← twoTo_add, Nat.add_sub_cancel' hk]
  have hround : roundHalfEven (twoTo k) (twoTo (k - 52)) = twoTo 52 := by
    rw [hpow]
    exact roundHalfEven_mul (twoTo_pos _)
  rw [unitsAt_indexOf, hlog, hround, ← hpow]

/-- **What a power of two divides is rounded to what it divides.**  Either no more digits are shifted out than it has,
or the result is a multiple of a greater power. -/
theorem dvd_unitsAt_indexOf {k n : Nat} (h : twoTo k ∣ n) : twoTo k ∣ unitsAt (indexOf n 1) := by
  have hpowers : ∀ {i j : Nat}, i ≤ j → twoTo i ∣ twoTo j := fun hij => Nat.pow_dvd_pow 2 hij
  rw [unitsAt_indexOf]
  generalize n.log2 - 52 = s
  rcases Nat.le_total k s with hk | hk
  · exact (hpowers hk).mul_left _
  · -- nothing is cut off
    obtain ⟨q, hq⟩ := (hpowers hk).trans h
    rw [Nat.mul_comm] at hq
    have hround : roundHalfEven n (twoTo s) = q := hq ▸ roundHalfEven_mul (twoTo_pos s)
    rwa [hround, ← hq]

end Double

namespace Number

variable {m n : Number} {x y : Double}

/-! ## Numbers -/

/-- A number between the infinities. -/
def IsFinite (n : Number) : Prop := n.isNumber = true ∧ n.isInfinite = false

/-- A finite number lies between the infinities. -/
theorem IsFinite.side_eq (h : n.IsFinite) : n.side = 0 := by
  rcases finite_or_infinite h.1 with hside | ⟨negative, rfl⟩
  · exact hside
  · exact nomatch h.2

/-- **The nearest double of a finite number** is finite, and rounded from its units. -/
theorem units_toDouble (h : n.IsFinite) (hx : n.toDouble = .ok x) :
    x.units = Double.rounded n.units ∧ ∃ s e f, x = .finite s e f := by
  cases n with
  | real y =>
    obtain rfl := Except.ok.inj hx
    cases y with
    | finite s e f => exact ⟨Double.units_eq_rounded s e f, s, e, f, rfl⟩
    | infinite s => exact nomatch h.2
    | nan tag => exact nomatch h.1
  | int k =>
    -- an integer has a nearest double, as there is a result; a double is its own
    have hnearest : Double.ofInt? k = some x := by
      rw [toDouble] at hx
      cases hk : Double.ofInt? k with
      | none =>
        rw [hk] at hx
        cases hx
      | some y =>
        rw [hk] at hx
        exact congrArg some (Except.ok.inj hx)
    obtain ⟨hunits, e, f, rfl⟩ := Double.units_ofIndex hnearest
    refine ⟨?_, _, e, f, rfl⟩
    have hone : (0 : Int) < Double.unitsPerOne := Int.natCast_pos.mpr (twoTo_pos 1074)
    have hsign : k * (Double.unitsPerOne : Int) < 0 ↔ k < 0 := by
      constructor
      · exact fun h => Int.lt_of_mul_lt_mul_right (by rwa [Int.zero_mul]) (Int.le_of_lt hone)
      · exact fun h => Int.mul_neg_of_neg_of_pos h hone
    show _ = Double.rounded (k * Double.unitsPerOne)
    rw [hunits, Double.rounded, Int.natAbs_mul, Int.natAbs_natCast]
    simp only [hsign, decide_eq_true_eq]

/-- **An integer with a double near it is in the range of doubles,** so it has few digits: from `2 ^ 1024` on the nearest
double would have at least that many units. -/
theorem isShort_of_toDouble (hx : n.toDouble = .ok x) : n.isShort = true := by
  cases n with
  | real y => rfl
  | int k =>
    obtain ⟨hunits, s, e, f, rfl⟩ := units_toDouble ⟨rfl, rfl⟩ hx
    have hexact : (Double.finite s e f).units = Double.rounded (k * Double.unitsPerOne) := hunits
    have hnearest : Double.unitsAt (Double.index e f) =
        Double.unitsAt (Double.indexOf (k.natAbs * Double.unitsPerOne) 1) := by
      rw [← Double.natAbs_units s, hexact, Double.natAbs_rounded, Int.natAbs_mul, Int.natAbs_natCast]
    refine isShort_of_lt (Nat.lt_of_not_le fun hle => ?_)
    have hlow : twoTo (1024 + 1074) ≤ k.natAbs * Double.unitsPerOne := by
      rw [twoTo_add, Double.unitsPerOne]
      exact Nat.mul_le_mul_right (twoTo 1074) hle
    have hhigh : twoTo (1024 + 1074) ≤ Double.unitsAt (Double.index e f) := by
      rw [hnearest, ← Double.unitsAt_indexOf_twoTo (by decide : 52 ≤ 1024 + 1074)]
      exact Double.unitsAt_strictMono.monotone (Double.indexOf_mono hlow)
    have hbelow := Double.unitsAt_lt e f
    rw [Double.unitsPerOne, ← twoTo_add] at hbelow
    exact Nat.not_lt_of_le hhigh hbelow

/-- **Rounding keeps the order.** -/
theorem toDouble_mono (hm : m.IsFinite) (hn : n.IsFinite) (hx : m.toDouble = .ok x) (hy : n.toDouble = .ok y)
    (h : m.units ≤ n.units) : x.units ≤ y.units := by
  rw [(units_toDouble hm hx).1, (units_toDouble hn hy).1]
  exact Double.rounded_mono h

/-- Between the infinities, the order of values is that of units. -/
theorem exact_le_iff (hm : m.side = 0) (hn : n.side = 0) : m.exact ≤ n.exact ↔ m.units ≤ n.units := by
  have hpos : (0 : ℚ) < Double.unitsPerOne := by
    rw [Double.unitsPerOne_eq]
    exact zpow_pos (by decide) _
  obtain ⟨p, hp, hpu⟩ := exact_of_side hm
  obtain ⟨q, hq, hqu⟩ := exact_of_side hn
  rw [hp, hq, WithBot.coe_le_coe, WithTop.coe_le_coe, ← Int.cast_le (R := ℚ), hpu, hqu, mul_le_mul_iff_left₀ hpos]

/-- **The nearest double of a whole number is whole.** -/
theorem isWhole_of_toDouble {k : Int} (hx : (int k).toDouble = .ok x) : x.isWhole = true := by
  obtain ⟨hunits, s, e, f, rfl⟩ := units_toDouble ⟨rfl, rfl⟩ hx
  have hdvd : (Double.unitsPerOne : Int) ∣ Double.rounded (k * Double.unitsPerOne) := by
    have hnat : Double.unitsPerOne ∣ Double.unitsAt (Double.indexOf (k * Double.unitsPerOne : Int).natAbs 1) := by
      refine Double.dvd_unitsAt_indexOf ?_
      rw [Int.natAbs_mul, Int.natAbs_natCast]
      exact Nat.dvd_mul_left _ _
    unfold Double.rounded
    split
    · exact Int.dvd_neg.mpr (Int.natCast_dvd_natCast.mpr hnat)
    · exact Int.natCast_dvd_natCast.mpr hnat
  show decide ((Double.finite s e f).units % Double.unitsPerOne = 0) = true
  rw [hunits]
  exact decide_eq_true (Int.emod_eq_zero_of_dvd hdvd)

end Number

end StoryValues
