import StoryValues.Number
import StoryValues.Proofs.Number.Index

/-
  NUMBERS THAT STAY FINITE.  A double is within a power of two (`Double.Within`), if it is finite and no further from
  zero than that.  Rounding never crosses a power of two, so a sum or a product of such doubles is within the next
  power that its exact value is below; and while the powers are small enough it has to be finite.

  The same is said of the numbers of a story (`Number.Within`), where two integers are added and multiplied exactly
  and all else is rounded.
-/

namespace StoryValues

variable {b c : Nat}

/-- Powers of two are multiplied by adding exponents. -/
theorem twoTo_add (j k : Nat) : twoTo (j + k) = twoTo j * twoTo k := Nat.pow_add 2 j k

/-- A greater exponent makes no smaller power of two. -/
theorem twoTo_mono {j k : Nat} (h : j ≤ k) : twoTo j ≤ twoTo k := Nat.pow_le_pow_right (by decide) h

/-- A greater exponent makes a greater power of two. -/
theorem twoTo_strictMono {j k : Nat} (h : j < k) : twoTo j < twoTo k := Nat.pow_lt_pow_right (by decide) h

/-- A power of two in units. -/
theorem Double.twoTo_units (b : Nat) : twoTo (1074 + b) = unitsPerOne * twoTo b := twoTo_add 1074 b

namespace Double

/-- All doubles are below the power of two behind the greatest exponent. -/
theorem unitsAt_lt (e : Fin 2047) (f : Fin (twoTo 52)) : unitsAt (index e f) < twoTo 1024 * unitsPerOne := by
  have hsplit : twoTo 1024 * unitsPerOne = twoTo 53 * twoTo 2045 := by
    rw [unitsPerOne, ← twoTo_add, ← twoTo_add]
  have hf : f.val < twoTo 52 := f.isLt
  have hdouble : twoTo 53 = 2 * twoTo 52 := twoTo_succ 52
  rw [hsplit]
  unfold unitsAt
  simp only [index_div, index_mod]
  split
  · have hone : 0 < twoTo 2045 := twoTo_pos 2045
    calc f.val
      _ < twoTo 53 := by omega
      _ ≤ twoTo 53 * twoTo 2045 := Nat.le_mul_of_pos_right _ hone
  · have hpow : twoTo (e.val - 1) ≤ twoTo 2045 := twoTo_mono (by omega)
    calc (twoTo 52 + f.val) * twoTo (e.val - 1)
      _ < twoTo 53 * twoTo (e.val - 1) := Nat.mul_lt_mul_of_pos_right (by omega) (twoTo_pos _)
      _ ≤ twoTo 53 * twoTo 2045 := Nat.mul_le_mul_left _ hpow

end Double

/-! ## Rounding -/

/-- A quotient below a whole number is rounded to that number at most. -/
theorem roundHalfEven_le {num den n : Nat} (h : num < den * n) : roundHalfEven num den ≤ n := by
  have hdiv : num / den < n := Nat.div_lt_of_lt_mul h
  rw [roundHalfEven]
  split
  · omega
  · omega
  · split <;> omega

namespace Double

/-- What is below a power of two in units is rounded to that power at most. -/
theorem indexOf_le {num den k : Nat} (hk : 53 ≤ k) (h : num < den * twoTo k) :
    indexOf num den ≤ (k - 51) * twoTo 52 := by
  have hq : num / den < twoTo k := Nat.div_lt_of_lt_mul h
  have hlog : (num / den).log2 < k := by
    by_cases hzero : num / den = 0
    · rw [hzero, Nat.log2_zero]
      omega
    · exact (Nat.log2_lt hzero).mpr hq
  have hden : 0 < den := Nat.pos_of_mul_pos_right (Nat.lt_of_le_of_lt (Nat.zero_le num) h)
  have hround : roundHalfEven num (den * twoTo ((num / den).log2 - 52)) ≤ twoTo 53 := by
    refine roundHalfEven_le ?_
    rw [Nat.mul_assoc, ← twoTo_add]
    -- the quotient has no more digits than are shifted out, and 53
    have hdigits : num / den < twoTo ((num / den).log2 - 52 + 53) :=
      Nat.lt_of_lt_of_le Nat.lt_log2_self (twoTo_mono (by omega))
    exact (Nat.div_lt_iff_lt_mul hden).mp hdigits |>.trans_eq (Nat.mul_comm _ _)
  have hfinal : (num / den).log2 - 52 + 2 ≤ k - 51 := by omega
  calc indexOf num den
      ≤ ((num / den).log2 - 52) * twoTo 52 + twoTo 53 := Nat.add_le_add_left hround _
    _ = ((num / den).log2 - 52 + 2) * twoTo 52 := by rw [Nat.add_mul, show twoTo 53 = 2 * twoTo 52 from twoTo_succ 52]
    _ ≤ (k - 51) * twoTo 52 := Nat.mul_le_mul_right _ hfinal

/-! ## Doubles -/

/-- A finite double whose distance from zero is at most a power of two. -/
def Within (b : Nat) (x : Double) : Prop :=
  (∃ s e f, x = .finite s e f) ∧ x.units.natAbs ≤ twoTo (1074 + b)

/-- What is within one power of two is within a greater one. -/
theorem Within.mono {x : Double} (h : x.Within b) (hbc : b ≤ c) : x.Within c :=
  ⟨h.1, h.2.trans (twoTo_mono (by omega))⟩

/-- An index that is not beyond that of a power of two belongs to a double within it, and a finite one while the power
is. -/
theorem within_ofIndex (s : Bool) {i : Nat} (hb : b ≤ 1023) (h : i ≤ (1074 + b - 51) * twoTo 52) :
    (ofIndex s i).Within b := by
  have hexponent : i / twoTo 52 < 2047 := by
    have hle : i / twoTo 52 ≤ 1074 + b - 51 := Nat.div_le_of_le_mul (h.trans_eq (Nat.mul_comm _ _))
    omega
  rw [ofIndex, dif_pos hexponent]
  refine ⟨⟨_, _, _, rfl⟩, ?_⟩
  rw [natAbs_units, index, Nat.mul_comm, Nat.div_add_mod]
  calc unitsAt i
      ≤ unitsAt ((1074 + b - 51) * twoTo 52) := unitsAt_strictMono.monotone h
    _ = unitsAt ((1074 + b - 51) * twoTo 52 + 0) := by rw [Nat.add_zero]
    _ = twoTo 52 * twoTo (1074 + b - 52) := by
      rw [unitsAt_add (twoTo_pos 52), if_neg (by omega), show 1074 + b - 51 - 1 = 1074 + b - 52 by omega, Nat.add_zero]
    _ = twoTo (1074 + b) := by rw [← twoTo_add, show 52 + (1074 + b - 52) = 1074 + b by omega]

/-- What is rounded from below a power of two is within it.  The operations below are rounded quotients, so each of
them is a bound on a quotient and this lemma. -/
theorem within_indexOf (s : Bool) {num den : Nat} (hb : b ≤ 1023) (h : num < den * twoTo (1074 + b)) :
    (ofIndex s (indexOf num den)).Within b :=
  within_ofIndex s hb (indexOf_le (by omega) h)

/-- Zero is within any of them. -/
theorem within_zero (s : Bool) (hb : b ≤ 1023) : (ofIndex s 0).Within b := within_ofIndex s hb (Nat.zero_le _)

/-- So is what has few enough units. -/
theorem within_ofUnits {u : Int} (hb : b ≤ 1023) (h : u.natAbs < twoTo (1074 + b)) : (ofUnits u).Within b :=
  within_indexOf _ hb (h.trans_eq (Nat.one_mul _).symm)

/-- A quotient below a power of two. -/
theorem within_ofRatio (s : Bool) {num den : Nat} (hb : b ≤ 1023) (h : num < den * twoTo b) :
    (ofRatio s num den).Within b := by
  refine within_indexOf s hb ?_
  rw [twoTo_add, Nat.mul_comm (twoTo 1074), ← Nat.mul_assoc]
  exact Nat.mul_lt_mul_of_pos_right h (twoTo_pos 1074)

/-- The sign does not matter. -/
theorem Within.neg {x : Double} (h : x.Within b) : x.neg.Within b := by
  obtain ⟨⟨s, e, f, rfl⟩, hunits⟩ := h
  refine ⟨⟨!s, e, f, rfl⟩, ?_⟩
  show (Double.finite (!s) e f).units.natAbs ≤ _
  rwa [natAbs_units] at hunits ⊢

/-- **A sum of doubles that are not too large is finite.**  Two units of exponent are enough for it: one for the sum,
and one for the bound that it is below. -/
theorem Within.add {x y : Double} (hx : x.Within b) (hy : y.Within b) (hb : b + 2 ≤ 1023) :
    (x.add y).Within (b + 2) := by
  obtain ⟨⟨s, e, f, rfl⟩, hx⟩ := hx
  obtain ⟨⟨t, e', f', rfl⟩, hy⟩ := hy
  rw [Double.add]
  split
  · exact within_zero _ hb
  · refine within_ofUnits hb ?_
    have hsum := Int.natAbs_add_le (finite s e f).units (finite t e' f').units
    have hpos := twoTo_pos (1074 + b)
    rw [← Nat.add_assoc, twoTo_succ, twoTo_succ]
    omega

/-- So is a difference, a sum with the other sign. -/
theorem Within.sub {x y : Double} (hx : x.Within b) (hy : y.Within b) (hb : b + 2 ≤ 1023) :
    (x.sub y).Within (b + 2) := hx.add hy.neg hb

/-- **So is a product,** whose exponents are added. -/
theorem Within.mul {x y : Double} (hx : x.Within b) (hy : y.Within c) (hbc : b + c + 1 ≤ 1023) :
    (x.mul y).Within (b + c + 1) := by
  obtain ⟨⟨s, e, f, rfl⟩, hx⟩ := hx
  obtain ⟨⟨t, e', f', rfl⟩, hy⟩ := hy
  rw [Double.mul]
  refine within_indexOf _ hbc ?_
  rw [Int.natAbs_mul]
  calc (finite s e f).units.natAbs * (finite t e' f').units.natAbs
      ≤ twoTo (1074 + b) * twoTo (1074 + c) := Nat.mul_le_mul hx hy
    _ = twoTo 1074 * twoTo (1074 + (b + c)) := by
      rw [← twoTo_add, ← twoTo_add, show 1074 + b + (1074 + c) = 1074 + (1074 + (b + c)) by omega]
    _ < twoTo 1074 * twoTo (1074 + (b + c + 1)) :=
      Nat.mul_lt_mul_of_pos_left (twoTo_strictMono (by omega)) (twoTo_pos 1074)

/-- The remainder of a division by one is below one, or there is none.  It is how a hue of any size becomes a small
one. -/
theorem mod_one (x : Double) : (x.mod (ofRatio false 1 1)).isNumber = false ∨ (x.mod (ofRatio false 1 1)).Within 2 := by
  have hone : (ofRatio false 1 1).units = unitsPerOne ∧ ∃ e f, ofRatio false 1 1 = .finite false e f :=
    ⟨by decide +kernel, ⟨1023, by decide⟩, ⟨0, by decide⟩, by decide +kernel⟩
  obtain ⟨hunits, e', f', heq⟩ := hone
  rw [heq] at hunits ⊢
  cases x with
  | nan tag => exact Or.inl rfl
  | infinite s => exact Or.inl rfl
  | finite s e f =>
    right
    have hrest : ((Double.finite s e f).units.tmod unitsPerOne).natAbs < unitsPerOne := by
      rw [Int.natAbs_tmod, Int.natAbs_natCast]
      exact Nat.mod_lt _ (twoTo_pos 1074)
    have hfour : twoTo 2 = 4 := rfl
    have hpower := (twoTo_units 2).trans (congrArg (unitsPerOne * ·) hfour)
    rw [Double.mod, hunits]
    generalize (Double.finite s e f).units.tmod unitsPerOne = r at hrest ⊢
    split
    · exact within_zero _ (by decide)
    · split
      · exact within_ofUnits (by decide) (by omega)
      · exact within_ofUnits (by decide) (by omega)

end Double

/-! ## Numbers -/

namespace Number

/-- A finite number whose distance from zero is at most a power of two. -/
def Within (b : Nat) : Number → Prop
  | .int n => n.natAbs ≤ twoTo b
  | .real x => x.Within b

variable {m n : Number}

/-- The same for the numbers of a story. -/
theorem Within.mono (h : n.Within b) (hbc : b ≤ c) : n.Within c := by
  cases n with
  | int k => exact Nat.le_trans h (twoTo_mono hbc)
  | real x => exact Double.Within.mono h hbc

/-- A number that is not too large has a double next to it. -/
theorem Within.exists_toDouble (h : n.Within b) (hb : b + 1 ≤ 1023) : ∃ x, n.toDouble = .ok x ∧ x.Within (b + 1) := by
  cases n with
  | real x => exact ⟨x, rfl, Double.Within.mono h (Nat.le_succ b)⟩
  | int k =>
    have hlt : k.natAbs < 1 * twoTo (b + 1) := by
      have hpos := twoTo_pos b
      have hk : k.natAbs ≤ twoTo b := h
      rw [Double.twoTo_succ]
      omega
    have hwithin := Double.within_ofRatio (k < 0) hb hlt
    obtain ⟨s, e, f, hx⟩ := hwithin.1
    exact ⟨Double.ofRatio (k < 0) k.natAbs 1, by rw [toDouble, Double.ofInt?, hx]; rfl, hwithin⟩

/-- An operation that is exact on integers, and rounded otherwise, keeps within what both do.  The four cases are
those of two kinds of number. -/
theorem Within.combine {exact : Int → Int → Int} {rounded : Double → Double → Double} {d : Nat} (hm : m.Within b)
    (hn : n.Within c) (hb : b + 1 ≤ 1023) (hc : c + 1 ≤ 1023)
    (hexact : ∀ j k, j.natAbs ≤ twoTo b → k.natAbs ≤ twoTo c → (exact j k).natAbs ≤ twoTo d)
    (hrounded : ∀ x y, x.Within (b + 1) → y.Within (c + 1) → (rounded x y).Within d) :
    ∃ r, Number.combine exact rounded m n = .ok r ∧ r.Within d := by
  obtain ⟨x, hx, hxw⟩ := hm.exists_toDouble hb
  obtain ⟨y, hy, hyw⟩ := hn.exists_toDouble hc
  have hreal : ∃ r, (do
      let x ← m.toDouble
      let y ← n.toDouble
      return .real (rounded x y) : Except Fault Number) = .ok r ∧ r.Within d := by
    rw [hx, hy]
    exact ⟨.real (rounded x y), rfl, hrounded x y hxw hyw⟩
  cases m with
  | real x => exact hreal
  | int j =>
    cases n with
    | real y => exact hreal
    | int k => exact ⟨.int (exact j k), rfl, hexact j k hm hn⟩

/-- A sum is within three more exponents than its terms: an integer takes one to become a double. -/
theorem Within.add (hm : m.Within b) (hn : n.Within b) (hb : b + 3 ≤ 1023) :
    ∃ r, m.add n = .ok r ∧ r.Within (b + 3) := by
  refine hm.combine hn (by omega) (by omega) (fun j k hj hk => ?_) fun x y hx hy => hx.add hy hb
  have hsum := Int.natAbs_add_le j k
  have hpos := twoTo_pos b
  rw [Double.twoTo_succ, Double.twoTo_succ, Double.twoTo_succ]
  omega

/-- So is a difference. -/
theorem Within.sub (hm : m.Within b) (hn : n.Within b) (hb : b + 3 ≤ 1023) :
    ∃ r, m.sub n = .ok r ∧ r.Within (b + 3) := by
  refine hm.combine hn (by omega) (by omega) (fun j k hj hk => ?_) fun x y hx hy => hx.sub hy hb
  have hdifference := Int.natAbs_sub_le j k
  have hpos := twoTo_pos b
  rw [Double.twoTo_succ, Double.twoTo_succ, Double.twoTo_succ]
  omega

/-- A product is within three more than both exponents together. -/
theorem Within.mul (hm : m.Within b) (hn : n.Within c) (hbc : b + c + 3 ≤ 1023) :
    ∃ r, m.mul n = .ok r ∧ r.Within (b + c + 3) := by
  refine hm.combine hn (by omega) (by omega) (fun j k hj hk => ?_) fun x y hx hy => ?_
  · rw [Int.natAbs_mul]
    calc j.natAbs * k.natAbs
        ≤ twoTo b * twoTo c := Nat.mul_le_mul hj hk
      _ = twoTo (b + c) := (twoTo_add b c).symm
      _ ≤ twoTo (b + c + 3) := twoTo_mono (Nat.le_add_right _ _)
  · exact (hx.mul hy (by omega)).mono (by omega)

/-- A finite number can be rounded to a whole one, which is not much further from zero. -/
theorem Within.exists_round (h : n.Within b) : ∃ k, n.round = .ok k ∧ (int k).Within (b + 1) := by
  cases n with
  | int k => exact ⟨k, rfl, Within.mono h (Nat.le_succ b)⟩
  | real x =>
    obtain ⟨⟨s, e, f, rfl⟩, hunits⟩ := h
    refine ⟨_, rfl, ?_⟩
    have hdouble : twoTo b < twoTo (b + 1) := twoTo_strictMono (Nat.lt_succ_self b)
    rw [Double.twoTo_units] at hunits
    have hlt := Nat.lt_of_le_of_lt hunits (Nat.mul_lt_mul_of_pos_left hdouble (twoTo_pos 1074))
    have hwhole : roundHalfEven (Double.finite s e f).units.natAbs Double.unitsPerOne ≤ twoTo (b + 1) :=
      roundHalfEven_le hlt
    show (Double.finite s e f).round.natAbs ≤ twoTo (b + 1)
    unfold Double.round
    dsimp only
    split
    · rw [Int.natAbs_neg, Int.natAbs_natCast]
      exact hwhole
    · rw [Int.natAbs_natCast]
      exact hwhole

/-- A number between zero and an integer is no further from zero than the integer is. -/
theorem within_of_range {bound : Nat} (hbound : bound ≤ twoTo b) (hlow : Number.le (.int 0) n = true)
    (hhigh : n.le (.int bound) = true) : n.Within b := by
  simp only [le, lt, sameValue, Bool.and_eq_true, Bool.or_eq_true, decide_eq_true_eq, beq_iff_eq] at hlow hhigh
  have hzero : (Number.int 0).units = 0 := Int.zero_mul _
  rw [hzero] at hlow
  cases n with
  | int k =>
    -- for an integer the factor of the units is taken out of both bounds
    have hpos : (0 : Int) < Double.unitsPerOne := Int.natCast_pos.mpr (twoTo_pos 1074)
    have hnonneg : 0 * (Double.unitsPerOne : Int) ≤ k * Double.unitsPerOne := by
      have := hlow
      simp only [side, units] at this
      omega
    have hle : k * (Double.unitsPerOne : Int) ≤ bound * Double.unitsPerOne := by
      have := hhigh
      simp only [side, units] at this
      omega
    have hk0 := Int.le_of_mul_le_mul_right hnonneg hpos
    have hk1 := Int.le_of_mul_le_mul_right hle hpos
    show k.natAbs ≤ twoTo b
    omega
  | real x =>
    cases x with
    | nan tag =>
      -- what is no number is not above zero
      have hnumber : (Number.real (.nan tag)).isNumber = false := rfl
      rw [hnumber] at hlow
      simp only [Bool.false_eq_true, false_and, and_false, or_self] at hlow
    | infinite s =>
      -- an infinite one is beyond one of the bounds
      have hint : ∀ k, (Number.int k).side = 0 := fun _ => rfl
      cases s with
      | true =>
        have hside : (Number.real (.infinite true)).side = -1 := rfl
        rw [hside, hint] at hlow
        omega
      | false =>
        have hside : (Number.real (.infinite false)).side = 1 := rfl
        rw [hside, hint] at hhigh
        omega
    | finite s e f =>
      refine ⟨⟨s, e, f, rfl⟩, ?_⟩
      have hunits : (Number.int bound).units = (bound * Double.unitsPerOne : Nat) := (Int.natCast_mul _ _).symm
      have hle : bound * Double.unitsPerOne ≤ twoTo b * Double.unitsPerOne := Nat.mul_le_mul_right _ hbound
      rw [Double.twoTo_units b, Nat.mul_comm]
      rw [hunits] at hhigh
      simp only [side, units] at hlow hhigh
      omega

/-- A number between zero and one: what a percentage is taken for. -/
theorem within_of_fraction (hlow : Number.le (.int 0) n = true) (hhigh : n.le (.int 1) = true) : n.Within 0 :=
  within_of_range (show 1 ≤ twoTo 0 by decide) hlow hhigh

/-- A number in the range of doubles is not too long to be written. -/
theorem Within.isShort (h : n.Within b) (hb : b ≤ 1023) : n.isShort = true := by
  cases n with
  | int k =>
    refine isShort_of_lt ?_
    calc k.natAbs ≤ twoTo b := h
      _ < twoTo 1024 := twoTo_strictMono (by omega)
  | real x => rfl

/-- What is opaque can be written: the opacity that colours have by default. -/
theorem isShort_one : (Number.int 1).isShort = true :=
  Within.isShort (b := 0) (show (1 : Int).natAbs ≤ twoTo 0 by decide) (Nat.zero_le _)

end Number

end StoryValues
