import Mathlib.Tactic.FieldSimp
import StoryValues.Proofs.Number.Shortest

/-
  WRITTEN DECIMALS can be read.  Whatever the layout, the text of a decimal reads as a decimal of the same
  value (`readDecimal?_render`): the digits are found again between the zeros that pad them, and the point
  or the exponent says how far they were moved.  So decimals of different values have different texts.
-/

namespace StoryValues

namespace Double

/-! ## Digits -/

/-- A natural number is written with its digits. -/
theorem toList_toString (n : Nat) : (toString n).toList = Nat.toDigits 10 n := Nat.toList_repr

/-- The characters in which a natural number is written are digits. -/
theorem isDigit_toDigits {n : Nat} {c : Char} (h : c ∈ Nat.toDigits 10 n) : c.isDigit = true :=
  Nat.isDigit_of_mem_toDigits (by decide) (by decide) h

/-- The zeros by which a numeral is filled up are digits. -/
theorem isDigit_zeros {k : Nat} {c : Char} (h : c ∈ List.replicate k '0') : c.isDigit = true := by
  rw [(List.mem_replicate.mp h).2]
  rfl

/-- Reading the digits of a number gives it back. -/
theorem digitsValue_toDigits (n : Nat) : digitsValue (Nat.toDigits 10 n) = n :=
  Nat.ofDigitChars_toDigits (by decide) (by decide)

/-- Digits are read from the front, so more of them go on from what was read. -/
theorem digitsValue_append (xs ys : List Char) :
    digitsValue (xs ++ ys) = ys.foldl (fun n c => 10 * n + (c.toNat - '0'.toNat)) (digitsValue xs) :=
  List.foldl_append

/-- Zeros in front count nothing. -/
theorem digitsValue_zeros_append (k : Nat) (ds : List Char) :
    digitsValue (List.replicate k '0' ++ ds) = digitsValue ds := by
  have hzeros : digitsValue (List.replicate k '0') = 0 := by
    induction k with
    | zero => rfl
    | succ k ih => rw [List.replicate_succ', digitsValue_append, ih]; rfl
  rw [digitsValue_append, hzeros]
  rfl

/-- Each zero behind makes it ten times as much. -/
theorem digitsValue_append_zeros (ds : List Char) (k : Nat) :
    digitsValue (ds ++ List.replicate k '0') = digitsValue ds * 10 ^ k := by
  induction k with
  | zero => rw [List.replicate_zero, List.append_nil, Nat.pow_zero, Nat.mul_one]
  | succ k ih =>
    rw [List.replicate_succ', ← List.append_assoc, digitsValue_append, ih]
    show 10 * (digitsValue ds * 10 ^ k) + 0 = _
    rw [Nat.add_zero, Nat.mul_comm, Nat.mul_assoc, Nat.pow_succ]

/-! ## Reading -/

/-- What may follow the digits of a decimal: nothing, or an exponent. -/
def Tail (rest : List Char) : Prop := rest = [] ∨ ∃ cs, rest = 'e' :: cs

/-- Digits are read up to what ends them: a point, an exponent, or the end of the text. -/
theorem takeWhile_digits {ds rest : List Char} (hds : ∀ c ∈ ds, c.isDigit = true) (hrest : Tail rest) :
    (ds ++ rest).takeWhile Char.isDigit = ds ∧ (ds ++ rest).dropWhile Char.isDigit = rest := by
  rw [List.takeWhile_append_of_pos hds, List.dropWhile_append_of_pos hds]
  rcases hrest with rfl | ⟨cs, rfl⟩
  · exact ⟨List.append_nil ds, rfl⟩
  · exact ⟨List.append_nil ds, rfl⟩

/-- Digits without a point. -/
theorem readDecimal?_digits {whole rest : List Char} (hne : whole ≠ []) (hwhole : ∀ c ∈ whole, c.isDigit = true)
    (hrest : Tail rest) :
    readDecimal? (whole ++ rest) = (readExponent rest).map fun e => ⟨digitsValue whole, e⟩ := by
  obtain ⟨htake, hdrop⟩ := takeWhile_digits hwhole hrest
  simp only [readDecimal?, htake, hdrop, hne, false_and, if_false]
  rcases hrest with rfl | ⟨cs, rfl⟩
  · simp
  · simp

/-- Digits with a point between them. -/
theorem readDecimal?_point {whole rest : List Char} (part : List Char) (hne : whole ≠ [])
    (hwhole : ∀ c ∈ whole, c.isDigit = true) (hpart : ∀ c ∈ part, c.isDigit = true) (hrest : Tail rest) :
    readDecimal? (whole ++ '.' :: (part ++ rest)) =
      (readExponent rest).map fun e => ⟨digitsValue (whole ++ part), e - part.length⟩ := by
  obtain ⟨htake, hdrop⟩ := takeWhile_digits hpart hrest
  have htake' : (whole ++ '.' :: (part ++ rest)).takeWhile Char.isDigit = whole := by
    rw [List.takeWhile_append_of_pos hwhole]
    exact List.append_nil whole
  have hdrop' : (whole ++ '.' :: (part ++ rest)).dropWhile Char.isDigit = '.' :: (part ++ rest) := by
    rw [List.dropWhile_append_of_pos hwhole]
    rfl
  simp only [readDecimal?, htake', hdrop', htake, hdrop, hne, false_and, if_false]

/-- A written exponent, with zeros in front of its digits, is read as itself. -/
theorem readExponent_written (e : Int) (k : Nat) :
    readExponent ('e' :: (if e < 0 then '-' else '+') :: (List.replicate k '0' ++ Nat.toDigits 10 e.natAbs)) =
      some e := by
  have hdigits : ∀ c ∈ List.replicate k '0' ++ Nat.toDigits 10 e.natAbs, c.isDigit = true :=
    List.forall_mem_append.mpr ⟨fun _ => isDigit_zeros, fun _ => isDigit_toDigits⟩
  have hne : List.replicate k '0' ++ Nat.toDigits 10 e.natAbs ≠ [] := by
    intro h
    exact Nat.toDigits_ne_nil (List.append_eq_nil_iff.mp h).2
  have hall := List.all_eq_true.mpr hdigits
  by_cases he : e < 0
  · simp only [he, if_true, readExponent, splitSign, hne, hall, ne_eq, not_false_eq_true, and_self, true_or,
      digitsValue_zeros_append, digitsValue_toDigits]
    congr 1
    omega
  · simp only [he, if_false, readExponent, splitSign, hne, hall, ne_eq, not_false_eq_true, and_self, true_or,
      digitsValue_zeros_append, digitsValue_toDigits]
    simp
    omega

end Double

namespace Decimal

open Double

/-! ## Layouts -/

/-- The digits of a decimal. -/
def written (d : Decimal) : List Char := Nat.toDigits 10 d.digits

/-- **The ways to write a decimal:** the point before its digits, among them or behind them, or an
exponent.  Each is tied to the exponent of the decimal. -/
inductive Text (d : Decimal) : List Char → Prop
  | before {k : Nat} : d.exponent = -((k + d.written.length : Nat) : Int) →
      Text d ('0' :: '.' :: (List.replicate k '0' ++ d.written))
  | among {k : Nat} : 0 < k → d.exponent = -((d.written.length - k : Nat) : Int) →
      Text d (d.written.take k ++ '.' :: d.written.drop k)
  | behind {k : Nat} : d.exponent = k → Text d (d.written ++ List.replicate k '0' ++ ['.', '0'])
  | power {e : Int} {k : Nat} : d.exponent = e - (d.written.length - 1 : Nat) →
      Text d (d.written.take 1 ++ (if d.written.drop 1 = [] then [] else '.' :: d.written.drop 1) ++
        'e' :: (if e < 0 then '-' else '+') :: (List.replicate k '0' ++ Nat.toDigits 10 e.natAbs))

variable {d : Decimal} {text : List Char}

/-- Zeros for padding, as characters. -/
theorem toList_zeros (k : Nat) : (zeros k).toList = List.replicate k '0' := String.toList_ofList

/-- The digits of a decimal are digits. -/
theorem isDigit_written {c : Char} (h : c ∈ d.written) : c.isDigit = true := isDigit_toDigits h

/-- There is at least one of them. -/
theorem written_ne_nil (d : Decimal) : d.written ≠ [] := Nat.toDigits_ne_nil

/-- The characters of a decimal in front of its point are digits. -/
theorem isDigit_take (d : Decimal) (k : Nat) : ∀ c ∈ d.written.take k, c.isDigit = true :=
  fun _ hc => isDigit_written (List.mem_of_mem_take hc)

/-- The characters of a decimal behind its point are digits. -/
theorem isDigit_drop (d : Decimal) (k : Nat) : ∀ c ∈ d.written.drop k, c.isDigit = true :=
  fun _ hc => isDigit_written (List.mem_of_mem_drop hc)

/-- In front of a point that is not at the front there is one. -/
theorem take_ne_nil (d : Decimal) {k : Nat} (hk : 0 < k) : d.written.take k ≠ [] := by
  intro h
  rcases List.take_eq_nil_iff.mp h with rfl | h
  · exact absurd hk (Nat.lt_irrefl 0)
  · exact written_ne_nil d h

/-- Every layout is one of the ways.  The proof goes through the cases of the layout, which depend on where the point
falls. -/
theorem text_render (layout : Layout) (d : Decimal) : Text d (d.render layout).toList := by
  have hlength : (toString d.digits).length = d.written.length := by
    rw [← String.length_toList, toList_toString]
    rfl
  have hcount : 0 < d.written.length := List.length_pos_iff.mpr (written_ne_nil d)
  have hdigits : Nat.toDigits 10 d.digits = d.written := rfl
  unfold render
  simp only [hlength, toList_toString, hdigits]
  split
  · split
    · simp only [String.toList_append, toList_zeros, toList_toString]
      exact .before (by omega)
    · split
      · simp only [String.toList_append, String.toList_ofList]
        rw [List.append_assoc]
        exact .among (by omega) (by omega)
      · simp only [String.toList_append, toList_zeros, toList_toString]
        exact .behind (by omega)
  · -- the layout with a power of ten, where one digit stands in front of the point
    have htail : (String.ofList (d.written.drop 1) = "") = (d.written.drop 1 = []) := by
      rw [← String.toList_inj, String.toList_ofList]
      rfl
    have hsign (e : Int) : (if e < 0 then "-".toList else "+".toList) = [if e < 0 then '-' else '+'] := by
      split <;> rfl
    simp only [htail, padLeft, String.toList_append, String.toList_ofList, toList_zeros, toList_toString,
      apply_ite String.toList]
    rw [hsign, List.append_assoc, List.append_assoc]
    exact .power (by omega)

/-! ## Reading back -/

/-- **Whichever way a decimal is written, what is read has its value.**  In each way the digits are found again
between zeros, and the exponent that is read makes up for where the point stands. -/
theorem Text.reads (h : Text d text) : ∃ d', readDecimal? text = some d' ∧ d'.value = d.value := by
  have hvalue : digitsValue d.written = d.digits := digitsValue_toDigits d.digits
  cases h with
  | @before k hk =>
    refine ⟨d, ?_, rfl⟩
    have hdigits : ∀ c ∈ List.replicate k '0' ++ d.written, c.isDigit = true :=
      List.forall_mem_append.mpr ⟨fun _ => isDigit_zeros, fun _ => isDigit_written⟩
    have hread := readDecimal?_point _ (List.cons_ne_nil '0' []) (by simp) hdigits (Or.inl rfl)
    have hzeros : digitsValue (['0'] ++ (List.replicate k '0' ++ d.written)) = d.digits :=
      (digitsValue_zeros_append (k + 1) d.written).trans hvalue
    rw [List.append_nil, hzeros, List.length_append, List.length_replicate] at hread
    refine hread.trans ?_
    show some (Decimal.mk d.digits (0 - ((k + d.written.length : Nat) : Int))) = _
    rw [Int.zero_sub, ← hk]
  | @among k hpos hk =>
    refine ⟨d, ?_, rfl⟩
    have hread := readDecimal?_point _ (d.take_ne_nil hpos) (d.isDigit_take k) (d.isDigit_drop k) (Or.inl rfl)
    rw [List.append_nil, List.take_append_drop, List.length_drop, hvalue] at hread
    refine hread.trans ?_
    show some (Decimal.mk d.digits (0 - ((d.written.length - k : Nat) : Int))) = _
    rw [Int.zero_sub, ← hk]
  | @behind k hk =>
    -- the last zero stands behind the point, so one digit more is read
    have hwhole : ∀ c ∈ d.written ++ List.replicate k '0', c.isDigit = true :=
      List.forall_mem_append.mpr ⟨fun _ => isDigit_written, fun _ => isDigit_zeros⟩
    have hread := readDecimal?_point ['0'] (List.append_ne_nil_of_left_ne_nil (written_ne_nil d) _) hwhole
      (by simp) (Or.inl rfl)
    have hzeros : digitsValue (d.written ++ List.replicate k '0' ++ ['0']) = d.digits * 10 ^ (k + 1) := by
      rw [List.append_assoc, ← List.replicate_succ', digitsValue_append_zeros, hvalue]
    rw [hzeros] at hread
    refine ⟨_, hread, ?_⟩
    show ((d.digits * 10 ^ (k + 1) : Nat) : ℚ) * 10 ^ (0 - ((1 : Nat) : Int)) = d.value
    rw [value, hk, Nat.cast_mul, Nat.cast_pow, Nat.cast_ofNat, mul_assoc, ← zpow_natCast,
      ← zpow_add₀ (by norm_num)]
    simp
  | @power e k hk =>
    refine ⟨d, ?_, rfl⟩
    have htail : Tail ('e' :: (if e < 0 then '-' else '+') :: (List.replicate k '0' ++ Nat.toDigits 10 e.natAbs)) :=
      Or.inr ⟨_, rfl⟩
    by_cases hdrop : d.written.drop 1 = []
    · have hlength : d.written.length - 1 = 0 := by rw [← List.length_drop, hdrop, List.length_nil]
      have hall : d.written.take 1 = d.written := by
        have := List.take_append_drop 1 d.written
        rwa [hdrop, List.append_nil] at this
      rw [if_pos hdrop, List.append_nil, readDecimal?_digits (d.take_ne_nil Nat.one_pos) (d.isDigit_take 1) htail,
        readExponent_written, hall, hvalue]
      rw [hlength, Nat.cast_zero, Int.sub_zero] at hk
      rw [← hk]
      rfl
    · rw [if_neg hdrop, List.append_assoc, List.cons_append,
        readDecimal?_point _ (d.take_ne_nil Nat.one_pos) (d.isDigit_take 1) (d.isDigit_drop 1) htail,
        readExponent_written, List.take_append_drop, List.length_drop, hvalue, Option.map_some, ← hk]

/-- **The text of a decimal reads as a decimal of the same value.** -/
theorem readDecimal?_render (layout : Layout) (d : Decimal) :
    ∃ d', readDecimal? (d.render layout).toList = some d' ∧ d'.value = d.value := (text_render layout d).reads

/-! ## Characters -/

/-- A text of a decimal starts with a digit. -/
theorem Text.head (h : Text d text) : ∃ c cs, text = c :: cs ∧ c.isDigit = true := by
  have hwritten : ∃ c cs, d.written = c :: cs ∧ c.isDigit = true := by
    obtain ⟨c, cs, hcs⟩ := List.exists_cons_of_ne_nil (written_ne_nil d)
    exact ⟨c, cs, hcs, isDigit_written (hcs ▸ List.mem_cons_self)⟩
  obtain ⟨c, cs, hcs, hc⟩ := hwritten
  cases h with
  | before _ => exact ⟨'0', _, rfl, rfl⟩
  | @among k hpos _ =>
    obtain ⟨j, rfl⟩ := Nat.exists_eq_succ_of_ne_zero (Nat.ne_of_gt hpos)
    rw [hcs]
    exact ⟨c, _, rfl, hc⟩
  | behind _ =>
    rw [hcs]
    exact ⟨c, _, rfl, hc⟩
  | power _ =>
    rw [hcs]
    exact ⟨c, _, rfl, hc⟩

/-- It has a point or an exponent. -/
theorem Text.marked (h : Text d text) : '.' ∈ text ∨ 'e' ∈ text := by
  cases h with
  | before _ => exact Or.inl (List.mem_cons_of_mem _ List.mem_cons_self)
  | among _ _ => exact Or.inl (List.mem_append_right _ List.mem_cons_self)
  | behind _ => exact Or.inl (List.mem_append_right _ List.mem_cons_self)
  | power _ => exact Or.inr (List.mem_append_right _ List.mem_cons_self)

/-- A character that numbers are written with. -/
def isNumeral (c : Char) : Bool := c.isDigit || c == '.' || c == 'e' || c == '+' || c == '-'

/-- All its characters are such that numbers are written with. -/
theorem Text.numeral (h : Text d text) : ∀ c ∈ text, isNumeral c = true := by
  have hdigit {c : Char} (hc : c.isDigit = true) : isNumeral c = true := by simp [isNumeral, hc]
  have hwritten : ∀ c ∈ d.written, isNumeral c = true := fun c hc => hdigit (isDigit_written hc)
  have hzeros {k : Nat} : ∀ c ∈ List.replicate k '0', isNumeral c = true := fun c hc => hdigit (isDigit_zeros hc)
  cases h with
  | before _ =>
    simp only [List.forall_mem_cons, List.forall_mem_append]
    exact ⟨rfl, rfl, hzeros, hwritten⟩
  | among _ _ =>
    simp only [List.forall_mem_cons, List.forall_mem_append]
    exact ⟨fun c hc => hdigit (d.isDigit_take _ c hc), rfl, fun c hc => hdigit (d.isDigit_drop _ c hc)⟩
  | behind _ =>
    simp only [List.forall_mem_cons, List.forall_mem_append]
    exact ⟨⟨hwritten, hzeros⟩, rfl, rfl, nofun⟩
  | @power e k _ =>
    have hdrop : ∀ c ∈ (if d.written.drop 1 = [] then [] else '.' :: d.written.drop 1), isNumeral c = true := by
      split
      · nofun
      · exact List.forall_mem_cons.mpr ⟨rfl, fun c hc => hdigit (d.isDigit_drop _ c hc)⟩
    have hsign : isNumeral (if e < 0 then '-' else '+') = true := by split <;> rfl
    simp only [List.forall_mem_cons, List.forall_mem_append]
    exact ⟨⟨fun c hc => hdigit (d.isDigit_take _ c hc), hdrop⟩, rfl, hsign, hzeros,
      fun c hc => hdigit (isDigit_toDigits hc)⟩

end Decimal

end StoryValues
