import StoryValues.Proofs.Number.Exact
import StoryValues.Proofs.Number.Layout
import StoryValues.Proofs.Number.Within

/-
  NUMBERS AS A STORY WRITES THEM.  A whole value is written with its digits, an infinity by its name, and
  any other double with the decimal that is nearest to it and to no other double (`Number.Shown`).  The
  three can be told apart by their characters, and so two numbers are written alike iff they are of the same
  value (`Number.written_eq_iff`).
-/

namespace StoryValues

namespace Number

open Double

/-- **The text of a number:** of a whole value, of an infinity, and of any other double. -/
inductive Shown : Number → String → Prop
  | whole {n : Number} {k : Int} : n.isNumber = true → n.side = 0 → n.units = k * unitsPerOne →
      Shown n (toString k)
  | infinite (negative : Bool) :
      Shown (.real (.infinite negative)) (if negative then "-Infinity" else "Infinity")
  | fraction {negative : Bool} {e : Fin 2047} {f : Fin (twoTo 52)} :
      (Double.finite negative e f).isWhole = false →
      Shown (.real (.finite negative e f))
        (if negative then "-" ++ (Decimal.shortest (index e f)).render Decimal.plain
         else (Decimal.shortest (index e f)).render Decimal.plain)

/-- A value that is whole is its whole part. -/
theorem units_of_isWhole {x : Double} (h : x.isWhole = true) : x.units = x.truncate * unitsPerOne := by
  cases x with
  | finite negative e f =>
    have hdvd : (unitsPerOne : Int) ∣ (finite negative e f).units := Int.dvd_of_emod_eq_zero (of_decide_eq_true h)
    exact (Int.tdiv_mul_cancel hdvd).symm
  | infinite negative => exact nomatch h
  | nan tag => exact nomatch h

/-- A double that is not whole is not zero. -/
theorem index_ne_zero {negative : Bool} {e : Fin 2047} {f : Fin (twoTo 52)}
    (h : (Double.finite negative e f).isWhole = false) : index e f ≠ 0 := by
  intro hzero
  have hunits : (Double.finite negative e f).units = 0 := by
    have hat : unitsAt 0 = 0 := rfl
    rw [Double.units, hzero, hat]
    cases negative <;> rfl
  have hwhole : (Double.finite negative e f).isWhole = true := by
    show decide ((Double.finite negative e f).units % unitsPerOne = 0) = true
    rw [hunits, Int.zero_emod]
    rfl
  exact absurd (h.symm.trans hwhole) Bool.false_ne_true

/-- A number is written in one of the three ways. -/
theorem shown_written {n : Number} (h : n.isNumber = true) : Shown n n.written := by
  cases n with
  | int k => exact .whole h rfl rfl
  | real x =>
    cases x with
    | nan tag => exact nomatch h
    | infinite negative => exact .infinite negative
    | finite negative e f =>
      cases hwhole : (Double.finite negative e f).isWhole with
      | true =>
        have hwritten : (Number.real (.finite negative e f)).written =
            toString (Double.finite negative e f).truncate := if_pos hwhole
        rw [hwritten]
        exact .whole h rfl (units_of_isWhole hwhole)
      | false =>
        have hwritten : (Number.real (.finite negative e f)).written = (Double.finite negative e f).text :=
          if_neg (by rw [hwhole]; exact Bool.false_ne_true)
        rw [hwritten, Double.text, if_neg (index_ne_zero hwhole)]
        exact .fraction hwhole

variable {m n : Number} {s t : String}

/-! ## Characters -/

/-- An integer is written with the digits of its size, and a sign if it is below zero. -/
theorem toList_int (k : Int) : 0 ≤ k ∧ (toString k).toList = Nat.toDigits 10 k.natAbs ∨
    k < 0 ∧ (toString k).toList = '-' :: Nat.toDigits 10 k.natAbs := by
  cases k with
  | ofNat j => exact Or.inl ⟨Int.natCast_nonneg j, Nat.toList_repr⟩
  | negSucc j =>
    refine Or.inr ⟨Int.negSucc_lt_zero j, ?_⟩
    show ("-" ++ Nat.repr (j + 1)).toList = _
    rw [String.toList_append, Nat.toList_repr]
    rfl

/-- Digits determine a natural number, since reading them gives it back. -/
theorem toDigits_injective {j k : Nat} (h : Nat.toDigits 10 j = Nat.toDigits 10 k) : j = k := by
  rw [← digitsValue_toDigits j, h, digitsValue_toDigits]

/-- The sign of an integer is no digit, so its text determines it. -/
theorem toString_injective {k k' : Int} (h : toString k = toString k') : k = k' := by
  have hsign (j : Nat) (cs : List Char) : Nat.toDigits 10 j ≠ '-' :: cs := by
    intro hcs
    have hdigit : '-'.isDigit = true := isDigit_toDigits (hcs.symm ▸ List.mem_cons_self)
    exact nomatch hdigit
  have htext := congrArg String.toList h
  rcases toList_int k with ⟨hk, hd⟩ | ⟨hk, hd⟩ <;> rcases toList_int k' with ⟨hk', hd'⟩ | ⟨hk', hd'⟩ <;>
    rw [hd, hd'] at htext
  · have := toDigits_injective htext
    omega
  · exact absurd htext (hsign _ _)
  · exact absurd htext.symm (hsign _ _)
  · have := toDigits_injective (List.cons.inj htext).2
    omega

/-- A text with a sign in front begins with it. -/
theorem toList_negative (body : String) : (if true then "-" ++ body else body).toList = '-' :: body.toList := by
  rw [if_pos rfl, String.toList_append]
  rfl

/-- A text without a sign is the text itself. -/
theorem toList_positive (body : String) : (if false then "-" ++ body else body).toList = body.toList := by
  rw [if_neg Bool.false_ne_true]

/-- The text of a number starts with a digit, a sign or a letter. -/
theorem Shown.head (h : Shown n s) :
    ∃ c cs, s.toList = c :: cs ∧ (c.isDigit = true ∨ c = '-' ∨ c = 'I') := by
  cases h with
  | @whole _ k _ _ _ =>
    rcases toList_int k with ⟨_, hk⟩ | ⟨_, hk⟩
    · obtain ⟨c, cs, hcs⟩ : ∃ c cs, Nat.toDigits 10 k.natAbs = c :: cs :=
        List.exists_cons_of_ne_nil Nat.toDigits_ne_nil
      exact ⟨c, cs, hk.trans hcs, Or.inl (isDigit_toDigits (hcs ▸ List.mem_cons_self))⟩
    · exact ⟨_, _, hk, Or.inr (Or.inl rfl)⟩
  | infinite negative =>
    cases negative with
    | false => exact ⟨'I', _, rfl, Or.inr (Or.inr rfl)⟩
    | true => exact ⟨'-', _, rfl, Or.inr (Or.inl rfl)⟩
  | @fraction negative e f _ =>
    cases negative with
    | false =>
      obtain ⟨c, cs, hcs, hc⟩ := (Decimal.text_render Decimal.plain (Decimal.shortest (index e f))).head
      exact ⟨c, cs, (toList_positive _).trans hcs, Or.inl hc⟩
    | true => exact ⟨'-', _, toList_negative _, Or.inr (Or.inl rfl)⟩

/-- A whole value has digits and perhaps a sign. -/
theorem chars_whole (k : Int) : ∀ c ∈ (toString k).toList, c.isDigit = true ∨ c = '-' := by
  rcases toList_int k with ⟨_, hk⟩ | ⟨_, hk⟩
  · rw [hk]
    exact fun c hc => Or.inl (isDigit_toDigits hc)
  · rw [hk]
    exact List.forall_mem_cons.mpr ⟨Or.inr rfl, fun c hc => Or.inl (isDigit_toDigits hc)⟩

/-- A double that is not whole has characters of decimals, a point or an exponent among them. -/
theorem chars_fraction (negative : Bool) (d : Decimal) :
    (∀ c ∈ (if negative then "-" ++ d.render Decimal.plain else d.render Decimal.plain).toList,
      Decimal.isNumeral c = true) ∧
    ∃ c ∈ (if negative then "-" ++ d.render Decimal.plain else d.render Decimal.plain).toList,
      c = '.' ∨ c = 'e' := by
  have htext := Decimal.text_render Decimal.plain d
  have hmark : ∃ c ∈ (d.render Decimal.plain).toList, c = '.' ∨ c = 'e' := by
    rcases htext.marked with hmark | hmark
    · exact ⟨'.', hmark, Or.inl rfl⟩
    · exact ⟨'e', hmark, Or.inr rfl⟩
  cases negative with
  | false =>
    rw [toList_positive]
    exact ⟨htext.numeral, hmark⟩
  | true =>
    rw [toList_negative]
    obtain ⟨c, hc, hc'⟩ := hmark
    exact ⟨List.forall_mem_cons.mpr ⟨rfl, htext.numeral⟩, c, List.mem_cons_of_mem _ hc, hc'⟩

/-- No comma and no parenthesis is in the text of a number. -/
theorem Shown.undelimited (h : Shown n s) : ∀ c ∈ s.toList, c ≠ ',' ∧ c ≠ ')' := by
  cases h with
  | @whole _ k _ _ _ =>
    intro c hc
    rcases chars_whole k c hc with h | rfl
    · constructor <;> rintro rfl <;> exact nomatch h
    · exact ⟨by decide, by decide⟩
  | infinite negative =>
    intro c hc
    have hall : (if negative then "-Infinity" else "Infinity").toList.all (fun c => c != ',' && c != ')') = true := by
      cases negative <;> rfl
    have h := List.all_eq_true.mp hall c hc
    rw [Bool.and_eq_true, bne_iff_ne, bne_iff_ne] at h
    exact h
  | @fraction negative e f _ =>
    intro c hc
    have h := (chars_fraction negative (Decimal.shortest (index e f))).1 c hc
    constructor <;> rintro rfl <;> exact nomatch h

/-! ## One text, one value -/

/-- Doubles with the same sign and equal decimals are one. -/
theorem eq_of_fraction {negative negative' : Bool} {e e' : Fin 2047} {f f' : Fin (twoTo 52)}
    (h : (if negative then "-" ++ (Decimal.shortest (index e f)).render Decimal.plain
          else (Decimal.shortest (index e f)).render Decimal.plain) =
        if negative' then "-" ++ (Decimal.shortest (index e' f')).render Decimal.plain
          else (Decimal.shortest (index e' f')).render Decimal.plain) :
    (Double.finite negative e f).units = (Double.finite negative' e' f').units := by
  have htext := congrArg String.toList h
  obtain ⟨c, cs, hcs, hc⟩ := (Decimal.text_render Decimal.plain (Decimal.shortest (index e f))).head
  obtain ⟨c', cs', hcs', hc'⟩ := (Decimal.text_render Decimal.plain (Decimal.shortest (index e' f'))).head
  -- a sign is no digit
  have hsame : negative = negative' ∧ (Decimal.shortest (index e f)).render Decimal.plain =
      (Decimal.shortest (index e' f')).render Decimal.plain := by
    cases negative with
    | false =>
      cases negative' with
      | false =>
        rw [toList_positive, toList_positive] at htext
        exact ⟨rfl, String.toList_inj.mp htext⟩
      | true =>
        rw [toList_positive, toList_negative, hcs] at htext
        obtain rfl : c = '-' := (List.cons.inj htext).1
        exact nomatch hc
    | true =>
      cases negative' with
      | false =>
        rw [toList_negative, toList_positive, hcs'] at htext
        obtain rfl : '-' = c' := (List.cons.inj htext).1
        exact nomatch hc'
      | true =>
        rw [toList_negative, toList_negative] at htext
        exact ⟨rfl, String.toList_inj.mp (List.cons.inj htext).2⟩
  obtain ⟨rfl, hbody⟩ := hsame
  obtain ⟨d, hd, hvalue⟩ := Decimal.readDecimal?_render Decimal.plain (Decimal.shortest (index e f))
  obtain ⟨d', hd', hvalue'⟩ := Decimal.readDecimal?_render Decimal.plain (Decimal.shortest (index e' f'))
  rw [hbody, hd'] at hd
  obtain rfl := Option.some.inj hd
  have hindex := Decimal.shortest_injective (hvalue.symm.trans hvalue')
  rw [Double.units, Double.units, hindex]

/-- **Numbers with one text are of one value.**  The ways to be written are told apart by characters: a point or an
exponent, a letter, or only digits and a sign. -/
theorem Shown.sameValue (hm : Shown m s) (hn : Shown n t) (h : s = t) : m.sameValue n = true := by
  rw [sameValue_iff]
  -- only an infinite number has this letter in its text, and only a fraction has a point or an exponent
  have hI (k : Int) : 'I' ∉ (toString k).toList := fun hc => by simpa using chars_whole k 'I' hc
  have hI' (negative : Bool) (d : Decimal) :
      'I' ∉ (if negative then "-" ++ d.render Decimal.plain else d.render Decimal.plain).toList :=
    fun hc => nomatch (chars_fraction negative d).1 'I' hc
  have hinfinite (negative : Bool) : 'I' ∈ (if negative then "-Infinity" else "Infinity").toList := by
    cases negative <;> decide
  have hfraction (k : Int) (negative : Bool) (d : Decimal) :
      toString k ≠ if negative then "-" ++ d.render Decimal.plain else d.render Decimal.plain := by
    intro heq
    obtain ⟨c, hc, hmark⟩ := (chars_fraction negative d).2
    rcases chars_whole k c (heq ▸ hc) with hdigit | rfl
    · rcases hmark with rfl | rfl <;> exact nomatch hdigit
    · rcases hmark with hmark | hmark <;> exact nomatch hmark
  cases hm with
  | @whole _ k hnumber hside hunits =>
    cases hn with
    | @whole _ k' hnumber' hside' hunits' =>
      obtain rfl := toString_injective h
      exact ⟨hnumber, hnumber', hside.trans hside'.symm, hunits.trans hunits'.symm⟩
    | infinite negative => exact absurd (h ▸ hinfinite negative) (hI k)
    | fraction _ => exact absurd h (hfraction _ _ _)
  | infinite negative =>
    cases hn with
    | @whole _ k _ _ _ => exact absurd (h ▸ hinfinite negative) (hI k)
    | infinite negative' =>
      cases negative <;> cases negative' <;> first | exact ⟨rfl, rfl, rfl, rfl⟩ | exact absurd h (by decide)
    | fraction _ => exact absurd (h ▸ hinfinite negative) (hI' _ _)
  | fraction _ =>
    cases hn with
    | @whole _ k _ _ _ => exact absurd h.symm (hfraction _ _ _)
    | infinite negative => exact absurd (h ▸ hinfinite negative) (hI' _ _)
    | fraction _ => exact ⟨rfl, rfl, rfl, eq_of_fraction h⟩

/-! ## One value, one text -/

/-- A double that is not whole is determined by its value. -/
theorem fraction_unique {negative negative' : Bool} {e e' : Fin 2047} {f f' : Fin (twoTo 52)}
    (h : (Double.finite negative e f).isWhole = false)
    (hunits : (Double.finite negative e f).units = (Double.finite negative' e' f').units) :
    Double.finite negative e f = .finite negative' e' f' := by
  have hzero : unitsAt 0 = 0 := rfl
  have hpos := unitsAt_strictMono (Nat.pos_of_ne_zero (index_ne_zero h))
  rw [hzero] at hpos
  simp only [Double.units] at hunits
  have hsame : negative = negative' ∧ unitsAt (index e f) = unitsAt (index e' f') := by
    cases negative <;> cases negative' <;> simp at hunits ⊢ <;> omega
  obtain ⟨rfl, hat⟩ := hsame
  have hindex := unitsAt_strictMono.injective hat
  have he : e = e' := Fin.ext (by rw [← index_div e f, hindex, index_div])
  have hf : f = f' := Fin.ext (by rw [← index_mod e f, hindex, index_mod])
  rw [he, hf]

/-- A value that is whole is of no double that is not. -/
theorem isWhole_of_units {negative : Bool} {e : Fin 2047} {f : Fin (twoTo 52)} {k : Int}
    (h : (Double.finite negative e f).units = k * unitsPerOne) : (Double.finite negative e f).isWhole = true := by
  show decide ((Double.finite negative e f).units % unitsPerOne = 0) = true
  rw [h, Int.mul_emod_left]
  rfl

/-- **Numbers of one value have one text.**  A value that is whole is so for both, and any other is that of one double
only. -/
theorem Shown.unique (hm : Shown m s) (hn : Shown n t) (h : m.sameValue n = true) : s = t := by
  -- numbers of one value are on one side and have the same units
  obtain ⟨_, _, hside, hunits⟩ := sameValue_iff.mp h
  cases hm with
  | @whole _ k _ hside' hk =>
    cases hn with
    | @whole _ k' _ _ hk' =>
      have hkk : k * unitsPerOne = k' * unitsPerOne := hk.symm.trans (hunits.trans hk')
      rw [Int.eq_of_mul_eq_mul_right unitsPerOne_ne_zero hkk]
    | infinite negative =>
      rw [hside'] at hside
      cases negative <;> exact absurd hside (by decide)
    | fraction hnot =>
      have hwhole := isWhole_of_units (hunits.symm.trans hk)
      rw [hnot] at hwhole
      exact nomatch hwhole
  | infinite negative =>
    cases hn with
    | whole _ hside' _ =>
      rw [hside'] at hside
      cases negative <;> exact absurd hside (by decide)
    | infinite negative' =>
      cases negative <;> cases negative' <;> first | rfl | exact absurd hside (by decide)
    | fraction _ => cases negative <;> simp [side] at hside
  | fraction hnot =>
    cases hn with
    | whole _ _ hk =>
      have hwhole := isWhole_of_units (hunits.trans hk)
      rw [hnot] at hwhole
      exact nomatch hwhole
    | infinite negative => cases negative <;> simp [side] at hside
    | fraction _ =>
      -- the units of a double that is not whole settle sign, exponent and fraction
      obtain ⟨rfl, rfl, rfl⟩ := Double.finite.inj (fraction_unique hnot hunits)
      rfl

/-! ## Whether a number can be written -/

/-- **Numbers of one value can be written or not alike:** an integer that is the value of a double has few digits. -/
theorem isShort_of_sameValue (h : m.sameValue n = true) (hm : m.isShort = true) : n.isShort = true := by
  obtain ⟨_, _, hside, hunits⟩ := sameValue_iff.mp h
  cases n with
  | real y => rfl
  | int k =>
    cases m with
    | int j =>
      obtain rfl : j = k := Int.eq_of_mul_eq_mul_right unitsPerOne_ne_zero hunits
      exact hm
    | real x =>
      cases x with
      | infinite negative =>
        have hint : (int k).side = 0 := rfl
        rw [hint] at hside
        cases negative <;> exact absurd hside (by decide)
      | nan tag => simp [sameValue, isNumber, Double.isNumber] at h
      | finite negative e f =>
        -- the value of a double is below the power of two that ends the doubles
        have habs : k.natAbs * unitsPerOne < twoTo 1024 * unitsPerOne := by
          have hexact : (Double.finite negative e f).units = k * unitsPerOne := hunits
          have hk := congrArg Int.natAbs hexact
          rw [natAbs_units, Int.natAbs_mul, Int.natAbs_natCast] at hk
          rw [← hk]
          exact unitsAt_lt e f
        have hpos : 0 < unitsPerOne := twoTo_pos 1074
        have hlt : k.natAbs < twoTo 1024 := (Nat.mul_lt_mul_right hpos).mp habs
        exact isShort_of_lt hlt

/-- **Two numbers are written alike iff they are of the same value.** -/
theorem written_eq_iff (hm : m.isNumber = true) (hn : n.isNumber = true) :
    m.written = n.written ↔ m.sameValue n = true :=
  ⟨(shown_written hm).sameValue (shown_written hn), (shown_written hm).unique (shown_written hn)⟩

end Number

end StoryValues
