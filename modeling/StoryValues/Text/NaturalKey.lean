import StoryValues.Number
import StoryValues.Text.Case
import StoryValues.Text.Digit

/-
  NATURAL ORDER.  Values are sorted the way a person would: numbers by value, text without regard to
  case and with embedded numerals compared as numbers.  A key is a list of parts; text is cut into
  **numerals** (digits, with a point if digits follow it) and the **words** between them.

  1. The texts of the parts, put together again, are the text that was cut (`NaturalKey.ofText`).
  2. Numerals come before words, and never compare equal to them; numerals compare by value and then
     by text, words by folded text and then by text.
  3. A key that is an initial part of another comes first.
-/

namespace StoryValues

/-- One part of a key: a numeral with its value, or words with their folded form. -/
inductive KeyPart where
  | numeral (value : Double) (text : String)
  | words (folded text : String)
  deriving DecidableEq

/-- A key of the natural order. -/
abbrev NaturalKey := List KeyPart

namespace KeyPart

/-- The order of doubles that are numbers. -/
def compareValues (x y : Double) : Ordering :=
  (compare (Number.real x).side (Number.real y).side).then (compare x.units y.units)

/-- The order of parts. -/
def order : KeyPart → KeyPart → Ordering
  | .numeral x s, .numeral y t => (compareValues x y).then (compare s t)
  | .numeral .., .words .. => .lt
  | .words .., .numeral .. => .gt
  | .words f s, .words g t => (compare f g).then (compare s t)

end KeyPart

namespace NaturalKey

/-- The order of keys: part by part, a key before its extensions. -/
def order : NaturalKey → NaturalKey → Ordering
  | [], [] => .eq
  | [], _ :: _ => .lt
  | _ :: _, [] => .gt
  | a :: as, b :: bs => (KeyPart.order a b).then (order as bs)

/-- Whether the first key may stand before the second. -/
def le (a b : NaturalKey) : Bool := order a b != .gt

/-! ## Cutting text -/

/-- The digits at the front, with a point and digits after it if there are any, and the rest. -/
def takeNumeral (cs : List Char) : List Char × List Char :=
  let whole := cs.takeWhile isDigit
  match cs.dropWhile isDigit with
  | '.' :: rest =>
    match rest.takeWhile isDigit with
    | [] => (whole, '.' :: rest)
    | part => (whole ++ '.' :: part, rest.dropWhile isDigit)
  | rest => (whole, rest)

/-- The value of a numeral: the double nearest to it. -/
def numeralDouble (cs : List Char) : Double :=
  let whole := cs.takeWhile isDigit
  let part := (cs.dropWhile isDigit).drop 1
  Double.ofDecimal false ⟨numeralValue (whole ++ part), -(part.length : Int)⟩

/-- What is left of the text after a numeral is no longer than what follows its first character. -/
theorem length_takeNumeral_le (cs : List Char) : (takeNumeral cs).2.length ≤ cs.length := by
  have hd : (cs.dropWhile isDigit).length ≤ cs.length := (List.dropWhile_suffix isDigit).length_le
  unfold takeNumeral
  split
  · rename_i rest heq
    have hr : (rest.dropWhile isDigit).length ≤ rest.length := (List.dropWhile_suffix isDigit).length_le
    rw [heq] at hd
    simp only [List.length_cons] at hd
    split <;> simp only [List.length_cons] <;> omega
  · exact hd

theorem length_takeNumeral_lt {c : Char} {cs : List Char} (h : isDigit c = true) :
    (takeNumeral (c :: cs)).2.length < (c :: cs).length := by
  have e : (takeNumeral (c :: cs)).2 = (takeNumeral cs).2 := by
    unfold takeNumeral
    rw [List.dropWhile_cons_of_pos h]
    split
    · split <;> rfl
    · rfl
  rw [e]
  exact Nat.lt_succ_of_le (length_takeNumeral_le cs)

/-- The parts of a text. -/
def ofChars (cs : List Char) : NaturalKey :=
  match cs with
  | [] => []
  | c :: rest =>
    if h : isDigit c = true then
      let numeral := (takeNumeral (c :: rest)).1
      have : (takeNumeral (c :: rest)).2.length < (c :: rest).length := length_takeNumeral_lt h
      .numeral (numeralDouble numeral) (String.ofList numeral) :: ofChars (takeNumeral (c :: rest)).2
    else
      let text := String.ofList ((c :: rest).takeWhile fun c => !isDigit c)
      have : ((c :: rest).dropWhile fun c => !isDigit c).length < (c :: rest).length := by
        rw [List.dropWhile_cons_of_pos (by simpa using h)]
        exact Nat.lt_succ_of_le (List.dropWhile_suffix _).length_le
      .words (Case.fold text) text :: ofChars ((c :: rest).dropWhile fun c => !isDigit c)
termination_by cs.length
decreasing_by
  · exact length_takeNumeral_lt h
  · assumption

/-- The key of a text. -/
def ofText (s : String) : NaturalKey := ofChars s.toList

/-- The key of a number: its nearest double, without text. -/
def ofNumber (n : Number) : Except Fault NaturalKey := n.toDouble.map fun x => [.numeral x ""]

end NaturalKey

end StoryValues
