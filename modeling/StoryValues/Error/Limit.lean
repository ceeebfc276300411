import StoryValues.Text.Blank
import StoryValues.Text.Digit

/-
  THE REPETITION LIMIT as a host writes it: blanks, a sign, and decimal digits of any script, with
  single underscores allowed between digits.  Any other text, and a numeral of more than 4300 digits,
  means the usual limit.
-/

namespace StoryValues

namespace Limit

/-- The limit where none is written, or none that can be read. -/
def usual : Int := 1000

/-- The digits of a numeral: digits with at most one underscore between two of them. -/
def digits? : List Char → Option (List Char)
  | [] => none
  | [d] => if isDigit d then some [d] else none
  | d :: '_' :: rest => if isDigit d then (digits? rest).map (d :: ·) else none
  | d :: rest => if isDigit d then (digits? rest).map (d :: ·) else none

/-- Drops blanks on both sides. -/
def trim (cs : List Char) : List Char :=
  ((cs.dropWhile isBlank).reverse.dropWhile isBlank).reverse

/-- Reads an integer. -/
def read? (s : String) : Option Int :=
  let (negative, cs) := match trim s.toList with
    | '-' :: cs => (true, cs)
    | '+' :: cs => (false, cs)
    | cs => (false, cs)
  (digits? cs).bind fun ds =>
    if ds.length ≤ maxDigits then
      some (if negative then -(numeralValue ds : Int) else numeralValue ds)
    else none

/-- The limit that a written text stands for. -/
def ofText (s : String) : Int := (read? s).getD usual

example : ofText " 1_0 " = 10 ∧ ofText "-3" = -3 ∧ ofText "1__0" = 1000 ∧ ofText "" = 1000 := by
  decide +kernel

end Limit

end StoryValues
