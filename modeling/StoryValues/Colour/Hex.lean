import StoryValues.Value.Printing

/-
  HEX COLOURS.  A `#` with three or six hexadecimal digits names a colour: two digits to a channel,
  or one digit that is doubled.  One line feed may follow.
-/

namespace StoryValues

namespace Colour

/-- The value of a hexadecimal digit. -/
def hexValue? (c : Char) : Option Nat :=
  if '0' ≤ c ∧ c ≤ '9' then some (c.toNat - '0'.toNat)
  else if 'a' ≤ c ∧ c ≤ 'f' then some (c.toNat - 'a'.toNat + 10)
  else if 'A' ≤ c ∧ c ≤ 'F' then some (c.toNat - 'A'.toNat + 10)
  else none

/-- The channel that two digits name. -/
def channel (high low : Nat) : Number := .int (16 * high + low)

/-- The colour of the digits of its channels, opaque. -/
def ofDigits? : List Nat → Option Colour
  | [r, g, b] => some ⟨channel r r, channel g g, channel b b, .int 1⟩
  | [r, r', g, g', b, b'] => some ⟨channel r r', channel g g', channel b b', .int 1⟩
  | _ => none

/-- A text without the line feed that may end it. -/
def dropLineFeed (cs : List Char) : List Char :=
  if cs.getLast? = some '\n' then cs.dropLast else cs

/-- The colour that a text names in hexadecimal digits. -/
def ofHex? (s : String) : Option Colour :=
  match s.toList with
  | '#' :: rest => ((dropLineFeed rest).mapM hexValue?).bind ofDigits?
  | _ => none

/-- A colour as style sheets write it. -/
def css (c : Colour) : Except Fault String := do
  let channels ← c.channels.mapM Number.format
  return "rgba(" ++ String.intercalate ", " channels ++ ")"

example : (ofHex? "#f80").map (css · |>.toOption) = some (some "rgba(255, 136, 0, 1)") := by decide +kernel

end Colour

end StoryValues
