import StoryValues.Text.Ranges

/-
  BLANKS: characters that separate words, among them the four separators U+001C to U+001F, the next
  line character and the no-break spaces.
-/

namespace StoryValues

/-- The blank characters. -/
def blankRanges : Ranges :=
  [
    (0x9, 0xD), (0x1C, 0x20), (0x85, 0x85), (0xA0, 0xA0), (0x1680, 0x1680), (0x2000, 0x200A),
    (0x2028, 0x2029), (0x202F, 0x202F), (0x205F, 0x205F), (0x3000, 0x3000)]

/-- Whether a character is blank. -/
def isBlank (c : Char) : Bool := blankRanges.holds c.toNat

example : blankRanges.ascending = true := by decide
example : isBlank '\t' = true ∧ isBlank 'a' = false := by decide

end StoryValues
