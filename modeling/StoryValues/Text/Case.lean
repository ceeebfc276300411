import StoryValues.Text.CaseMap
import StoryValues.Text.Cased

/-
  LETTER CASE of whole texts, and the classes of cased characters that string patterns use.

  1. **Texts.**  Upper case and folding map each character by its table.  Lower case does too, with
     one exception: a capital sigma that ends a word becomes the final small sigma.
  2. **Classes.**  For patterns a character is uppercase when lowering changes it, lowercase when
     raising changes it, and cased when the two results differ, all below U+10000 only.
-/

namespace StoryValues

/-! ## Texts -/

namespace Case

/-- A character in upper case, which may be several characters. -/
def upperChar (c : Char) : List Char := upperMap.mapChar c

/-- A character in lower case, taken alone. -/
def lowerChar (c : Char) : List Char := lowerMap.mapChar c

/-- A character with its case folded away. -/
def foldChar (c : Char) : List Char := foldMap.mapChar c

/-- Whether the nearest character that matters for case has one. -/
def nextHasCase (cs : List Char) : Bool :=
  match cs.dropWhile isCaseIgnorable with
  | [] => false
  | c :: _ => hasCase c

/-- Lowers a text; `before` holds the characters already passed, the nearest first. -/
def lowerAfter (before : List Char) : List Char → List Char
  | [] => []
  | c :: cs =>
    let image :=
      if c = 'Σ' then
        -- a sigma that ends a word
        if nextHasCase before && !nextHasCase cs then ['ς'] else ['σ']
      else lowerChar c
    image ++ lowerAfter (c :: before) cs

/-- A text in upper case. -/
def upper (s : String) : String := String.ofList (s.toList.flatMap upperChar)

/-- A text in lower case; what a sigma becomes depends on what stands around it. -/
def lower (s : String) : String := String.ofList (lowerAfter [] s.toList)

/-- A text with case folded away. -/
def fold (s : String) : String := String.ofList (s.toList.flatMap foldChar)

/-- Raises the first character of a text, which may become several. -/
def capitalise (s : String) : String :=
  match s.toList with
  | [] => s
  | c :: cs => String.ofList (upperChar c ++ cs)

/-! ## Classes -/

/-- Whether the character is one of the first 65536, the only ones that case classes hold. -/
def isBasic (c : Char) : Bool := c.toNat < 0x10000

/-- Whether lower case changes a character. -/
def isUppercase (c : Char) : Bool := isBasic c && lowerChar c != [c]

/-- Whether upper case changes a character. -/
def isLowercase (c : Char) : Bool := isBasic c && upperChar c != [c]

/-- Whether a character differs between the two cases. -/
def isCased (c : Char) : Bool := isBasic c && lowerChar c != upperChar c

/-- The characters that a cased character stands for where case does not matter: itself and its two
other forms, unless a form takes several characters. -/
def variants (c : Char) : List Char :=
  if isCased c then
    c :: ([upperChar c, lowerChar c].flatMap fun | [v] => [v] | _ => [])
  else [c]

/-- A character is always one of its own variants. -/
theorem mem_variants (c : Char) : c ∈ variants c := by
  unfold variants
  split <;> simp

example : lower "ΑΣ ΣΑ" = "ας σα" := by decide +kernel
example : upper "straße" = "STRASSE" ∧ fold "ẞ" = "ss" := by decide +kernel

end Case

end StoryValues
