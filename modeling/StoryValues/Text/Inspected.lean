import StoryValues.Text.Printable
import StoryValues.Text.Quoted

/-
  INSPECTED TEXT: the way a string is shown in a message about a mistake of the host.  It stands in
  single quotes, or in double quotes if it holds single ones only.  The quote, the backslash and the
  usual controls are escaped, and characters that do not print are written by their number.
-/

namespace StoryValues

namespace Inspected

/-- The quote to write around a text. -/
def quoteFor (cs : List Char) : Char :=
  if cs.contains '\'' && !cs.contains '"' then '"' else '\''

/-- What is written for one character between such quotes. -/
def encodeChar (quote c : Char) : List Char :=
  if c = quote ∨ c = '\\' then ['\\', c]
  else if c = '\n' then ['\\', 'n']
  else if c = '\r' then ['\\', 'r']
  else if c = '\t' then ['\\', 't']
  else if isPrintable c then [c]
  else if c.toNat < 0x100 then '\\' :: 'x' :: hexDigits 2 c.toNat
  else if c.toNat < 0x10000 then '\\' :: 'u' :: hexDigits 4 c.toNat
  else '\\' :: 'U' :: hexDigits 8 c.toNat

end Inspected

/-- A string as it is shown for inspection. -/
def inspected (s : String) : String :=
  let quote := Inspected.quoteFor s.toList
  String.ofList (quote :: s.toList.flatMap (Inspected.encodeChar quote) ++ [quote])

example : inspected "" = "''" ∧ inspected "it's" = "\"it's\"" := by decide +kernel

end StoryValues
