/-
  QUOTED TEXT: the way source text writes a string.  Double quotes stand around it; inside, a quote
  and a backslash have a backslash in front, the usual controls have a letter, and every other
  control character is written by its number in four hexadecimal digits.  All else stands for itself.
-/

namespace StoryValues

/-- The last `width` hexadecimal digits of a number, in lower case. -/
def hexDigits : (width : Nat) → Nat → List Char
  | 0, _ => []
  | width + 1, n =>
    hexDigits width (n / 16) ++ [if n % 16 < 10 then Char.ofNat (48 + n % 16) else Char.ofNat (87 + n % 16)]

namespace Quoted

/-- What is written for one character. -/
def encodeChar (c : Char) : List Char :=
  if c = '"' then ['\\', '"']
  else if c = '\\' then ['\\', '\\']
  else if c = '\n' then ['\\', 'n']
  else if c = '\r' then ['\\', 'r']
  else if c = '\t' then ['\\', 't']
  else if c = '\x08' then ['\\', 'b']
  else if c = '\x0c' then ['\\', 'f']
  else if c.toNat < 0x20 then '\\' :: 'u' :: hexDigits 4 c.toNat
  else [c]

/-- What is written between the quotes. -/
def encode (cs : List Char) : List Char := cs.flatMap encodeChar

end Quoted

/-- A string as source text writes it. -/
def quoted (s : String) : String :=
  String.ofList ('"' :: Quoted.encode s.toList ++ ['"'])

example : quoted "a\"b\n\x01é" = "\"a\\\"b\\n\\u0001é\"" := by decide +kernel

end StoryValues
