import StoryValues.Number

/-
  MESSAGE TEMPLATES, and what they are rendered with.

  Templates are in the mustache language.  What renders them is no part of the library: a host brings
  it, and the library only says with what it is called.  Fields are given as text, integers or
  switches, and a renderer gets no integers, as they are made into text first.
-/

namespace StoryValues

namespace Template

/-- What a field is given. -/
inductive Given where
  | string (s : String)
  | integer (n : Int)
  | boolean (on : Bool)

/-- What a renderer gets for a field: text, or a switch that opens and shuts sections. -/
inductive Param where
  | text (s : String)
  | switch (on : Bool)
  deriving DecidableEq

/-- Integers are made into text, which fails for those that are too long. -/
def Given.param : Given → Except Fault Param
  | string s => return .text s
  | integer n => return .text (← (Number.int n).format)
  | boolean on => return .switch on

/-- The text that stands for a field; a field that is missing has none. -/
def Param.shown : Option Param → String
  | some (.text s) => s
  | some (.switch on) => if on then "True" else "False"
  | none => ""

/-- Whether a field opens its section: a switch that is on, or text that is not empty. -/
def Param.isSet : Option Param → Bool
  | some (.text s) => s != ""
  | some (.switch on) => on
  | none => false

/-- **What renders templates:** it gets what is done to the text of a field before it is put in, the
template, and the fields by name. -/
abbrev Renderer := (escape : String → String) → (source : String) → List (String × Param) →
  Except Fault String

end Template

end StoryValues
