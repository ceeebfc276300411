import StoryValues.Value.Basic

/-
  KINDS of values.  Each value is of one kind that describes it best (`Value.kind?`); a few kinds hold
  the values of another kind as well: truth values count as integers, and patterns as datatypes.
-/

namespace StoryValues

/-- The kinds of values. -/
inductive Kind where
  | nothing | boolean | integer | double | string | array | datamap | dataset | error
  | datatype | pattern | typedVar | spread | changer | command | colour | gradient | hooks
  | lambda | custom
  deriving DecidableEq

namespace Kind

/-- All kinds. -/
def all : List Kind :=
  [nothing, boolean, integer, double, string, array, datamap, dataset, error, datatype, pattern,
   typedVar, spread, changer, command, colour, gradient, hooks, lambda, custom]

/-- Whether a value is of a kind. -/
def holds : Kind → Value → Bool
  | nothing, .nothing => true
  | boolean, .boolean _ => true
  | integer, .boolean _ => true
  | integer, .number (.int _) => true
  | double, .number (.real _) => true
  | string, .string _ => true
  | array, .array _ => true
  | datamap, .datamap .. => true
  | dataset, .dataset .. => true
  | error, .error _ => true
  | datatype, .datatype _ => true
  | pattern, .datatype d => d.isPattern
  | typedVar, .typedVar _ => true
  | spread, .spread _ => true
  | changer, .changer _ => true
  | command, .command .. => true
  | colour, .colour _ => true
  | gradient, .gradient _ => true
  | hooks, .hooks _ => true
  | lambda, .lambda _ => true
  | custom, .custom _ => true
  | _, _ => false

/-- How a message to the story speaks of all values of a kind. -/
def typeName : Kind → String
  | nothing => "an empty variable"
  | boolean => "a boolean"
  | integer | double => "a number"
  | string => "a string"
  | array => "an array"
  | datamap => "a datamap"
  | dataset => "a dataset"
  | error => "an error"
  | datatype | pattern => "a datatype"
  | typedVar => "a typed variable name"
  | spread => "a spread value"
  | changer => "a changer"
  | command => "a command"
  | colour => "a colour"
  | gradient => "a gradient"
  | hooks => "a hook name"
  | lambda => "a lambda"
  | custom => "a custom macro"

/-- What a message to the host calls a kind. -/
def className : Kind → String
  | nothing => "NoneType"
  | boolean => "bool"
  | integer => "int"
  | double => "float"
  | string => "str"
  | array => "list"
  | datamap => "Datamap"
  | dataset => "Dataset"
  | error => "HarloweError"
  | datatype => "Datatype"
  | pattern => "Pattern"
  | typedVar => "TypedVar"
  | spread => "Spread"
  | changer => "Changer"
  | command => "Command"
  | colour => "Colour"
  | gradient => "Gradient"
  | hooks => "HookSet"
  | lambda => "Lambda"
  | custom => "CustomMacro"

/-- The kind that messages to the host call so. -/
def ofClassName? (name : String) : Option Kind := all.find? fun k => k.className == name

/-- The unit of a kind in messages to the host, empty for plain kinds. -/
def classUnit : Kind → String
  | nothing | boolean | integer | double | string | array => ""
  | error => "harlowe.harlowe_errors."
  | datatype | pattern => "harlowe.harlowe_patterns."
  | lambda => "harlowe.harlowe_lambda."
  | _ => "harlowe.harlowe_datatypes."

end Kind

namespace Value

/-- The kind that describes a value best; the answer of a lambda that refuses has none. -/
def kind? : Value → Option Kind
  | .nothing => some .nothing
  | .boolean _ => some .boolean
  | .number (.int _) => some .integer
  | .number (.real _) => some .double
  | .string _ => some .string
  | .array _ => some .array
  | .datamap .. => some .datamap
  | .dataset .. => some .dataset
  | .error _ => some .error
  | .datatype d => some (if d.isPattern then .pattern else .datatype)
  | .typedVar _ => some .typedVar
  | .spread _ => some .spread
  | .changer _ => some .changer
  | .command .. => some .command
  | .colour _ => some .colour
  | .gradient _ => some .gradient
  | .hooks _ => some .hooks
  | .lambda _ => some .lambda
  | .custom _ => some .custom
  | .filtered => none

end Value

end StoryValues
