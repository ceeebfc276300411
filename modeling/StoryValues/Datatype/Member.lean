import StoryValues.Pattern.Match
import StoryValues.Value.Description

/-
  MEMBERSHIP in a datatype, the operator `is a`.

  1. **Named datatypes** are listed with a test each (`Datatype.tests`).  A datatype may be made with
     any name; asking one that is not listed is a fault.
  2. **Patterns** accept the strings that they read whole.  One that only looks ahead is of no use
     alone, and asking it is a story error.
-/

namespace StoryValues

namespace Value

/-- Whether a number is whole.  An integer beyond all doubles is a fault. -/
def isInteger : Value → Except Fault Bool
  | .number n => if n.isNumber then n.isWhole else .ok false
  | _ => .ok false

/-- Whether a value is a whole number that leaves this rest when halved. -/
def hasParity (parity : Nat) (v : Value) : Except Fault Bool := do
  match v with
  | .number n => return (← v.isInteger) && n.truncate.natAbs % 2 == parity
  | _ => return false

/-- Whether a string or a collection is empty. -/
def isEmpty : Value → Bool
  | .string s => s.isEmpty
  | .array items => items.isEmpty
  | .datamap _ entries => entries.isEmpty
  | .dataset _ members => members.isEmpty
  | _ => false

/-- Whether a variable could hold this value, as far as the value itself is concerned. -/
def isStorable (v : Value) : Bool := v.firstError?.isNone && !v.isUnstorable

end Value

namespace Datatype

/-! ## Named datatypes -/

/-- The datatypes of kinds of value, the first of which that accepts a value describes it. -/
def kinds : List (String × (Value → Bool)) :=
  [("boolean", Kind.boolean.holds), ("number", Value.isNumber), ("string", Kind.string.holds),
   ("array", Kind.array.holds), ("datamap", Kind.datamap.holds), ("dataset", Kind.dataset.holds),
   ("datatype", Kind.datatype.holds), ("changer", Kind.changer.holds),
   ("colour", Kind.colour.holds), ("gradient", Kind.gradient.holds), ("lambda", Kind.lambda.holds),
   ("macro", Kind.custom.holds)]

/-- The datatypes of strings that hold one character, or one line end. -/
def characterTypes : List String :=
  ["uppercase", "lowercase", "anycase", "alphanumeric", "whitespace", "digit", "newline"]

/-- Whether a value is a string that a character datatype reads whole. -/
def isCharacter (name : String) (v : Value) : Except Fault Bool :=
  match v with
  | .string s => readsAll (.named name false) s
  | _ => .ok false

/-- All named datatypes with their tests. -/
def tests : List (String × (Value → Except Fault Bool)) :=
  kinds.map (fun (name, test) => (name, fun v => .ok (test v)))
    ++ [("integer", Value.isInteger), ("even", Value.hasParity 0), ("odd", Value.hasParity 1),
        ("empty", fun v => .ok v.isEmpty), ("anything", fun v => .ok v.isStorable)]
    ++ characterTypes.map fun name => (name, isCharacter name)

/-- Short and other spellings of datatypes. -/
def aliases : List (String × String) :=
  [("dm", "datamap"), ("ds", "dataset"), ("color", "colour"), ("str", "string"), ("num", "number"),
   ("bool", "boolean"), ("int", "integer"), ("alnum", "alphanumeric"), ("any", "anything")]

/-- The datatype of a name or one of its spellings. -/
def ofName (name : String) : Check Datatype :=
  let canonical := (aliases.lookup name).getD name
  if (tests.lookup canonical).isSome then return .named canonical false
  else Check.fail "syntax" s!"There isn't a datatype named '{name}'."

/-- The most specific datatype of a kind of value that describes this one. -/
def describing? (v : Value) : Option Datatype :=
  (kinds.find? fun (_, test) => test v).map fun (name, _) => .named name false

/-! ## Membership -/

/-- Whether a datatype accepts a value.  Whether it is spread plays no part for a name. -/
def accepts (d : Datatype) (v : Value) : Check Bool :=
  match d with
  | .named name _ =>
    match tests.lookup name with
    | some test => test v
    | none => Check.fault (.missingKey name)
  | .pattern .notBefore .. =>
    Check.fail "operation"
      s!"A ({Shape.notBefore.name}:) datatype must only be used with a (p:) macro."
  | d =>
    match v with
    | .string s => d.readsAll s
    | _ => return false

end Datatype

namespace Value

/-- Whether a value belongs to a datatype; only datatypes can be asked for. -/
def isA (v datatype : Value) : Check Bool :=
  match datatype with
  | .datatype d => d.accepts v
  | other => do
    Check.fail "operation"
      s!"\"is a\" should only be used to compare type names, not {← other.objectName}."

end Value

end StoryValues
