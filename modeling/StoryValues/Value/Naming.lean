import StoryValues.Text.Alphanumeric
import StoryValues.Value.Description

/-
  NAMES THAT VALUES CARRY: hook names, and the names of typed variables.  A hook name is made of
  letters, digits, underscores and hyphens, and any question marks before it are dropped.
-/

namespace StoryValues

namespace Hooks

/-- Whether a character may stand in a hook name. -/
def isNameChar (c : Char) : Bool := isAlphanumeric c || c == '_' || c == '-'

/-- The hook name that a text writes. -/
def ofName (text : String) : Check Value :=
  let name := text.toList.dropWhile (· == '?')
  if !name.isEmpty && name.all isNameChar then return .hooks [String.ofList name]
  else Check.fail "syntax" s!"'{String.ofList name}' isn't a valid hook name."

/-- The names of both, each once if the second only repeats it. -/
def compose (a b : List String) : List String := a ++ b.filter fun n => !a.contains n

end Hooks

namespace TypedVar

/-- The typed variable of a datatype and a name.  A name that is no text, or empty, is a mistake of
the host. -/
def create (datatype name : Value) : Check Value :=
  match name with
  | .string "" => Check.fault (.badVariableName (inspected ""))
  | .string text => do
    datatype.guardError
    match datatype with
    | .datatype d => return .typedVar ⟨d, text, false⟩
    | other =>
      Check.fail "operation"
        s!"I can't use {← other.objectName} as the type of the variable {text}."
  | other => do
    Check.fault (.badVariableName (← other.inspect))

end TypedVar

namespace CustomMacro

/-- Goes on if the parameters of a custom macro are typed variables of different names, none but the
last being spread. -/
def checkParams (seen : List String) : List Value → Check (List TypedVar)
  | [] => return []
  | .typedVar v :: rest => do
    if v.rest && !rest.isEmpty then
      Check.fail "datatype"
        s!"The spread typed variable {v.name} must be the last one given to (macro:)."
    if seen.contains v.name then
      Check.fail "datatype" s!"This custom macro has two variables named '{v.name}'."
    return v :: (← checkParams (v.name :: seen) rest)
  | other :: _ => do
    Check.fail "datatype"
      s!"The (macro:) macro must only be given typed variable names, not {← other.objectName}."

/-- The custom macro of its parameters and its body. -/
def create (params : List Value) (body : Nat) (source : String) : Check Value := do
  Value.guardErrors params
  return .custom { params := ← checkParams [] params, body, source, tag := none }

end CustomMacro

end StoryValues
