import StoryValues.Macro.Signature
import StoryValues.World.Identity

/-
  DISPATCH checks the arguments of a call against a signature before a macro sees them.

  1. **Errors pass.**  An argument that is an error, or holds one in arrays, is the result.
  2. **Spread arguments** are replaced by the values in them.
  3. **Position by position** every argument has to satisfy its entry, and every entry without an
     argument has to accept that.  The first position at fault decides what the error says.

  Places and counts of arguments are never too long to be written, so messages get them as text.
-/

namespace StoryValues

namespace Dispatch

/-- The values that an argument stands for. -/
def spreadOne : Value → Check (List Value)
  | .spread v =>
    match v with
    | .error e => return [.error e]
    | .string s => return s.toList.map fun c => .string c.toString
    | .array items => return items
    | .dataset _ members => Value.sorted members
    | .typedVar w => return [.typedVar w.spread]
    | other => do
      let text ← Check.message "cannot_spread" [("actual", .string (← other.objectName))]
      return [.error (← StoryError.create "operation" text none)]
  | v => return [v]

/-- Arguments with the spread ones replaced by the values in them. -/
def spreadArguments : List Value → Check (List Value)
  | [] => return []
  | arg :: args => do
    let first ← spreadOne arg
    let others ← spreadArguments args
    return first ++ others

/-! ## Errors -/

/-- Who is called: its name, if it has one, and what it takes. -/
structure Callee where
  name : String
  signature : Signature

namespace Callee

/-- The call as a story writes it, empty for what has no name. -/
def invocation (c : Callee) : String := if c.name = "" then "" else s!"({c.name}:)"

/-- How messages speak of what is called. -/
def label (c : Callee) : String :=
  if c.name = "" then "this custom macro" else s!"the {c.invocation} macro"

/-- What the signature asks for, in words. -/
def signatureInfo (c : Callee) : Check String := do
  let entries := c.signature.entries
  if entries.isEmpty then
    Check.message "signature_empty"
      [("label", .string c.label), ("invocation", .string c.invocation)]
  else
    let types ← andList (← Entry.typeNames entries)
    Check.message "signature_info"
      [("label", .string c.label), ("types", .string types),
       ("ordered", .boolean (entries.length > 1))]

/-- Stops because there are more arguments than the signature has entries. -/
def tooMany (c : Callee) (surplus : Nat) : Check α := do
  let text ← Check.message "too_many_values"
    [("count", .string (toString surplus)), ("label", .string c.label)]
  Check.failWith "datatype" text (← c.signatureInfo)

/-- What is said after the message about an entry: its own explanation, or the whole signature. -/
def info (c : Callee) : Entry → Check String
  | .wrapped _ message => return message
  | _ => c.signatureInfo

/-- Stops because an entry has no argument. -/
def missing (c : Callee) (index : Nat) (entry : Entry) : Check α := do
  let info ← c.info entry
  let count := c.signature.entries.length - index
  let text ← Check.message "not_enough_values"
    [("label", .string c.label), ("count", .string (toString count)),
     ("plural", .string (if count > 1 then "s" else ""))]
  Check.failWith "datatype" text info

/-- The clauses of a lambda in the order in which messages about them speak. -/
def clauseOrder : List Clause := [.whereTrue, .whenTrue, .making, .via]

/-- The clauses of a list, in words. -/
def clausesText (has : Clause → Bool) : Except Fault String :=
  andList ((clauseOrder.filter has).map fun c => s!"a '{c.word}' clause")

/-- The message and the explanation for an argument that its entry refuses. -/
def refusal (c : Callee) (index : Nat) (entry : Entry) (arg : Value) : Check (String × String) := do
  let info ← c.info entry
  let label : String × Template.Given := ("label", .string c.label)
  let nth : String × Template.Given := ("nth", .string (place (index + 1)))
  let usual : Check (String × String) := do
    let actual ← arg.objectName
    let expected ← entry.typeName
    let text ← Check.message "wrong_type"
      [label, nth, ("actual", .string actual), ("expected", .string expected)]
    return (text, info)
  match entry, arg with
  | .any, arg =>
    if arg.isUnstorable then
      let actual ← arg.objectName
      return (← Check.message "unstorable_value" [label, nth, ("actual", .string actual)], info)
    else usual
  | .lambda clauses, .lambda l => do
    let expected ← clausesText clauses.contains
    let actual ← if l.shape.isEmpty then pure "no clauses" else clausesText l.has
    let text ← Check.message "wrong_lambda"
      [label, nth, ("expected", .string expected), ("actual", .string actual)]
    return (text, info)
  | .oneOf names, .string _ => do
    let actual ← arg.objectName
    let text ← Check.message "wrong_name" [("actual", .string actual), label]
    -- only a list with something in it can be put in words
    let names ← andList (names.map fun n => s!"'{n}'")
    return (text, ← Check.message "wrong_name_explanation" [("names", .string names)])
  | _, _ => usual

/-- Stops because an entry refuses its argument. -/
def refuse (c : Callee) (index : Nat) (entry : Entry) (arg : Value) : Check α := do
  let (text, info) ← c.refusal index entry arg
  Check.failWith "datatype" text info

/-! ## Positions -/

/-- Notes the position at which a call fails, and stops. -/
def failAt (c : Callee) (index : Nat) (failure : Check Unit) : Run σ Unit := do
  Run.notice s!"DISPATCH FAILED {c.label} position {index + 1}"
  failure

/-- Goes on if an entry accepts an argument. -/
def checkOne (c : Callee) (index : Nat) (entry : Entry) (arg : Value) : Run σ Unit := do
  arg.guardError
  if !(← entry.accepts arg) then c.failAt index (c.refuse index entry arg)

/-- Goes on if an entry accepts all arguments from a position on. -/
def checkRest (c : Callee) (entry : Entry) (index : Nat) : List Value → Run σ Unit
  | [] => return ()
  | arg :: args => do
    c.checkOne index entry arg
    c.checkRest entry (index + 1) args

/-- Goes on if the entries from a position on accept the arguments from there on.  The least number
of the rest entry counts only where there is no argument for it at all. -/
def checkFrom (c : Callee) (index : Nat) : List Entry → List Value → Run σ Unit
  | [], args =>
    match c.signature.rest, args with
    | none, [] => return ()
    | none, arg :: others => do
      arg.guardError
      c.tooMany (α := Unit) (others.length + 1)
    -- no value is left for the rest entry
    | some (inner, min), [] =>
      if 0 < min then c.failAt index (c.missing index inner) else return ()
    | some (inner, _), args => c.checkRest inner index args
  | entry :: entries, [] => do
    if !entry.acceptsAbsence then c.failAt index (c.missing index entry)
    c.checkFrom (index + 1) entries []
  | entry :: entries, arg :: args => do
    c.checkOne index entry arg
    c.checkFrom (index + 1) entries args

end Callee

/-- The arguments as a macro gets them, if the signature accepts them. -/
def arguments (c : Callee) (args : List Value) : Run σ (List Value) := do
  Value.guardErrors args
  let args ← spreadArguments args
  c.checkFrom 0 c.signature.fixed args
  let shown := if c.name = "" then "custom macro" else c.name
  Run.notice s!"DISPATCH {shown} argc {args.length}"
  return args

end Dispatch

end StoryValues
