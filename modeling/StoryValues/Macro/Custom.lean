import StoryValues.Macro.Dispatch
import StoryValues.World.Variables

/-
  CUSTOM MACROS: typed parameters and a body that the host runs.

  1. The parameters make a signature, so a call is checked like that of any other macro.
  2. The body sees its parameters and nothing of the caller's variables: its scope has no parent.
     The frame of the body is popped however the body ends.
-/

namespace StoryValues

namespace CustomMacro

/-- The datatypes that are entries of their own. -/
def plainTypes : List (String × Entry) :=
  [("string", .string), ("number", .number), ("integer", .integer), ("boolean", .boolean),
   ("array", .array), ("datamap", .datamap), ("dataset", .plain "dataset"), ("anything", .any)]

/-- The entry that a datatype makes. -/
def entryOf (d : Datatype) : Entry :=
  if d.isSpread then .conforming d else (plainTypes.lookup d.source).getD (.conforming d)

/-- The entry that a parameter makes. -/
def paramEntry (p : TypedVar) : Entry :=
  if p.rest then .zeroOrMore (entryOf p.datatype) else entryOf p.datatype

/-- The signature that the parameters make. -/
def signature (m : CustomMacro) : Except Fault Signature :=
  Signature.ofEntries (m.params.map paramEntry)

/-- Binds the parameters to the arguments: a rest parameter to all that are left, another one to the
next, unless that is nothing. -/
def bindParams (scope : Nat) : List TypedVar → List Value → Run σ Unit
  | [], _ => return ()
  | p :: ps, args => do
    if p.rest then Run.setVar scope p.name (.array args)
    else match args with
      | [] => pure ()
      | .nothing :: _ => pure ()
      | arg :: _ => do
        Run.defineType scope p.name p.datatype
        Run.setVar scope p.name arg
    bindParams scope ps args.tail

/-- What the output of a body makes of a call: errors are told in an error, and there has to be some
output. -/
def checkOutput (output : Value) : Check Value := do
  match output.firstError?, output with
  | some e, _ =>
    Check.fail "custommacro" (← Check.message "custom_macro_errors" [("errors", .string e.message)])
  | none, .nothing => Check.fail "custommacro" (← Check.message "custom_macro_no_output" [])
  | none, v => return v

/-- Runs the body on arguments that were checked. -/
def perform (host : Host σ) (m : CustomMacro) (args : List Value) : Run σ Value := do
  let scope ← Run.newScope none "this custom macro"
  bindParams scope m.params args
  let frame : Frame := { scope, pos := .nothing, it := .nothing, ambient := ← Run.inherited }
  let output ← Run.withFrame frame (host.call m.body [])
  checkOutput output

/-- Calls a value as a custom macro; the answer may be an error. -/
def call (host : Host σ) (callee : Value) (args : List Value) : Run σ Value := do
  let answer ← Run.outcome do
    match callee with
    | .custom m =>
      let signature ← m.signature
      let args ← Dispatch.arguments { name := "", signature } args
      m.perform host args
    | other =>
      let text ← Check.message "not_custom_macro" [("actual", .string (← other.objectName))]
      Check.fail (α := Value) "macrocall" text
  Run.adopt answer

end CustomMacro

end StoryValues
