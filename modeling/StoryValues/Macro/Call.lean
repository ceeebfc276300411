import StoryValues.Macro.Custom
import StoryValues.Macro.Standard

/-
  CALLING MACROS by name, and running the commands that they make.  The answer to a call is always a
  value, which may be an error; only a fault gives none.
-/

namespace StoryValues

namespace MacroBody

/-- What a macro does with arguments that dispatch has accepted. -/
def perform (host : Host σ) (body : MacroBody) (args : List Value) : Run σ Value :=
  match body with
  | .standard m => m.perform host args
  | .hosted code => host.call code args
  | .changer name => return .changer [(name, args)]
  | .command name check action => do
    if let some code := check then
      let verdict ← host.call code args
      verdict.guardError
    return .command none name args action

end MacroBody

namespace Registry

/-- Calls the macro of a name. -/
def call (host : Host σ) (r : Registry) (name : String) (args : List Value) : Run σ Value := do
  let answer ← Run.outcome do
    match r.get? name with
    | some m =>
      let args ← Dispatch.arguments { name, signature := m.signature } args
      m.body.perform host args
    | none =>
      let text ← Check.message "unknown_macro" [("name", .string name)]
      Check.failWith (α := Value) "macrocall" text (← Check.message "unknown_macro_explanation" [])
  Run.adopt answer

end Registry

namespace Action

/-- Runs a command on its arguments. -/
def perform (host : Host σ) : Action → List Value → Run σ Value
  | .assertion, [.boolean b] =>
    if b then return .string ""
    else Check.fail (α := Value) "assertion" "An assertion failed: the condition was false."
  | .assertion, _ => StandardMacro.badCall
  | .hosted code, args => host.call code args

end Action

namespace Changer

/-- Runs a chain on no styles with the mutations that the world knows. -/
def runInWorld (host : Host σ) (nodes : List Node) : Run σ (List Style × Option StoryError) := do
  (run (Mutation.mutator host.mutate) (← Run.world).mutations nodes).on []

/-- Gives a name its mutation in the world. -/
def registerInWorld (name : String) (m : Mutation) : Run σ Unit := do
  let table ← register (← Run.world).mutations name m
  Run.change fun w => { w with mutations := table }

end Changer

end StoryValues
