import StoryValues.Lambda.Create
import StoryValues.World.Variables

/-
  RUNNING LAMBDAS.  One application binds the variables in a scope of its own, evaluates the guard,
  and then the transform.

  1. **Errors stop it.**  A variable that cannot be bound, and a guard that is an error or neither true
     nor false, end the application before anything later is evaluated.
  2. **The frame is popped** however the application ends.
  3. `filter` keeps what the guard accepts; `fold` is `filter` and then a fold of the transform from
     the first value kept.
-/

namespace StoryValues

namespace Lambda

/-- What a lambda is applied to, and what it gives where no transform decides. -/
structure Call where
  loop : Option Value
  pos : Value
  making : Option Value
  passValue : Value
  failValue : Value
  ignoreVia : Bool
  scope : Option Nat

/-- An application to nothing, by the usual answers. -/
def Call.usual : Call where
  loop := none
  pos := .nothing
  making := none
  passValue := .boolean true
  failValue := .filtered
  ignoreVia := false
  scope := none

/-- A position in a loop as a value; the first is 1. -/
def position (n : Nat) : Value := .number (.int n)

/-- The position of a call as a notice shows it.  Positions are counted, and never too long to be written. -/
def Call.shownPos (call : Call) : Except Fault String :=
  match call.pos with
  | .number (.int n) => .ok (toString n)
  | v => v.nameText

/-- The scope of an application: the one that was given, else a new one inside the caller's. -/
def callScope (call : Call) : Run σ Nat := do
  match call.scope with
  | some id => return id
  | none => Run.newScope ((← Run.topFrame?).map Frame.scope) Scope.usualName

/-- Binds a variable of a lambda, if it has one and there is a value for it. -/
def bindVariable (scope : Nat) : Option Variable → Option Value → Run σ Unit
  | some v, some value => do
    if v.name = "" then return ()
    if let some d := v.datatype then Run.defineType scope v.name d
    Run.setVar scope v.name value
  | _, _ => return ()

/-- What `it` stands for: the loop value, where no other clause makes that unclear. -/
def implicitIt (l : Lambda) (call : Call) : Run σ Value := do
  match l.making, l.whenTrue, call.loop with
  | none, none, some v => return v
  | _, _, _ =>
    let e ← StoryError.create "operation"
      s!"I can't use 'it', or an implied 'it', in {l.objectName}." none
    return .error e

/-- The guard, with its clause. -/
def guard? (l : Lambda) : Option (Clause × String) :=
  match l.whereTrue, l.whenTrue with
  | some text, _ => some (.whereTrue, text)
  | none, some text => some (.whenTrue, text)
  | none, none => none

/-- The clauses as a notice lists them, in order of their words. -/
def shownShape (l : Lambda) : String :=
  let words := (l.shape.map Clause.word).mergeSort fun a b => a ≤ b
  "[" ++ String.intercalate ", " (words.map fun w => s!"'{w}'") ++ "]"

/-- Evaluates expression text to a value whose identity is known. -/
def evaluate (host : Host σ) (text : String) : Run σ Value := do
  Run.adopt (← host.evaluate text)

/-- Whether a guard accepts; a lambda without one always does. -/
def passes (host : Host σ) (l : Lambda) : Run σ Bool := do
  match l.guard? with
  | none => return true
  | some (clause, text) =>
    let condition ← evaluate host text
    condition.guardError
    match condition with
    | .boolean b => return b
    | other =>
      Check.fail (α := Bool) "operation"
        (s!"This lambda's '{clause.word}' clause must evaluate to true or false, not "
          ++ (← other.objectName) ++ ".")

/-- The answer of a lambda whose variables are bound. -/
def answer (host : Host σ) (l : Lambda) (call : Call) : Run σ Value := do
  if ← passes host l then
    match l.via with
    | some text => if call.ignoreVia then return call.passValue else evaluate host text
    | none => return call.passValue
  else return call.failValue

/-- Applies a lambda once. -/
def apply (host : Host σ) (l : Lambda) (call : Call) : Run σ Value := do
  let scope ← callScope call
  bindVariable scope l.loop call.loop
  bindVariable scope l.making call.making
  let it ← Run.adopt (← implicitIt l call)
  let ambient ← Run.inherited
  Run.notice s!"LAMBDA {l.shownShape} pos {← call.shownPos}"
  let pos := if l.whenTrue.isSome then Value.nothing else call.pos
  Run.withFrame { scope, pos, it, ambient } (answer host l call)

/-- Applies a lambda once; an error, also one in arrays, stops the loop around it. -/
def applyOrStop (host : Host σ) (l : Lambda) (call : Call) : Run σ Value := do
  let v ← apply host l call
  v.guardError
  return v

/-! ## Loops -/

/-- The values that the guard accepts, of those from a position on. -/
def filterFrom (host : Host σ) (l : Lambda) (scope : Option Nat) (pos : Nat) :
    List Value → Run σ (List Value)
  | [] => return []
  | item :: items => do
    -- the transform is left out, so the answer is whether the guard accepts
    let passed ← applyOrStop host l
      { Call.usual with
        loop := some item, pos := position pos, failValue := .boolean false, ignoreVia := true, scope }
    let rest ← filterFrom host l scope (pos + 1) items
    return match passed with
      | .boolean true => item :: rest
      | _ => rest

/-- The values that the guard accepts. -/
def filter (host : Host σ) (l : Lambda) (items : List Value) (scope : Option Nat) :
    Run σ (List Value) :=
  filterFrom host l scope 1 items

/-- Folds values from a position on into a total. -/
def foldFrom (host : Host σ) (l : Lambda) (total : Value) (pos : Nat) : List Value → Run σ Value
  | [] => return total
  | item :: items => do
    -- the guard is asked again, of an item that it has let through before
    let result ← applyOrStop host l
      { Call.usual with loop := some item, pos := position pos, making := some total }
    let total := match result with
      | .filtered => total
      | v => v
    foldFrom host l total (pos + 1) items

/-- Folds the values that the guard accepts with the transform, from the first of them. -/
def fold (host : Host σ) (l : Lambda) (items : List Value) : Run σ Value := do
  let items ← if l.whereTrue.isSome then filter host l items none else pure items
  match items with
  | [] =>
    Check.fail (α := Value) "operation"
      s!"There were no values left for {l.objectName} to fold after filtering."
  | first :: rest => foldFrom host l first 2 rest

end Lambda

end StoryValues
