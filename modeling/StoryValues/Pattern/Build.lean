import StoryValues.Pattern.Match
import StoryValues.Value.Description

/-
  BUILDING patterns from the arguments of a pattern macro.

  1. **Fragments** are strings, datatypes of text, and typed variables over these.  All arguments are
     looked at; the error of the first bad one is the result.
  2. **No variable without text.**  Where a pattern may match without reading its fragments, a typed
     variable may not be among them.
  3. **Bounds** of a repetition are whole, not negative, not above the limit in use, and in order; an
     infinite upper bound is none.  A bound that is too long to be written is a fault.
-/

namespace StoryValues

/-! ## Fragments -/

namespace Fragment

/-- The fragment that a value makes. -/
def ofValue? : Value → Option Fragment
  | .string s => some (.text s)
  | .datatype d => some (.type d)
  | .typedVar v => some (.typed v.datatype v.name v.rest)
  | _ => none

/-- A fragment as a value. -/
def toValue : Fragment → Value
  | .text s => .string s
  | .type d => .datatype d
  | .typed d name rest => .typedVar ⟨d, name, rest⟩

theorem ofValue?_toValue (f : Fragment) : ofValue? f.toValue = some f := by
  cases f <;> rfl

end Fragment

namespace Shape

/-- Whether every match reads all fragments, so that typed variables may be among them. -/
def allowsTyped : Shape → Bool
  | .either | .optional => false
  | .repeated (.atLeast min) => Number.lt (.int 0) min
  | .repeated (.between min _) => Number.lt (.int 0) min
  | _ => true

end Shape

namespace Pattern

/-- The datatypes of numbers. -/
def numberTypes : List String := ["number", "integer", "even", "odd"]

/-- Whether a datatype can be part of a pattern. -/
def isTextual : Datatype → Bool
  | .pattern .. => true
  | .named name _ => name == "string" || (pieceOf? false name).isSome

/-- Goes on if a datatype can be part of a pattern. -/
def checkTextual (shape : Shape) (d : Datatype) : Check Unit :=
  match d with
  | .pattern .. => return ()
  | .named name _ =>
    if isTextual d then return ()
    else if numberTypes.contains name then
      Check.fail "datatype"
        s!"Please use string datatypes like 'digit' in ({shape.name}:) instead of number datatypes."
    else
      Check.fail "datatype"
        s!"The ({shape.name}:) macro must only be given string-related datatypes, not {d.objectName}."

/-- What is said of a typed variable where none may be. -/
def noTypedText (shape : Shape) : String :=
  let bounds := match shape with
    | .repeated _ => " with min 0"
    | _ => ""
  s!"Optional string patterns, like ({shape.name}:){bounds}, can't have typed variables inside them."

/-- The fragment that an argument makes in a pattern of this shape. -/
def fragment (shape : Shape) (v : Value) : Check Fragment :=
  match v with
  | .string s => return .text s
  | .datatype d => do
    checkTextual shape d
    return .type d
  | .typedVar w =>
    if shape.allowsTyped then do
      checkTextual shape (if w.rest then w.datatype.spread else w.datatype)
      return .typed w.datatype w.name w.rest
    else Check.fail "operation" (noTypedText shape)
  | v => do
    Check.fail "datatype"
      s!"The ({shape.name}:) macro must only be given strings and datatypes, not {← v.objectName}."

/-- The results of checks, or the first error among them, once all have been made. -/
def firstError : List (Except StoryError α) → Check (List α)
  | [] => return []
  | .error e :: _ => Check.story e
  | .ok a :: rest => do return a :: (← firstError rest)

/-- The pattern of a shape from its fragments. -/
def make (shape : Shape) (args : List Value) : Check Datatype := do
  let results ← args.mapM fun v => (fragment shape v).attempt
  -- all fragments have been tried by now, so a fault in a later one comes before an earlier error
  let parts ← firstError results
  return .pattern shape parts (shape == .insensitive) false

/-! ## Repetition -/

/-- The number in front of some arguments, and the arguments behind it. -/
def takeNumber? : List Value → Option (Number × List Value)
  | .number n :: rest => if n.isNumber then some (n, rest) else none
  | _ => none

/-- The bounds in front of the fragments of a repetition. -/
def takeBounds (args : List Value) : Bounds × List Value :=
  match takeNumber? args with
  | none => (.once, args)
  | some (min, rest) =>
    match takeNumber? rest with
    | none => (.atLeast min, rest)
    | some (max, rest) => (.between min max, rest)

/-- The bounds that limit something: an upper bound without end does not. -/
def limiting : Bounds → Except Fault (List Number)
  | .between min max => do
    -- whether a bound is infinite is asked of its nearest double
    discard max.toDouble
    return if max.isInfinite && Number.lt (.int 0) max then [min] else [min, max]
  | bounds => return bounds.numbers

/-- Goes on if a bound is a whole number between 0 and the limit. -/
def checkBound (limit : Int) (bound : Number) : Check Unit := do
  let whole ← if bound.lt (.int 0) then pure false else Check.lift bound.isWhole
  if !whole then
    Check.fail "datatype" ("The (p-many:) macro's min and max numbers must be non-negative whole numbers, not "
      ++ (← (Value.number bound).objectName) ++ ".")
  if Number.lt (.int limit) bound then
    Check.fail "datatype"
      s!"The (p-many:) macro can't be given a min or max number larger than {← (Number.int limit).format}."

/-- Goes on if the upper bound is not below the lower one. -/
def checkOrder : Bounds → Check Unit
  | .between min max =>
    if max.lt min then
      Check.fail "datatype"
        "The (p-many:) macro's max number must not be smaller than its min number."
    else return ()
  | _ => return ()

/-- Whether an argument can be a fragment at all. -/
def isFragment (v : Value) : Bool := (Fragment.ofValue? v).isSome

/-- The repetition of the fragments that follow the bounds. -/
def repeated (args : List Value) : Check Datatype := do
  let (bounds, rest) := takeBounds args
  let limit := (← read).repeatLimit
  let limits ← limiting bounds
  for bound in limits do
    checkBound limit bound
  checkOrder bounds
  if rest.isEmpty then
    Check.fail "datatype"
      "The (p-many:) macro needs to be given string patterns, not just min and max numbers."
  if let some bad := Value.objection? isFragment rest then
    Check.fail "datatype" ("This (p-many:) macro can only be given a min and max number followed by "
      ++ s!"datatypes or strings, but was also given {← bad.objectName}.")
  -- the matcher is told how often in digits
  let _ ← Check.lift (limits.mapM Number.format)
  make (.repeated bounds) rest

/-- The ways to build a pattern, by the macro that does. -/
def builders : List (String × (List Value → Check Datatype)) :=
  [("p", make .sequence), ("p-either", make .either), ("p-opt", make .optional),
   ("p-many", repeated), ("p-ins", make .insensitive), ("p-not-before", make .notBefore)]

/-- The way to build the pattern of a macro. -/
def builder? (name : String) : Option (List Value → Check Datatype) := builders.lookup name

end Pattern

end StoryValues
