import StoryValues.Collection.Datamap
import StoryValues.Collection.Dataset
import StoryValues.Collection.Sequence
import StoryValues.Colour.Gradient
import StoryValues.Colour.Hsl
import StoryValues.Lambda.Apply
import StoryValues.Macro.Dispatch
import StoryValues.Macro.Registry
import StoryValues.Value.Naming
import StoryValues.World.Patterns

/-
  THE STANDARD LIBRARY: what its macros do with arguments that dispatch has accepted, and the
  registry that holds them.

  1. Data macros make collections of copies; none of them lets an error or a value that cannot be
     stored into a collection.
  2. Lambda macros go through their values in order and stop at the first error.
  3. Sorting is stable, by natural order of strings and numbers.
-/

namespace StoryValues

namespace StandardMacro

/-! ## Counting -/

/-- How often some strings occur in a string, all together.  Only strings can be counted in one. -/
def countTexts (s : String) : List Value → Check Int
  | [] => return 0
  | .string t :: rest => do
    return (countOccurrences t.toList s.toList : Int) + (← countTexts s rest)
  | other :: _ => Check.fault (.badOperand s!"must be str, not {other.className}")

/-- Whether a value is a string with something in it. -/
def isNonEmptyText : Value → Bool
  | .string s => !s.isEmpty
  | _ => false

/-- How many members of an array equal one of some values, counted for each value. -/
def countMembers (items values : List Value) : Except Fault Int := do
  let hits ← collect (items.flatMap fun item => values.map fun v => Value.equals item v)
  return (hits.filter id).length

/-- How often values occur in a string or in an array. -/
def countIn (container : Value) (values : List Value) : Check Value := do
  match container with
  | .string s =>
    if let some bad := Value.objection? isNonEmptyText values then
      Check.fail "datatype" ("If (count:) is given a string, it can only count non-empty substrings, not "
        ++ (← bad.objectName) ++ ".")
    return .number (.int (← countTexts s values))
  | .array items => return .number (.int (← countMembers items values))
  | _ => return .number (.int 0)

/-! ## Lambdas -/

/-- The values from a position on, each as the lambda alters it. -/
def alterFrom (host : Host σ) (l : Lambda) (pos : Nat) : List Value → Run σ (List Value)
  | [] => return []
  | v :: vs => do
    let altered ← l.applyOrStop host { Lambda.Call.usual with loop := some v, pos := Lambda.position pos }
    let rest ← alterFrom host l (pos + 1) vs
    return match altered with
      | .filtered => v :: rest
      | w => w :: rest

/-- The entry of a datamap as a lambda sees it: a datamap of its own, or the error of making one. -/
def entryValue (name : Name) (v : Value) : Run σ Value := do
  Run.adopt (← Run.outcome
    (Datamap.ofList [.string "name", .ofName name, .string "value", v] : Check Value))

/-- The entries with those that are listed altered, one after another. -/
def alterEntries (host : Host σ) (l : Lambda) (entries : Datamap.Entries) (pos : Nat) :
    List (Name × Value) → Run σ Datamap.Entries
  | [] => return entries
  | (name, v) :: rest => do
    let entry ← entryValue name v
    let altered ← l.applyOrStop host
      { Lambda.Call.usual with loop := some entry, pos := Lambda.position pos }
    match altered with
    | .filtered => alterEntries host l entries (pos + 1) rest
    | w =>
      if let some bad ← w.unstorable? then
        Check.fail (α := Unit) "operation" s!"{← bad.objectName} can't be stored in a datamap."
      -- the name is there, so it keeps its place and its spelling
      alterEntries host l (Datamap.put entries name w) (pos + 1) rest

/-- The results of a lambda for the values from a position on. -/
def keysFrom (host : Host σ) (l : Lambda) (pos : Nat) : List Value → Run σ (List Value)
  | [] => return []
  | v :: vs => do
    let key ← l.applyOrStop host { Lambda.Call.usual with loop := some v, pos := Lambda.position pos }
    return key :: (← keysFrom host l (pos + 1) vs)

/-- Whether a value can be sorted by the macro: a string or a number. -/
def isSortable (v : Value) : Bool := v.isString || v.isNumber

/-- Values in natural order of their keys. -/
def sortByKeys (values keys : List Value) : Check Value := do
  if let some bad := Value.objection? isSortable keys then
    Check.fail "datatype" s!"(sorted:) can only sort strings and numbers, not {← bad.objectName}."
  let ordered ← Value.sortOn (fun pair => Value.naturalKey pair.1) (keys.zip values)
  return .array (ordered.map Prod.snd)

/-- Sorts values by themselves, or by what the lambda before them makes of them. -/
def sortValues (host : Host σ) (args : List Value) : Run σ Value := do
  match args with
  | .lambda l :: values =>
    if l.shape ≠ [.via] then
      Check.fail (α := Unit) "datatype"
        s!"The (sorted:) macro's 1st value should be a \"via\" lambda, not {l.objectName}."
    sortByKeys values (← keysFrom host l 1 values)
  | values => sortByKeys values values

/-! ## Colours -/

/-- The stops of a gradient: percentages and colours in turns. -/
def stopsOf : List Value → Check (List (Number × Colour))
  | stop :: colour :: rest => do
    match stop, colour with
    | .number n, .colour c =>
      if n.isNumber then return (n, c) :: (← stopsOf rest)
    | _, _ => pure ()
    -- what is no percentage with a colour behind it
    Check.fail "datatype" (s!"(gradient:) expected a percentage followed by a colour, not {← stop.objectName} "
      ++ s!"followed by {← colour.objectName}.")
  | _ => return []

/-- The gradient of an angle and its stops. -/
def gradientOf (angle : Number) (stops : List Value) : Check Value := do
  if stops.length < 4 ∨ stops.length % 2 = 1 then
    Check.fail "datatype" ("(gradient:) must be given a degree angle followed by at least two pairs of "
      ++ "percentages and colours.")
  return .gradient (Gradient.ofStops angle (← stopsOf stops))

/-! ## All macros -/

/-- What no accepted call leads to: arguments in numbers that the signature does not allow. -/
def badCall : Check Value := Check.fault (.badOperand "arguments that the signature does not allow")

/-- What the macros without code of a story do with their arguments. -/
def compute : StandardMacro → List Value → Check Value
  | .array, args => return .array (args.map Value.clone)
  | .datamap, args => Datamap.ofList args
  | .dataset, args => Dataset.ofList args
  | .source, [v] => do return .string (← v.source)
  | .datatype, [v] =>
    match Datatype.describing? v with
    | some d => return .datatype d
    | none => do Check.fail "datatype" s!"I can't determine the datatype of {← v.objectName}."
  | .range, [.number a, .number b] => do
    return .array ((← Sequence.range a.truncate b.truncate).map fun n => .number (.int n))
  | .subarray, [v, .number a, .number b] => Sequence.subset v a.truncate b.truncate
  | .substring, [v, .number a, .number b] => Sequence.subset v a.truncate b.truncate
  | .count, container :: values => countIn container values
  | .rgb, [.number r, .number g, .number b] => return .colour ⟨r, g, b, .int 1⟩
  | .rgb, [.number r, .number g, .number b, .number a] => return .colour ⟨r, g, b, a⟩
  | .hsl, [.number h, .number s, .number l] => do return .colour (← Colour.ofHsl h s l (.int 1))
  | .hsl, [.number h, .number s, .number l, .number a] => do return .colour (← Colour.ofHsl h s l a)
  | .gradient, .number angle :: stops => gradientOf angle stops
  | .hook, [.string s] => Hooks.ofName s
  | .error, [.string s] =>
    if s = "" then
      Check.fail "datatype" "The (error:) macro needs a non-empty message string."
    else Check.fail "user" s
  | _, _ => badCall

/-- Whether as many values pass as a test asks for, of so many in all. -/
def passing (host : Host σ) (test : Nat → Nat → Bool) (l : Lambda) (values : List Value) :
    Run σ Value := do
  let passed ← l.filter host values none
  return .boolean (test passed.length values.length)

/-- What a macro of the standard library does with its arguments. -/
def perform (host : Host σ) : StandardMacro → List Value → Run σ Value
  | .find, .lambda l :: values => do return .array (← l.filter host values none)
  | .altered, .lambda l :: values => do return .array (← alterFrom host l 1 values)
  | .datamapAltered, [.lambda l, .datamap _ entries] => do
    let ordered ← Value.sortOn (fun e => e.1.key) entries
    return .datamap none (← alterEntries host l entries 1 ordered)
  | .allPass, .lambda l :: values => passing host (fun passed total => passed == total) l values
  | .somePass, .lambda l :: values => passing host (fun passed _ => passed > 0) l values
  | .nonePass, .lambda l :: values => passing host (fun passed _ => passed == 0) l values
  | .folded, .lambda l :: values => l.fold host values
  | .sorted, args => sortValues host args
  | .pattern name, args => Run.buildPattern name args
  | m, args => compute m args

end StandardMacro

/-! ## The registry of the standard library -/

namespace Registry

/-- Adds a macro whose names are known to be free. -/
def including (r : Registry) (names : List String) (body : MacroBody) (entries : List Entry)
    (returns : Returns) : Registry :=
  (r.add names body entries returns).1

/-- Adds a value macro of the standard library. -/
def includingStandard (r : Registry) (names : List String) (m : StandardMacro) (entries : List Entry) :
    Registry :=
  r.including names (.standard m) entries .any

/-- One channel of a colour. -/
def byte : Entry := .range (.int 0) (.int 255) false

/-- The fragments of a pattern. -/
def fragmentKinds : List Entry := [.string, .kind .datatype, .kind .typedVar]

/-- Any number of values that can be stored. -/
def anyValues : Entry := .zeroOrMore .any

/-- The lambdas that alter values. -/
def alterer : Entry := .either [.lambda [.via], .lambda [.whereTrue, .via]]

/-- A registry with the macros of the standard library added. -/
def install (r : Registry) : Registry :=
  r
  |>.includingStandard ["a", "array"] .array [anyValues]
  |>.includingStandard ["dm", "datamap"] .datamap [anyValues]
  |>.includingStandard ["ds", "dataset"] .dataset [anyValues]
  |>.includingStandard ["source"] .source [.any]
  |>.includingStandard ["datatype"] .datatype [.any]
  |>.includingStandard ["range"] .range [.integer, .integer]
  |>.includingStandard ["subarray"] .subarray [.array, .integer, .integer]
  |>.includingStandard ["substring"] .substring [.string, .integer, .integer]
  |>.includingStandard ["count"] .count [.either [.string, .array], .oneOrMore .any]
  |>.includingStandard ["find"] .find [.lambda [.whereTrue], anyValues]
  |>.includingStandard ["altered"] .altered [alterer, anyValues]
  |>.includingStandard ["dm-altered"] .datamapAltered [alterer, .datamap]
  |>.includingStandard ["all-pass", "pass"] .allPass [.lambda [.whereTrue], anyValues]
  |>.includingStandard ["some-pass"] .somePass [.lambda [.whereTrue], anyValues]
  |>.includingStandard ["none-pass"] .nonePass [.lambda [.whereTrue], anyValues]
  |>.includingStandard ["folded"] .folded
    [.either [.lambda [.making, .via], .lambda [.making, .via, .whereTrue]], .oneOrMore .any]
  |>.includingStandard ["sorted"] .sorted [anyValues]
  |>.includingStandard ["p", "pattern"] (.pattern "p") [.zeroOrMore (.either fragmentKinds)]
  |>.includingStandard ["p-either", "pattern-either"] (.pattern "p-either")
    [.oneOrMore (.either fragmentKinds)]
  |>.includingStandard ["p-opt", "pattern-opt", "p-optional", "pattern-optional"] (.pattern "p-opt")
    [.zeroOrMore (.either fragmentKinds)]
  |>.includingStandard ["p-many", "pattern-many"] (.pattern "p-many")
    [.zeroOrMore (.either (.nonNegativeInteger :: fragmentKinds))]
  |>.includingStandard ["p-ins", "pattern-ins", "p-insensitive", "pattern-insensitive"]
    (.pattern "p-ins") [.zeroOrMore (.either fragmentKinds)]
  |>.includingStandard ["p-not-before", "pattern-not-before"] (.pattern "p-not-before")
    [.zeroOrMore (.either fragmentKinds)]
  |>.includingStandard ["rgb"] .rgb [byte, byte, byte]
  |>.includingStandard ["rgba"] .rgb [byte, byte, byte, .percent]
  |>.includingStandard ["hsl"] .hsl [.number, .percent, .percent]
  |>.includingStandard ["hsla"] .hsl [.number, .percent, .percent, .percent]
  |>.includingStandard ["gradient"] .gradient
    [.number, .oneOrMore (.either [.percent, .kind .colour])]
  |>.including ["text-colour", "text-color", "colour", "color"] (.changer "text-colour")
    [.either [.string, .kind .colour]] .changer
  |>.including ["text-style"] (.changer "text-style") [.oneOf Changer.textStyles] .changer
  |>.including ["font"] (.changer "font") [.string] .changer
  |>.includingStandard ["hook"] .hook [.string]
  |>.includingStandard ["error"] .error [.string]
  |>.including ["assert"] (.command "assert" none .assertion) [.boolean] .command

/-- The registry of the standard library, frozen. -/
def standard : Registry := (install empty).freeze

end Registry

end StoryValues
