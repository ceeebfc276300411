import StoryValues.Text.Inspected
import StoryValues.Value.Kind
import StoryValues.Value.Printing

/-
  DESCRIPTIONS of values for readers of messages: `Value.objectName` speaks of one value,
  `Value.typeName` of all values of its kind, and `Value.inspect` shows a value to whoever wrote the
  host.  Speaking of a value writes its number, and inspecting it prints composites; both may fault.
-/

namespace StoryValues

/-- `a`, `a and b`, `a, b and c`.  There is no text for nothing. -/
def andList (items : List String) : Except Fault String :=
  match items.reverse with
  | [] => .error (.missingPosition "list index out of range")
  | [only] => .ok only
  | last :: before => .ok (String.intercalate ", " before.reverse ++ " and " ++ last)

/-- What is put behind the digits of an ordinal. -/
def ordinalSuffix (n : Int) : String :=
  if 10 ≤ n.fmod 100 ∧ n.fmod 100 ≤ 20 then "th"
  else match n.fmod 10 with
    | 1 => "st"
    | 2 => "nd"
    | 3 => "rd"
    | _ => "th"

/-- Ordinals: 1st, 2nd, 3rd, 4th, … 11th, 12th, 13th, … 21st. -/
def nth (n : Int) : Except Fault String :=
  (Number.int n).format.map fun digits => digits ++ ordinalSuffix n

/-- The ordinal of a place in a list, which is never too long to be written. -/
def place (n : Nat) : String := toString n ++ ordinalSuffix n

/-- How a message speaks of a lambda: by its clauses. -/
def Lambda.objectName (l : Lambda) : String :=
  let clauses := String.intercalate " " (l.shape.map fun c => c.word ++ " ...")
  s!"a \"{clauses}\" lambda"

namespace Value

/-- A truth value as source text. -/
def truth (b : Bool) : String := if b then "true" else "false"

/-- The value in the brackets of a described chain: the first argument, if it is plain and single. -/
def shownArgument : List Value → Except Fault String
  | .string s :: _ => .ok (quoted s)
  | .number n :: _ => n.format
  | .boolean b :: _ => .ok (truth b)
  | _ => .ok ""

/-- How a message speaks of a chain: its first node, and up to two more before the rest is counted. -/
def chainName : List (String × List Value) → Except Fault String
  | [] => .ok "a changer"
  | (name, params) :: rest => do
    let first := s!"a ({name}:" ++ (← shownArgument params) ++ ") changer"
    let others := rest.map fun node => s!"({node.1}:)"
    let count := others.length
    let shown :=
      if count > 2 then
        others.take 2 ++ [s!"{count - 2} other changer" ++ if count > 3 then "s" else ""]
      else others
    match andList shown with
    | .ok joined => return s!"{first} combined with {joined}"
    | .error _ => return first

/-- What messages say of a value that has no kind. -/
def unnamed : String := "...whatever this is"

/-- How a message speaks of all values of the kind of this one. -/
def typeName (v : Value) : String := v.kind?.elim unnamed Kind.typeName

/-- How a message speaks of a value: with what it is where that is short, else by its kind.  There is
nothing to say of an integer that is too long. -/
def objectName : Value → Except Fault String
  | .boolean b => .ok s!"the boolean value '{truth b}'"
  | .number n => if n.isNumber then n.format.map fun digits => "the number " ++ digits else .ok unnamed
  | .string s => .ok ("the string " ++ quoted s)
  | .datatype d => .ok d.objectName
  | .typedVar v => .ok v.objectName
  | .changer nodes => chainName nodes
  | .command _ name _ _ => .ok s!"a ({name}:) command"
  | .hooks names =>
    .ok ((if names.length = 1 then "the hook name " else "the hook names ") ++ hooksSource names)
  | .lambda l => .ok l.objectName
  | v => .ok v.typeName

/-! ## For inspection -/

/-- What messages to the host call the kind of a value. -/
def className (v : Value) : String := v.kind?.elim "_Filtered" Kind.className

/-- The kind of a value in a message about a mistake of the host. -/
def classText (v : Value) : String :=
  let unit := v.kind?.elim "harlowe.harlowe_lambda." Kind.classUnit
  s!"<class '{unit}{v.className}'>"

mutual

/-- A value as it is shown for inspection. -/
def inspect : Value → Except Fault String
  | .nothing => .ok "None"
  | .boolean b => .ok (if b then "True" else "False")
  | .number n => n.text
  | .string s => .ok (inspected s)
  | .array items => do
    let texts ← collect (inspectAll items)
    return "[" ++ String.intercalate ", " texts ++ "]"
  | .error e => .ok e.inspected
  | .filtered => .ok "FILTERED"
  | v => do
    let text ← v.print
    return "<" ++ v.className ++ " " ++ text ++ ">"

/-- The values of a list as they are shown for inspection. -/
def inspectAll : List Value → List (Except Fault String)
  | [] => []
  | v :: vs => inspect v :: inspectAll vs

end

/-- A value as a name without regard to case, hyphens and underscores. -/
def nameText : Value → Except Fault String
  | .string s => .ok s
  | v => v.inspect

end Value

end StoryValues
