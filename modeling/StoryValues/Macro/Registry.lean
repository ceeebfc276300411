import StoryValues.Changer
import StoryValues.Macro.Signature

/-
  THE REGISTRY finds macros by name, without regard to case, hyphens and underscores.

  1. **Write-once.**  A name that is taken cannot be given to another macro, and a frozen registry
     takes no more macros at all.
  2. Names of one macro are entered one after another; where one of them is taken, those before it
     stay entered (`Registry.enter`).
-/

namespace StoryValues

/-- The macros of the standard library. -/
inductive StandardMacro where
  | array | datamap | dataset | source | datatype | range | subarray | substring | count
  | find | altered | datamapAltered | allPass | somePass | nonePass | folded | sorted
  /-- a pattern macro by its name -/
  | pattern (name : String)
  | rgb | hsl | gradient | hook | error
  deriving DecidableEq

/-- What a macro does with its arguments. -/
inductive MacroBody where
  | standard (m : StandardMacro)
  | hosted (code : Nat)
  /-- makes a changer of this name -/
  | changer (name : String)
  /-- makes a command of this name, unless a check by the host objects -/
  | command (name : String) (check : Option Nat) (action : Action)
  deriving DecidableEq

/-- What calling a macro gives. -/
inductive Returns where
  | any | changer | command
  deriving DecidableEq

/-- The word for what calling a macro gives. -/
def Returns.word : Returns → String
  | any => "any"
  | changer => "changer"
  | command => "command"

/-- A macro: all its names, what it takes, and what it does. -/
structure Macro where
  names : List String
  body : MacroBody
  signature : Signature
  returns : Returns

/-- Macros under the forms of their names that are compared. -/
structure Registry where
  macros : List (String × Macro)
  frozen : Bool

namespace Registry

/-- A registry without macros. -/
def empty : Registry := ⟨[], false⟩

/-- The macro of a name. -/
def get? (r : Registry) (name : String) : Option Macro := r.macros.lookup (insensitiveName name)

/-- What is found under a name is one of the macros. -/
theorem mem_of_get? {r : Registry} {name : String} {m : Macro} (h : r.get? name = some m) :
    (insensitiveName name, m) ∈ r.macros := by
  obtain ⟨before, after, hmacros, _⟩ := List.lookup_eq_some_iff.mp h
  rw [hmacros]
  exact List.mem_append_right before List.mem_cons_self

/-- Whether there is a macro of a name. -/
def has (r : Registry) (name : String) : Bool := (r.get? name).isSome

/-- All names of all macros, in order and each once. -/
def names (r : Registry) : List String :=
  ((r.macros.flatMap fun (_, m) => m.names).mergeSort fun a b => a ≤ b).eraseDups

/-- Closes a registry. -/
def freeze (r : Registry) : Registry := { r with frozen := true }

/-- Enters a macro under names, as far as they are free; and the fault at the first that is not. -/
def enter (m : Macro) : List String → Registry → Registry × Except Fault Unit
  | [], r => (r, .ok ())
  | name :: names, r =>
    if r.has name then (r, .error (.macroExists name))
    else enter m names { r with macros := r.macros ++ [(insensitiveName name, m)] }

/-- Adds a macro: the registry afterwards, and whether it took the macro under all names. -/
def add (r : Registry) (names : List String) (body : MacroBody) (entries : List Entry)
    (returns : Returns) : Registry × Except Fault Unit :=
  if r.frozen then (r, .error .frozenRegistry)
  else match Signature.ofEntries entries with
    | .error f => (r, .error f)
    | .ok signature => enter { names, body, signature, returns } names r

/-- The first name of a macro; there must be one. -/
def firstName : List String → Except Fault String
  | [] => .error (.missingPosition "list index out of range")
  | name :: _ => .ok name

/-- Adds a macro that makes changers.  Its mutation is entered first, and stays even if the registry
then refuses the macro. -/
def addChanger (r : Registry) (table : Changer.Table) (names : List String) (body : String → MacroBody)
    (mutation : Changer.Mutation) (entries : List Entry) :
    Registry × Changer.Table × Except Fault Unit :=
  match firstName names with
  | .error f => (r, table, .error f)
  | .ok name =>
    match Changer.register table name mutation with
    | .error f => (r, table, .error f)
    | .ok table =>
      let (r, done) := r.add names (body name) entries .changer
      (r, table, done)

/-- Adds a macro that makes commands. -/
def addCommand (r : Registry) (names : List String) (check : Option Nat) (action : Action)
    (entries : List Entry) : Registry × Except Fault Unit :=
  match firstName names with
  | .error f => (r, .error f)
  | .ok name => r.add names (.command name check action) entries .command

end Registry

end StoryValues
