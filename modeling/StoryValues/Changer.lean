import StoryValues.Colour.Hex
import StoryValues.Text.MacroName
import StoryValues.Value.Description

/-
  CHANGERS are chains of styling instructions.  Each node has the name of the macro that made it and
  that macro's arguments; a table says which **mutation** each name stands for.  Running a chain hands
  a descriptor to one mutation after another and stops at the first error.

  1. **Chains compose:** a chain in front of another is built again, node by node, from its end.
  2. **Write-once table.**  A name in the table keeps its mutation (`Changer.register`).
  3. **Faults in a mutation** become story errors; a name without a mutation is a fault of its own.
  4. **The descriptor stays** as the last mutation left it, however the run ends.
-/

namespace StoryValues

namespace Changer

/-- A macro's name and arguments. -/
abbrev Node := String × List Value

/-- Styling that a mutation adds: properties with their values. -/
abbrev Style := List (String × Value)

/-- What a mutation does: it is given its arguments and the descriptor so far, and gives the descriptor
that it leaves and what it returned. -/
abbrev Alteration (δ : Type) := List Value → δ → δ × Check Value

/-- A mutation of the standard descriptor, the styles so far. -/
abbrev Mutator := Alteration (List Style)

/-- The mutations: those of the standard macros, and code of the host. -/
inductive Mutation where
  | textColour
  | textStyle
  | font
  | hosted (code : Nat)
  deriving DecidableEq

/-- Two chains as one: the nodes of the first go in front of the second, the last one first. -/
def compose (a b : List Node) : List Node := a.reverse.foldl (fun chain node => node :: chain) b

/-! ## The standard mutations -/

/-- The styles that text can have. -/
def textStyles : List String :=
  ["none", "bold", "italic", "underline", "double-underline", "wavy-underline", "strike",
   "double-strike", "wavy-strike", "superscript", "subscript", "blink", "shudder", "mark",
   "condense", "expand", "outline", "shadow", "emboss", "smear", "blur", "blurrier", "mirror",
   "upside-down", "tall", "flat", "fade-in-out", "rumble", "sway", "buoy", "fidget"]

/-- The listed style of a name, whatever its case and hyphens. -/
def styleNamed (v : Value) : Except Fault String := do
  let name := insensitiveName (← v.nameText)
  match textStyles.find? fun s => insensitiveName s == name with
  | some style => return style
  | none => .error .noneListed

/-- A colour as style sheets write it; a text that names none is kept. -/
def cssOf : Value → Except Fault Value
  | .colour c => c.css.map .string
  | .string s => match Colour.ofHex? s with
    | some c => c.css.map .string
    | none => .ok (.string s)
  | v => .error (.badOperand s!"expected string or bytes-like object, got '{v.className}'")

/-- A mutation that makes one style of its only argument. -/
def single (name parameter : String) (make : Value → Except Fault Style) : Mutator
  | [v], styles =>
    match make v with
    | .ok style => (styles ++ [style], pure .nothing)
    | .error f => (styles, Check.fault f)
  | [], styles =>
    (styles, Check.fault (.badOperand
      s!"{name}() missing 1 required positional argument: '{parameter}'"))
  | params, styles =>
    (styles, Check.fault (.badOperand
      s!"{name}() takes 2 positional arguments but {params.length + 1} were given"))

/-- What a mutation does, given what those of the host do. -/
def Mutation.mutator (host : Nat → Mutator) : Mutation → Mutator
  | textColour => single "_text_colour_mutation" "colour" fun v => do
    return [("color", ← cssOf v)]
  | textStyle => single "_text_style_mutation" "style" fun v => do
    return [("text-style", .string (← styleNamed v))]
  | font => single "_font_mutation" "font" fun v => .ok [("font-family", v)]
  | hosted code => host code

/-! ## The table -/

/-- Which mutation each name stands for. -/
abbrev Table := List (String × Mutation)

/-- The names that the standard macros use. -/
def standardTable : Table :=
  [("text-colour", .textColour), ("text-style", .textStyle), ("font", .font)]

/-- Gives a name its mutation.  It may be given the same one again, but no other. -/
def register (table : Table) (name : String) (m : Mutation) : Except Fault Table :=
  match table.lookup name with
  | none => .ok (table ++ [(name, m)])
  | some old => if old = m then .ok table else .error (.mutationExists name)

/-! ## Running -/

/-- Work on a descriptor, which stays as it was left when the work fails. -/
abbrev Styling (δ : Type) := ReaderT Settings (ExceptT Failure (StateM δ))

/-- The descriptor that some work leaves, and its result. -/
def Styling.on (x : Styling δ α) (d : δ) : Check (δ × α) := fun settings =>
  match x settings d with
  | (.ok a, d) => .ok (d, a)
  | (.error e, _) => .error e

/-- The error that a mutation ended in, if it did: one that it returned, also inside arrays, or the one
that tells of its fault. -/
def settle (outcome : Check Value) : Check (Option StoryError) := fun settings =>
  match outcome settings with
  | .ok v => .ok v.firstError?
  | .error (.story e) => .ok (some e)
  | .error (.fault f) => (some <$> StoryError.ofFault f) settings

/-- Hands the descriptor to a mutation. -/
def applyTo (alter : Alteration δ) (params : List Value) : Styling δ (Option StoryError) :=
  fun settings d =>
    let (d, outcome) := alter params d
    (settle outcome settings, d)

/-- Runs a chain on a descriptor: the error at which the run stopped, if it did. -/
def run (alter : Mutation → Alteration δ) (table : Table) :
    List Node → Styling δ (Option StoryError)
  | [] => return none
  | (name, params) :: rest =>
    match table.lookup name with
    | none => throw (.fault (.noMutation name))
    | some m => do
      match ← applyTo (alter m) params with
      | some e => return some e
      | none => run alter table rest

end Changer

end StoryValues
