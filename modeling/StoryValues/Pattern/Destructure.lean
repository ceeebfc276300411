import StoryValues.Pattern.Build

/-
  TAKING TEXT APART.  A pattern with typed variables gives each of them the text that it read.

  1. **Order.**  Typed variables come in the order in which they are written, one around others before
     those in it; this is the order of their captures.
  2. **Letter case.**  In a folded pattern a variable's own datatype is folded too, or else it might
     refuse the text that the pattern let it read.
-/

namespace StoryValues

namespace Datatype

/-- The pattern with letter case left out of account; a pattern that is so already stays as it is. -/
def insensitive : Datatype → Datatype
  | .pattern shape parts _ spread => .pattern shape parts true spread
  | d => d

/-- A datatype as the only fragment of a pattern that leaves letter case out of account. -/
def folded (d : Datatype) : Datatype := .pattern .insensitive [.type d] true false

end Datatype

mutual

/-- The typed variables in a datatype.  `fold` says that an enclosing pattern folded this one. -/
def Datatype.typedVars (fold : Bool) : Datatype → List TypedVar
  | .named .. => []
  | .pattern shape parts folded _ =>
    Fragment.typedVars (folded || fold) ((folded || fold) && shape != .insensitive) parts

/-- The typed variables in fragments of a pattern.  `wrap` says that the pattern is folded, `inner`
that it folded the patterns in it. -/
def Fragment.typedVars (wrap inner : Bool) : List Fragment → List TypedVar
  | [] => []
  | .text _ :: fs => Fragment.typedVars wrap inner fs
  | .type d :: fs => d.typedVars inner ++ Fragment.typedVars wrap inner fs
  | .typed d name rest :: fs =>
    ⟨if wrap then d.folded else d, name, rest⟩ :: d.typedVars false
      ++ Fragment.typedVars wrap inner fs

end

namespace Pattern

/-- The text of a capture, empty where nothing was captured. -/
def captured (captures : Captures) (index : Nat) : String :=
  String.ofList ((captures.lookup index).getD [])

/-- The typed variables of a pattern with the texts they read from a whole string. -/
def destructure (d : Datatype) (v : Value) : Check (List (TypedVar × String)) :=
  match v with
  | .string s => do
    let vars := d.typedVars false
    -- without variables nothing is matched
    if vars.isEmpty then return []
    match ← d.fullMatch? s with
    | some captures =>
      return vars.zipIdx.map fun (var, index) => (var, captured captures index)
    | none =>
      Check.fail "operation"
        s!"I can't de-structure {← v.objectName} because it doesn't match the pattern {d.source}."
  | v => do
    Check.fail "operation"
      s!"I can't de-structure {← v.objectName} into {d.source} because it isn't a string."

end Pattern

end StoryValues
