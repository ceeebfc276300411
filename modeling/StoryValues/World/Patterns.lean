import StoryValues.Pattern.Notice
import StoryValues.World.Basic

/-
  PATTERNS IN THE WORLD: building patterns and taking text apart where someone may watch.  The results
  are those of `Pattern.builder?`, `Datatype.insensitive`, `Datatype.typedVars` and
  `Pattern.destructure`; a notice is left for every pattern that is made on the way.
-/

namespace StoryValues

namespace Run

/-- Leaves a notice for each pattern. -/
def patternNotices (names : List String) : Run σ Unit :=
  names.forM fun name => notice s!"PATTERN {name}"

/-- The pattern that a pattern macro builds from its arguments. -/
def buildPattern (name : String) (args : List Value) : Run σ Value := do
  match Pattern.builder? name with
  | none => Check.fault (α := Value) (.missingKey name)
  | some build =>
    match ← (monadLift (build args) : Run σ Datatype).attempt with
    | .ok d =>
      patternNotices (Pattern.buildNotices name args true)
      return .datatype d
    | .error e =>
      patternNotices (Pattern.buildNotices name args false)
      Check.story (α := Value) e

/-- A pattern with letter case left out of account. -/
def insensitive (d : Datatype) : Run σ Datatype := do
  patternNotices d.foldNotices
  return d.insensitive

/-- The typed variables of a pattern. -/
def typedVars (d : Datatype) : Run σ (List TypedVar) := do
  patternNotices (d.varNotices false)
  return d.typedVars false

/-- The typed variables of a pattern with the texts they read from a whole string. -/
def destructure (d : Datatype) (v : Value) : Run σ (List (TypedVar × String)) := do
  if v.isString then patternNotices (d.varNotices false)
  Pattern.destructure d v

end Run

end StoryValues
