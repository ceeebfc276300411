import StoryValues.Tag
import StoryValues.Error.Catalogue
import StoryValues.Text.Case

/-
  STORY ERRORS.  A failure that a story can meet is a value with a kind, a message and perhaps an
  explanation; it travels through every operation until someone shows it.

  Making one can itself go wrong, because a kind that nothing explains is a mistake of the host, and
  what explains a kind is the catalogue in use.  So operations that may fail run in `Check`: they
  read the `Settings`, and stop with a `Failure`, which is a story error or a fault.
-/

namespace StoryValues

/-- A failure as a value of the story.  Two errors are the same datum when their tags agree. -/
structure StoryError where
  kind : String
  message : String
  explanation : Option String
  warning : Bool
  tag : Tag
  deriving DecidableEq

/-- What operations read: the texts about failures, what renders them, and the largest count a
pattern may repeat. -/
structure Settings where
  catalogue : Catalogue
  renderer : Template.Renderer
  repeatLimit : Int

/-- Why an operation has no result. -/
inductive Failure where
  | story (e : StoryError)
  | fault (f : Fault)
  deriving DecidableEq

/-- Operations that read the settings and may fail. -/
abbrev Check := ReaderT Settings (Except Failure)

namespace Check

/-- Stops with a fault. -/
def fault (f : Fault) : Check α := fun _ => .error (.fault f)

/-- Stops with a story error. -/
def story (e : StoryError) : Check α := fun _ => .error (.story e)

/-- Goes on with a result, or stops with its fault. -/
def lift : Except Fault α → Check α
  | .ok a => pure a
  | .error f => fault f

instance : MonadLift (Except Fault) Check := ⟨lift⟩

/-- Sets a story error aside as an ordinary result; faults still stop. -/
def attempt (c : Check α) : Check (Except StoryError α) := fun settings =>
  match c settings with
  | .ok a => .ok (.ok a)
  | .error (.story e) => .ok (.error e)
  | .error (.fault f) => .error (.fault f)

/-- The message of a template of the catalogue. -/
def message (key : String) (given : List (String × Template.Given)) : Check String := fun settings =>
  lift (settings.catalogue.message settings.renderer key given) settings

end Check

namespace StoryError

/-- Makes an error.  The message must not be empty, and an explanation must be given or stand in the
catalogue.  Messages start with a capital, except those that a story author wrote. -/
def create (kind message : String) (explanation : Option String) : Check StoryError := fun settings =>
  if message = "" then .error (.fault .emptyErrorMessage)
  else if explanation.getD "" = "" ∧ (settings.catalogue.explanation? kind).isNone then
    .error (.fault (.unexplainedKind kind))
  else
    .ok { kind, explanation, warning := false, tag := none
          message := if kind = "user" then message else Case.capitalise message }

/-- Makes an error that only warns. -/
def createWarning (kind message : String) (explanation : Option String) : Check StoryError := do
  let e ← create kind message explanation
  return { e with warning := true }

/-- The error that tells the story of a fault. -/
def ofFault (f : Fault) : Check StoryError :=
  create "python" ("☕ " ++ f.text) none

/-- The explanation of an error: its own, else that of its kind. -/
def fullExplanation (c : Catalogue) (e : StoryError) : String :=
  match e.explanation with
  | some text => if text = "" then (c.explanation? e.kind).getD "" else text
  | none => (c.explanation? e.kind).getD ""

/-- How an error is shown for inspection. -/
def inspected (e : StoryError) : String :=
  "<HarloweError" ++ (if e.warning then " warning" else "") ++ s!" {e.kind}: {e.message}>"

end StoryError

namespace Check

/-- Stops with a new story error that its kind explains. -/
def fail (kind message : String) : Check α := do story (← StoryError.create kind message none)

/-- Stops with a new story error that brings its own explanation. -/
def failWith (kind message explanation : String) : Check α := do
  story (← StoryError.create kind message (some explanation))

end Check

end StoryValues
