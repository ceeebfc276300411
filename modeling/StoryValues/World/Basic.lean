import StoryValues.Changer

/-
  THE WORLD that story code runs in: scopes of variables, a stack of frames, the table of mutations,
  and whatever the host keeps for itself.

  1. **Scopes** are numbered as they are made.  The parent of a scope is older than the scope, so
     looking through parents ends.
  2. **Frames.**  What pushes a frame pops it again, whether the code in between gives a value, a
     story error or a fault (`Run.withFrame`).
  3. **Running** keeps what has happened when it stops: a run is a function from a world to a world
     with or without a result (`Run`).

  The code of a story is never looked at here: a `Host` evaluates it.
-/

namespace StoryValues

/-! ## Scopes and frames -/

/-- Variables with what they may hold.  Names that are not bound here are looked for in the parent. -/
structure Scope where
  name : String
  parent : Option Nat
  bindings : List (String × Value)
  types : List (String × Datatype)

/-- What a scope is called where no name is given. -/
def Scope.usualName : String := "this place"

/-- One level of evaluation: its scope, the position and the value of a loop, and the fields that
inner levels inherit. -/
structure Frame where
  scope : Nat
  pos : Value
  it : Value
  ambient : List (String × Value)

/-- Everything that running code can change.  The latest frame and the latest notice come first. -/
structure World (σ : Type) where
  scopes : List Scope
  frames : List Frame
  notices : List String
  fresh : Nat
  mutations : Changer.Table
  host : σ

/-- The world before anything has happened. -/
def World.start (mutations : Changer.Table) (host : σ) : World σ where
  scopes := []
  frames := []
  notices := []
  fresh := 0
  mutations := mutations
  host := host

/-! ## Running -/

/-- Running code: it reads the settings, changes the world, and may stop with a failure. -/
abbrev Run (σ : Type) := ReaderT Settings (ExceptT Failure (StateM (World σ)))

instance : MonadLift Check (Run σ) := ⟨fun c settings world => (c settings, world)⟩

instance : Inhabited (Run σ α) := ⟨fun _ world => (.error (.fault (.badOperand "")), world)⟩

/-- What a host does for the world: it evaluates expression text, runs code that it gave a number,
applies mutations of its own, and lets a change reach the values that it holds. -/
structure Host (σ : Type) where
  evaluate : String → Run σ Value
  call : Nat → List Value → Run σ Value
  mutate : Nat → Changer.Mutator
  mapHeld : (Value → Value) → σ → σ

namespace Run

/-- The world as it is. -/
def world : Run σ (World σ) := fun _ w => (.ok w, w)

/-- Changes the world. -/
def change (f : World σ → World σ) : Run σ Unit := fun _ w => (.ok (), f w)

/-- Sets a story error aside as an ordinary result; faults still stop. -/
def attempt (run : Run σ α) : Run σ (Except StoryError α) := fun settings w =>
  match run settings w with
  | (.ok a, w) => (.ok (.ok a), w)
  | (.error (.story e), w) => (.ok (.error e), w)
  | (.error (.fault f), w) => (.error (.fault f), w)

/-- A result as a value: a story error is a value too. -/
def outcome (run : Run σ Value) : Run σ Value := do
  match ← run.attempt with
  | .ok v => return v
  | .error e => return .error e

/-- Leaves a line for whoever watches. -/
def notice (line : String) : Run σ Unit :=
  change fun w => { w with notices := s!"[DBG] {line}" :: w.notices }

/-! ## Frames -/

/-- The latest frame. -/
def topFrame? : Run σ (Option Frame) := do return (← world).frames.head?

/-- Puts a frame on top of the others. -/
def pushFrame (f : Frame) : Run σ Unit := change fun w => { w with frames := f :: w.frames }

/-- Takes the latest frame away; there must be one. -/
def popFrame : Run σ Unit := do
  if (← world).frames.isEmpty then Check.fault (α := Unit) (.missingPosition "pop from empty list")
  change fun w => { w with frames := w.frames.tail }

/-- Runs code inside a frame. -/
def withFrame (f : Frame) (body : Run σ α) : Run σ α := fun settings w =>
  let (result, w) := body settings { w with frames := f :: w.frames }
  (result, { w with frames := w.frames.tail })

/-- The fields that a new frame inherits. -/
def inherited : Run σ (List (String × Value)) := do
  match ← topFrame? with
  | some frame => return frame.ambient
  | none => return []

end Run

end StoryValues
