import StoryValues.Error.Limit
import StoryValues.Error.Renderer
import StoryValues.Proofs.Macro.Confined

/-
  NESTED CALLS leave the caller's stack and variables alone.

  Code of a host calls into the library, the library runs lambdas and bodies through the host, and those
  call into the library again.  Here the host's code is a tree (`StoryCode`): steps of the host's own,
  calls, and frames inside the latest one, each going on with however the last one ended, failures
  included.  A host runs its code down to some depth of nesting and faults below it
  (`StoryProgram.host`), as a machine does whose stack is used up.

  1. **One call** of a tidy host disturbs nothing (`Invocation.confined_run`), so to the code around it
     it is a tidy step.
  2. **Code** of tidy steps is tidy, by induction on the tree (`StoryCode.tidy_run`).
  3. **Hosts** that run such code are tidy at every depth, by induction on the depth
     (`StoryProgram.tidy_host`), so 1 holds of every call at every depth.
-/

namespace StoryValues

variable {σ : Type}

/-! ## Calls -/

/-- A call into the library.  None of them is given a scope to bind variables in. -/
inductive Invocation where
  | apply (l : Lambda) (call : Lambda.Call)
  | filter (l : Lambda) (items : List Value)
  | fold (l : Lambda) (items : List Value)
  /-- a macro of the standard library, by its name -/
  | standard (name : String) (args : List Value)
  /-- a value called as a custom macro -/
  | custom (callee : Value) (args : List Value)

/-- What a call does. -/
def Invocation.run (host : Host σ) : Invocation → Run σ Value
  | .apply l call => l.apply host { call with scope := none }
  | .filter l items => do return .array (← l.filter host items none)
  | .fold l items => l.fold host items
  | .standard name args => Registry.standard.call host name args
  | .custom callee args => CustomMacro.call host callee args

open Run (Confined Tidy)

/-- A call keeps to scopes of its own, whatever is called and however it ends. -/
theorem Invocation.confined_run {host : Host σ} (hhost : host.Tidy) {n : Nat} {fs : List Frame} :
    ∀ c : Invocation, Confined n fs (c.run host)
  | .apply l _ => l.confined_apply hhost rfl
  | .filter l items => (l.confined_filter hhost items).bind fun _ => .pure _
  | .fold l items => l.confined_fold hhost items
  | .standard name args => Registry.confined_call hhost Registry.unhosted_standard name args
  | .custom callee args => CustomMacro.confined_call hhost callee args

/-! ## Code -/

/-- A run, and then whatever follows from its result or failure. -/
def Run.followedBy (x : Run σ Value) (next : Except Failure Value → Run σ Value) : Run σ Value :=
  fun settings w => next (x settings w).1 settings (x settings w).2

theorem Run.Tidy.followedBy {x : Run σ Value} {next : Except Failure Value → Run σ Value}
    (hx : x.Tidy) (hnext : ∀ r, (next r).Tidy) : (x.followedBy next).Tidy := by
  intro settings w
  have hfirst := hx settings w
  have hothers := hnext (x settings w).1 settings (x settings w).2
  rw [World.topScope?, hfirst.frames] at hothers
  exact hfirst.trans hothers

/-- Code of a host. -/
inductive StoryCode (σ : Type) where
  | done (result : Except Failure Value)
  /-- a step of the host's own -/
  | own (step : Run σ Value) (next : Except Failure Value → StoryCode σ)
  | call (c : Invocation) (next : Except Failure Value → StoryCode σ)
  /-- code inside a frame with a new scope, inside that of the latest frame -/
  | inside (pos it : Value) (body : StoryCode σ) (next : Except Failure Value → StoryCode σ)

namespace StoryCode

/-- Runs code, with a host to run the lambdas and the bodies that its calls lead to. -/
def run (host : Host σ) : StoryCode σ → Run σ Value
  | .done result => fun _ w => (result, w)
  | .own step next => step.followedBy fun result => (next result).run host
  | .call c next => (c.run host).followedBy fun result => (next result).run host
  | .inside pos it body next =>
    let framed : Run σ Value := do
      let scope ← Run.newScope ((← Run.topFrame?).map Frame.scope) Scope.usualName
      Run.withFrame { scope, pos, it, ambient := ← Run.inherited } (body.run host)
    framed.followedBy fun result => (next result).run host

/-- All steps of the host's own are tidy. -/
def Tidy : StoryCode σ → Prop
  | .done _ => True
  | .own step next => step.Tidy ∧ ∀ result, (next result).Tidy
  | .call _ next => ∀ result, (next result).Tidy
  | .inside _ _ body next => body.Tidy ∧ ∀ result, (next result).Tidy

/-- Code of tidy steps is tidy, its calls and frames included. -/
theorem tidy_run {host : Host σ} (hhost : host.Tidy) : ∀ {code : StoryCode σ}, code.Tidy →
    (code.run host).Tidy
  | .done _, _ => fun _ w => .refl w
  | .own _ _, ⟨hstep, hnext⟩ => hstep.followedBy fun result => tidy_run hhost (hnext result)
  | .call c _, hnext =>
    (Run.tidy_of_confined fun _ _ => c.confined_run hhost).followedBy fun result =>
      tidy_run hhost (hnext result)
  | .inside pos it body _, ⟨hbody, hnext⟩ => by
    refine Run.Tidy.followedBy (Run.tidy_of_confined fun n fs => ?_) fun result =>
      tidy_run hhost (hnext result)
    -- the body's own scope is the new one, which no caller has
    refine Confined.topFrame?.bind fun top => .newScope fun scope hscope => ?_
    refine Confined.inherited.bind fun ambient => .withFrame ((tidy_run hhost hbody).confined ?_)
    rintro f ⟨⟩
    exact hscope

end StoryCode

/-! ## Hosts -/

/-- The code of all expressions and of all bodies, and what else a host does. -/
structure StoryProgram (σ : Type) where
  expression : String → StoryCode σ
  body : Nat → List Value → StoryCode σ
  mutate : Nat → Changer.Mutator
  mapHeld : (Value → Value) → σ → σ

namespace StoryProgram

/-- Stops because calls are nested too deeply. -/
def tooDeep : Run σ Value :=
  Check.fault (α := Value) (.hosted "RecursionError" "maximum recursion depth exceeded")

/-- The host of a program, whose calls may nest so deeply. -/
def host (p : StoryProgram σ) : Nat → Host σ
  | 0 =>
    { evaluate := fun _ => tooDeep
      call := fun _ _ => tooDeep
      mutate := p.mutate
      mapHeld := p.mapHeld }
  | depth + 1 =>
    { evaluate := fun text => (p.expression text).run (p.host depth)
      call := fun code args => (p.body code args).run (p.host depth)
      mutate := p.mutate
      mapHeld := p.mapHeld }

/-- All code of the program is tidy. -/
structure Tidy (p : StoryProgram σ) : Prop where
  expression : ∀ text, (p.expression text).Tidy
  body : ∀ code, (p.body code []).Tidy

/-- A program of tidy code makes a tidy host, however deeply its calls nest. -/
theorem tidy_host {p : StoryProgram σ} (hp : p.Tidy) : ∀ depth, (p.host depth).Tidy
  | 0 => ⟨fun _ _ w => .refl w, fun _ _ w => .refl w⟩
  | depth + 1 =>
    ⟨fun text => StoryCode.tidy_run (tidy_host hp depth) (hp.expression text),
      fun code => StoryCode.tidy_run (tidy_host hp depth) (hp.body code)⟩

end StoryProgram

/-- **The stack stays balanced and the callers' variables are safe.**

Let the expressions and the bodies of a host leave the stack as they find it and write to no scope but
that of the latest frame, whether they return or stop.  Then a call of a lambda without a scope of the
caller's, of its filter or its fold, of a macro of the standard library and of a custom macro leaves the
very same frames, and every scope that there was with the same bindings and restrictions — whatever the
arguments and whatever comes of the call: a value, an error, or a fault.

The same holds of hosts whose code itself calls into the library, if the steps in between are such: their
code is tidy again, to any depth of calls within calls. -/
theorem Invocation.nested_undisturbed :
    (∀ host : Host σ, host.Tidy → ∀ (c : Invocation) settings (w : World σ),
      w.Undisturbed (c.run host settings w).2) ∧
    (∀ p : StoryProgram σ, p.Tidy → ∀ depth, (p.host depth).Tidy ∧
      ∀ (c : Invocation) settings (w : World σ), w.Undisturbed (c.run (p.host depth) settings w).2) := by
  have hcalls : ∀ host : Host σ, host.Tidy → ∀ (c : Invocation) settings (w : World σ),
      w.Undisturbed (c.run host settings w).2 := fun host hhost c =>
    Run.undisturbed_of_confined fun _ _ => c.confined_run hhost
  exact ⟨hcalls, fun p hp depth =>
    ⟨StoryProgram.tidy_host hp depth, hcalls _ (StoryProgram.tidy_host hp depth)⟩⟩

/-! ## A program that nests -/

/-- The value of the loop, after a mark in the scope of the latest frame. -/
def markSeen : Run Unit Value := fun _ w =>
  match w.frames.head? with
  | none => (.ok .nothing, w)
  | some f => (.ok f.it, w.modifyScope f.scope fun s => s.bind "seen" (.boolean true))

theorem tidy_markSeen : markSeen.Tidy := by
  intro settings w
  unfold markSeen World.topScope?
  cases w.frames with
  | nil => exact .refl w
  | cons f fs => exact .modifyScope w _ rfl

/-- A program that marks the scope of every frame that its code runs in.  The expression "deeper" goes on
to filter an array by another expression, and stops where that stops. -/
def marking : StoryProgram Unit where
  expression text :=
    .own markSeen fun
      | .ok v =>
        if text = "deeper" then
          .call (.filter { Lambda.empty with whereTrue := some "it" } [v, .boolean false]) .done
        else .done (.ok v)
      | .error e => .done (.error e)
  body _ _ := .own markSeen .done
  mutate _ _ styles := (styles, pure .nothing)
  mapHeld _ held := held

theorem tidy_marking : marking.Tidy where
  expression text := by
    refine ⟨tidy_markSeen, fun result => ?_⟩
    cases result with
    | error e => trivial
    | ok v =>
      dsimp only
      split
      · exact fun _ => trivial
      · trivial
  body _ := ⟨tidy_markSeen, fun _ => trivial⟩

/-- The scope of a caller, without the mark. -/
def callerScope : Scope :=
  { name := Scope.usualName, parent := none, bindings := [("seen", .boolean false)], types := [] }

/-- A world with one frame. -/
def calledFrom : World Unit :=
  { World.start [] () with
    scopes := [callerScope]
    frames := [{ scope := 0, pos := .nothing, it := .nothing, ambient := [] }] }

/-- Run in the caller's own frame the program's code marks the caller's scope.  A lambda that runs the
same code, and filters in it, leaves the scope as it was: so by both parts of the theorem. -/
theorem marking_undisturbed :
    let settings : Settings := Settings.usual
    let deeper : Invocation := .apply { Lambda.empty with via := some "deeper" }
      { Lambda.Call.usual with loop := some (.boolean true), pos := Lambda.position 1 }
    (markSeen settings calledFrom).2.scope? 0 = some (callerScope.bind "seen" (.boolean true)) ∧
      calledFrom.Undisturbed (deeper.run (marking.host 2) settings calledFrom).2 ∧
      (deeper.run (marking.host 2) settings calledFrom).2.scope? 0 = some callerScope := by
  intro settings deeper
  obtain ⟨htidy, hnested⟩ := Invocation.nested_undisturbed.2 marking tidy_marking 2
  refine ⟨rfl, hnested deeper settings calledFrom, ?_⟩
  exact (Invocation.nested_undisturbed.1 (marking.host 2) htidy deeper settings calledFrom).2 0 _ rfl

end StoryValues
