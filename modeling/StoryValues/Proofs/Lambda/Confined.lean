import StoryValues.Lambda.Apply
import StoryValues.Proofs.World.Confined

/-
  LAMBDAS KEEP TO A SCOPE OF THEIR OWN.

  A lambda that is given no scope binds its variables in a new one, and evaluates its clauses inside a
  frame with that scope.  So whatever a tidy host does in the clauses, the caller's scopes are spared;
  and the ways in which an application ends early — a variable that cannot be bound, a guard that fails,
  is an error or no truth value, an error of the transform, a fault — need no cases of their own, for a
  sequence of runs is confined wherever it stops.
-/

namespace StoryValues

variable {σ : Type} {host : Host σ} {n : Nat} {fs : List Frame}

open Run (Confined)

/-- The host's code, expressions and bodies of custom macros alike, is tidy. -/
structure Host.Tidy (host : Host σ) : Prop where
  evaluate : ∀ text, (host.evaluate text).Tidy
  body : ∀ code, (host.call code []).Tidy

namespace Lambda

/-! ## One application -/

/-- Binding a variable of a lambda sets it in the scope of the application, which is new; without a variable, or a
value for it, nothing is set. -/
theorem confined_bindVariable {scope : Nat} (hscope : n ≤ scope) :
    ∀ (v : Option Variable) (value : Option Value),
      Confined n fs (bindVariable scope v value : Run σ Unit)
  | none, _ => .pure _
  | some _, none => .pure _
  | some v, some value => by
    dsimp only [bindVariable]
    by_cases hname : v.name = ""
    · rw [if_pos hname]
      exact .pure _
    · rw [if_neg hname]
      cases v.datatype with
      | none => exact .setVar hscope _ _
      | some d => exact (Confined.defineType hscope _ _).bind fun _ => .setVar hscope _ _

/-- What a lambda means by its unnamed item is looked up and tagged, and no scope is touched. -/
theorem confined_implicitIt (l : Lambda) (call : Call) :
    Confined n fs (implicitIt l call : Run σ Value) := by
  unfold implicitIt
  split
  · exact .pure _
  · exact (Confined.still fun _ _ => rfl).bind fun _ => .pure _

variable {f : Frame}

/-- Evaluation inside a frame whose scope may be touched.  This is where the host runs, and the frame is what its
tidiness speaks of. -/
theorem confined_evaluate (hhost : host.Tidy) (hscope : n ≤ f.scope) (text : String) :
    Confined n (f :: fs) (evaluate host text) := by
  have htop : ∀ g, (f :: fs).head? = some g → n ≤ g.scope := by
    rintro g ⟨⟩
    exact hscope
  exact ((hhost.evaluate text).confined htop).bind fun v => .adopt v

/-- Asking the guard evaluates one text, if there is a guard. -/
theorem confined_passes (hhost : host.Tidy) (hscope : n ≤ f.scope) (l : Lambda) :
    Confined n (f :: fs) (passes host l) := by
  unfold passes
  split
  · exact .pure _
  · refine (confined_evaluate hhost hscope _).bind fun condition => (Confined.check _).bind fun _ => ?_
    split
    · exact .pure _
    · -- the name of what came out instead, and the refusal that speaks of it
      exact (Confined.check _).bind fun _ => .check _

/-- The answer of an application is its guard and then its transform, each evaluated in the frame. -/
theorem confined_answer (hhost : host.Tidy) (hscope : n ≤ f.scope) (l : Lambda) (call : Call) :
    Confined n (f :: fs) (answer host l call) := by
  unfold answer
  refine (confined_passes hhost hscope l).bind fun passed => ?_
  split
  · split
    · split
      · exact .pure _
      · exact confined_evaluate hhost hscope _
    · exact .pure _
  · exact .pure _

/-- An application without a scope of the caller's, however it ends.  A sequence of runs is confined wherever it
stops, so errors and faults need no cases. -/
theorem confined_apply (hhost : host.Tidy) (l : Lambda) {call : Call} (hcall : call.scope = none) :
    Confined n fs (apply host l call) := by
  unfold apply callScope
  rw [hcall]
  simp only [bind_assoc]
  refine Confined.topFrame?.bind fun top => .newScope fun scope hscope => ?_
  refine (confined_bindVariable hscope _ _).bind fun _ => ?_
  refine (confined_bindVariable hscope _ _).bind fun _ => ?_
  refine (confined_implicitIt l call).bind fun it => (Confined.adopt it).bind fun it => ?_
  refine Confined.inherited.bind fun ambient => (Confined.still fun _ _ => rfl).bind fun shown => ?_
  exact (Confined.notice _).bind fun _ => .withFrame (confined_answer hhost hscope l call)

/-- So is one that stops at an error. -/
theorem confined_applyOrStop (hhost : host.Tidy) (l : Lambda) {call : Call}
    (hcall : call.scope = none) : Confined n fs (applyOrStop host l call) :=
  (confined_apply hhost l hcall).bind fun v => (Confined.check v.guardError).bind fun _ => .pure v

/-! ## Loops -/

/-- A filter applies the lambda to each item in a scope of its own, by recursion on the items. -/
theorem confined_filterFrom (hhost : host.Tidy) (l : Lambda) :
    ∀ (items : List Value) (pos : Nat), Confined n fs (filterFrom host l none pos items)
  | [], _ => .pure _
  | _ :: items, pos =>
    (confined_applyOrStop hhost l rfl).bind fun _ =>
      (confined_filterFrom hhost l items (pos + 1)).bind fun _ => .pure _

/-- A filter starts at the first position. -/
theorem confined_filter (hhost : host.Tidy) (l : Lambda) (items : List Value) :
    Confined n fs (filter host l items none) :=
  confined_filterFrom hhost l items 1

/-- A fold applies the lambda to each item and the total so far, by recursion on the items. -/
theorem confined_foldFrom (hhost : host.Tidy) (l : Lambda) :
    ∀ (items : List Value) (total : Value) (pos : Nat), Confined n fs (foldFrom host l total pos items)
  | [], _, _ => .pure _
  | _ :: items, _, pos =>
    (confined_applyOrStop hhost l rfl).bind fun _ => confined_foldFrom hhost l items _ (pos + 1)

/-- A fold filters first and then goes on from the first item. -/
theorem confined_fold (hhost : host.Tidy) (l : Lambda) (items : List Value) :
    Confined n fs (fold host l items) := by
  dsimp only [fold]
  split
  · refine (confined_filter hhost l items).bind fun kept => ?_
    cases kept with
    | nil => exact .check _
    | cons first rest => exact confined_foldFrom hhost l rest first 2
  · cases items with
    | nil => exact .check _
    | cons first rest => exact confined_foldFrom hhost l rest first 2

end Lambda

end StoryValues
