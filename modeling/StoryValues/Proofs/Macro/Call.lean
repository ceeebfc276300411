import StoryValues.Error.Limit
import StoryValues.Error.Renderer
import StoryValues.Macro.Call
import StoryValues.Proofs.Macro.Dispatch

/-
  A CALL REACHES ITS MACRO with what dispatch lets through.

  Calling a macro by name is dispatch, then the macro on what dispatch let through, and the answer is a
  value in any case.  So what was said of dispatch decides whether the macro is called at all.

  1. **Through** (`call_of_passed`) — the macro gets the values, in order, and its answer is the answer.
     An answer that is no error came about so (`of_call`), and arguments that pass the checks one by one
     go through (`call_of_checked`).
  2. **Not through** (`call_of_story`, `call_of_fault`) — the answer is the error of dispatch, or there is
     its fault.  Either is told apart from one of the macro by this: it is the same whatever the macro
     does, and whoever the host is.
-/

namespace StoryValues

namespace Registry

open Dispatch (Callee arguments passedLine)

variable {σ : Type} {settings : Settings} {w w' : World σ} {r : Registry} {name : String} {m : Macro}
  {args passed : List Value}

/-- A call that goes through is the macro's work on the values that were passed. -/
theorem call_of_passed (hget : r.get? name = some m)
    (h : arguments ⟨name, m.signature⟩ args settings w = (.ok passed, w')) (host : Host σ) :
    r.call host name args settings w =
      (Run.outcome (m.body.perform host passed) >>= Run.adopt) settings w' := by
  unfold call
  rw [hget]
  exact Run.bind_congr Run.adopt (Run.outcome_bind_of_ok h)

/-- What the macro makes of arguments that pass all checks is the answer, in the hands of whoever called. -/
theorem call_of_checked {host : Host σ} {v : Value} (hget : r.get? name = some m)
    (hfree : ∀ arg ∈ args, arg.ErrorFree) (hspread : Dispatch.spreadArguments args settings = .ok passed)
    (hcheck : Callee.checkFrom ⟨name, m.signature⟩ 0 m.signature.fixed passed settings w = (.ok (), w))
    (hperform : ∀ w' : World σ, m.body.perform host passed settings w' = (.ok v, w')) :
    (r.call host name args settings w).1 = .ok (v.adopt w.fresh).1 := by
  have hpassed : arguments ⟨name, m.signature⟩ args settings w =
      (.ok passed, w.noted (passedLine ⟨name, m.signature⟩ passed)) := by
    rw [Dispatch.arguments_of_spread hfree hspread, Run.bind_of_ok hcheck]
    rfl
  rw [call_of_passed hget hpassed host, Run.bind_of_ok (Run.outcome_of_ok (hperform _))]
  rfl

/-- An error in the hands of whoever called: it has a tag, its own if it had one. -/
theorem adopt_error (e : StoryError) :
    (Run.adopt (.error e) : Run σ Value) settings w =
      (.ok (.error { e with tag := (Tag.adopt w.fresh e.tag).1 }),
        { w with fresh := (Tag.adopt w.fresh e.tag).2 }) := rfl

/-- A call that dispatch stops has the error of dispatch for its answer. -/
theorem call_of_story {e : StoryError} (hget : r.get? name = some m)
    (h : arguments ⟨name, m.signature⟩ args settings w = (.error (.story e), w')) (host : Host σ) :
    r.call host name args settings w = (Run.adopt (.error e)) settings w' := by
  unfold call
  rw [hget]
  have hstop : (arguments ⟨name, m.signature⟩ args >>= m.body.perform host) settings w =
      (.error (.story e), w') := Run.bind_of_error h
  rw [Run.bind_of_ok (Run.outcome_of_story hstop)]

/-- A call in which dispatch raises a fault raises it as well. -/
theorem call_of_fault {f : Fault} (hget : r.get? name = some m)
    (h : arguments ⟨name, m.signature⟩ args settings w = (.error (.fault f), w')) (host : Host σ) :
    r.call host name args settings w = (.error (.fault f), w') := by
  unfold call
  rw [hget]
  have hstop : (arguments ⟨name, m.signature⟩ args >>= m.body.perform host) settings w =
      (.error (.fault f), w') := Run.bind_of_error h
  exact Run.bind_of_error (Run.outcome_of_fault hstop)

/-- What a call has for its answer, if that is no error, is the macro's own: dispatch let the arguments through. -/
theorem of_call {host : Host σ} {v : Value} (hget : r.get? name = some m)
    (hcall : r.call host name args settings w = (.ok v, w')) (hv : ∀ e, v ≠ .error e) :
    ∃ passed w₁ answer w₂, arguments ⟨name, m.signature⟩ args settings w = (.ok passed, w₁) ∧
      m.body.perform host passed settings w₁ = (.ok answer, w₂) ∧ v = (answer.adopt w₂.fresh).1 := by
  unfold call at hcall
  rw [hget] at hcall
  obtain ⟨answer, w₂, houtcome, hadopt⟩ := Run.bind_eq_ok.mp hcall
  have hanswer : v = (answer.adopt w₂.fresh).1 := (Except.ok.inj (Prod.mk.inj hadopt).1).symm
  rcases Run.of_outcome houtcome with hrun | ⟨e, rfl⟩
  · obtain ⟨passed, w₁, hpassed, hperform⟩ := Run.bind_eq_ok.mp hrun
    exact ⟨passed, w₁, answer, w₂, hpassed, hperform, hanswer⟩
  · exact absurd hanswer (hv _)

end Registry

end StoryValues
