import StoryValues.Proofs.Check
import StoryValues.World.Identity

/-
  RUNS, one step at a time.  A run takes a world to a world, with a result or a failure; a sequence of
  runs stops at the first failure and keeps what has happened until then.  A check made during a run
  leaves the world as it is.
-/

namespace StoryValues

/-- The world with a line left in it. -/
def World.noted {σ : Type} (w : World σ) (line : String) : World σ :=
  { w with notices := s!"[DBG] {line}" :: w.notices }

namespace Run

variable {σ α β : Type} {settings : Settings} {w w' : World σ}

/-- A run stops or gives a result. -/
theorem stops_or_gives (x : Run σ α) (settings : Settings) (w : World σ) :
    (∃ e w', x settings w = (.error e, w')) ∨ ∃ a w', x settings w = (.ok a, w') := by
  cases hx : x settings w with
  | mk r w' =>
    cases r with
    | error e => exact Or.inl ⟨e, w', rfl⟩
    | ok a => exact Or.inr ⟨a, w', rfl⟩

/-- A run that ends somehow ends in some world. -/
theorem exists_of_fst {x : Run σ α} {r : Except Failure α} (h : (x settings w).1 = r) : ∃ w', x settings w = (r, w') :=
  ⟨_, Prod.ext h rfl⟩

/-- A sequence whose first step gives a result goes on with it, in the world that the step left. -/
theorem bind_of_ok {x : Run σ α} {f : α → Run σ β} {a : α} (h : x settings w = (.ok a, w')) :
    (x >>= f) settings w = f a settings w' := by
  show (ExceptT.bindCont (fun a => f a settings) (x settings w).1) (x settings w).2 = _
  rw [h]
  rfl

/-- A sequence whose first step stops stops there. -/
theorem bind_of_error {x : Run σ α} {f : α → Run σ β} {e : Failure}
    (h : x settings w = (.error e, w')) : (x >>= f) settings w = (.error e, w') := by
  show (ExceptT.bindCont (fun a => f a settings) (x settings w).1) (x settings w).2 = _
  rw [h]
  rfl

/-- A sequence gives a result iff its first step does and the others do from where that step ended. -/
theorem bind_eq_ok {x : Run σ α} {f : α → Run σ β} {b : β} {w'' : World σ} :
    (x >>= f) settings w = (.ok b, w'') ↔
      ∃ a w', x settings w = (.ok a, w') ∧ f a settings w' = (.ok b, w'') := by
  constructor
  · intro h
    cases hx : x settings w with
    | mk r w' =>
      cases r with
      | error e =>
        rw [bind_of_error hx] at h
        cases h
      | ok a =>
        rw [bind_of_ok hx] at h
        exact ⟨a, w', rfl, h⟩
  · rintro ⟨a, w', hx, h⟩
    rw [bind_of_ok hx, h]

/-- What follows a step depends on nothing but how the step ended. -/
theorem bind_congr {x y : Run σ α} (f : α → Run σ β) (h : x settings w = y settings w') :
    (x >>= f) settings w = (y >>= f) settings w' := by
  cases hy : y settings w' with
  | mk r w'' =>
    rw [hy] at h
    cases r with
    | ok a => rw [bind_of_ok h, bind_of_ok hy]
    | error e => rw [bind_of_error h, bind_of_error hy]

/-- A result leaves the world as it is. -/
theorem pure_run (a : α) : (pure a : Run σ α) settings w = (.ok a, w) := rfl

/-- A check made during a run leaves the world as it is. -/
theorem check_run (c : Check α) : (liftM c : Run σ α) settings w = (c settings, w) := rfl

/-- A check made during a run gives what it gives alone. -/
theorem check_eq_ok {c : Check α} {a : α} :
    (liftM c : Run σ α) settings w = (.ok a, w') ↔ w' = w ∧ c settings = .ok a := by
  rw [check_run]
  constructor
  · intro h
    obtain ⟨hc, hw⟩ := Prod.mk.inj h
    exact ⟨hw.symm, hc⟩
  · rintro ⟨rfl, hc⟩
    rw [hc]

/-- A run that gives a result raises no fault. -/
theorem ne_fault_of_ok {x : Run σ α} {a : α} (h : x settings w = (.ok a, w')) (f : Fault)
    (w'' : World σ) : x settings w ≠ (.error (.fault f), w'') := by
  intro hfault
  rw [h] at hfault
  exact absurd (Prod.mk.inj hfault).1 (by simp)

/-- The outcome of a run that gives a value is the value. -/
theorem outcome_of_ok {x : Run σ Value} {v : Value} (h : x settings w = (.ok v, w')) :
    outcome x settings w = (.ok v, w') := by
  have hattempt : x.attempt settings w = (.ok (.ok v), w') := by
    rw [attempt, h]
  rw [outcome, bind_of_ok hattempt]
  rfl

/-- The outcome of a run that stops with a story error is that error, as a value. -/
theorem outcome_of_story {x : Run σ Value} {e : StoryError}
    (h : x settings w = (.error (.story e), w')) :
    outcome x settings w = (.ok (.error e), w') := by
  have hattempt : x.attempt settings w = (.ok (.error e), w') := by
    rw [attempt, h]
  rw [outcome, bind_of_ok hattempt]
  rfl

/-- There is no outcome of a run that stops with a fault: the fault goes on. -/
theorem outcome_of_fault {x : Run σ Value} {f : Fault} (h : x settings w = (.error (.fault f), w')) :
    outcome x settings w = (.error (.fault f), w') := by
  have hattempt : x.attempt settings w = (.error (.fault f), w') := by
    rw [attempt, h]
  exact bind_of_error hattempt

/-- So a result as a value is the result, or an error. -/
theorem of_outcome {x : Run σ Value} {v : Value} (h : outcome x settings w = (.ok v, w')) :
    x settings w = (.ok v, w') ∨ ∃ e, v = .error e := by
  rcases stops_or_gives x settings w with ⟨failure, w'', hstops⟩ | ⟨a, w'', hok⟩
  · cases failure with
    | story e => exact Or.inr ⟨e, (Except.ok.inj (Prod.mk.inj ((outcome_of_story hstops).symm.trans h)).1).symm⟩
    | fault f => exact nomatch (Prod.mk.inj ((outcome_of_fault hstops).symm.trans h)).1
  · have hsame : (Except.ok a, w'') = (Except.ok v, w') := (outcome_of_ok hok).symm.trans h
    exact Or.inl (hok.trans hsame)

/-- A result as a value goes on from the result of a first step. -/
theorem outcome_bind_of_ok {x : Run σ α} {f : α → Run σ Value} {a : α}
    (h : x settings w = (.ok a, w')) :
    outcome (x >>= f) settings w = outcome (f a) settings w' := by
  have hattempt : (x >>= f).attempt settings w = (f a).attempt settings w' := by
    rw [attempt, attempt, bind_of_ok h]
  exact bind_congr _ hattempt

end Run

end StoryValues
