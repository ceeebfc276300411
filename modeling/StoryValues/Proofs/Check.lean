import Mathlib.Data.List.Forall2
import StoryValues.Error.Basic

/-
  CHECKS, one step at a time.  A check either gives a result or stops; a sequence of checks gives a
  result iff each of them does.  These lemmas take a sequence apart at its first step, so that a proof
  about an operation follows the order in which it makes its checks.
-/

namespace StoryValues

namespace Check

variable {α β : Type} {settings : Settings}

/-- A sequence gives a result iff its first step does and the others do with what that step gave. -/
theorem bind_eq_ok {x : Check α} {f : α → Check β} {b : β} :
    (x >>= f) settings = .ok b ↔ ∃ a, x settings = .ok a ∧ f a settings = .ok b := by
  show Except.bind (x settings) (fun a => f a settings) = .ok b ↔ _
  cases hx : x settings with
  | error e =>
    constructor
    · intro h
      exact absurd h (by simp [Except.bind])
    · rintro ⟨a, ha, _⟩
      exact absurd ha (by simp)
  | ok a =>
    constructor
    · intro h
      exact ⟨a, rfl, h⟩
    · rintro ⟨a', ha, h⟩
      rw [Except.ok.injEq] at ha
      exact ha ▸ h

/-- A sequence whose first step gives a result goes on with it. -/
theorem bind_of_ok {x : Check α} {f : α → Check β} {a : α} (h : x settings = .ok a) :
    (x >>= f) settings = f a settings := by
  show Except.bind (x settings) (fun a => f a settings) = _
  rw [h]
  rfl

/-- A sequence whose first step stops stops there. -/
theorem bind_of_error {x : Check α} {f : α → Check β} {e : Failure} (h : x settings = .error e) :
    (x >>= f) settings = .error e := by
  show Except.bind (x settings) (fun a => f a settings) = _
  rw [h]
  rfl

/-- A sequence stops where its first step does, or where the others do. -/
theorem bind_eq_error {x : Check α} {f : α → Check β} {e : Failure} :
    (x >>= f) settings = .error e ↔
      x settings = .error e ∨ ∃ a, x settings = .ok a ∧ f a settings = .error e := by
  cases hx : x settings with
  | ok a =>
    rw [bind_of_ok hx]
    constructor
    · intro h
      exact Or.inr ⟨a, rfl, h⟩
    · rintro (h | ⟨a', ha, h⟩)
      · exact nomatch h
      · rw [Except.ok.injEq] at ha
        exact ha ▸ h
  | error e' =>
    rw [bind_of_error hx]
    constructor
    · intro h
      exact Or.inl (congrArg Except.error (Except.error.inj h))
    · rintro (h | ⟨a', ha, h⟩)
      · exact congrArg Except.error (Except.error.inj h)
      · exact nomatch ha

/-- A result is given, whatever the settings. -/
theorem pure_run (a : α) : (pure a : Check α) settings = .ok a := rfl

/-- A result that was computed is the result of the check. -/
theorem lift_eq_ok {r : Except Fault α} {a : α} : Check.lift r settings = .ok a ↔ r = .ok a := by
  cases r with
  | ok b =>
    show Except.ok b = Except.ok a ↔ _
    rw [Except.ok.injEq, Except.ok.injEq]
  | error f =>
    show Except.error (Failure.fault f) = Except.ok a ↔ _
    exact ⟨fun h => absurd h (by simp), fun h => absurd h (by simp)⟩

/-- A story error is no result. -/
theorem fail_ne_ok {kind message : String} {a : α} :
    (Check.fail kind message : Check α) settings ≠ .ok a := by
  intro h
  obtain ⟨e, _, he⟩ := bind_eq_ok.mp h
  exact absurd he (by simp [story])

/-- Nor is one that brings its own explanation. -/
theorem failWith_ne_ok {kind message explanation : String} {a : α} :
    (Check.failWith kind message explanation : Check α) settings ≠ .ok a := by
  intro h
  obtain ⟨e, _, he⟩ := bind_eq_ok.mp h
  exact absurd he (by simp [story])

/-- Nor is one that speaks of a value: either the value can't be named, or there is the error. -/
theorem fail_naming_ne_ok {kind : String} {name : Check β} {message : β → String} {a : α} :
    (name >>= fun s => (Check.fail kind (message s) : Check α)) settings ≠ .ok a := by
  intro h
  obtain ⟨_, _, hfail⟩ := bind_eq_ok.mp h
  exact fail_ne_ok hfail

/-- A check gives a result once its story errors are set aside iff it gives that result. -/
theorem attempt_eq_ok {c : Check α} {a : α} : c.attempt settings = .ok (.ok a) ↔ c settings = .ok a := by
  unfold attempt
  cases c settings with
  | ok b => simp
  | error e => cases e <;> simp

/-- What is set aside is the story error that it stops with. -/
theorem attempt_eq_error {c : Check α} {e : StoryError} :
    c.attempt settings = .ok (.error e) ↔ c settings = .error (.story e) := by
  unfold attempt
  cases c settings with
  | ok b => simp
  | error e => cases e <;> simp

/-- Lifting a result gives no story error. -/
theorem lift_ne_story (r : Except Fault α) (e : StoryError) :
    Check.lift r settings ≠ .error (.story e) := by
  cases r with
  | ok a => exact fun h => nomatch h
  | error f =>
    intro h
    exact absurd h (by simp [lift, fault])

/-- Setting story errors aside leaves none. -/
theorem attempt_ne_story (c : Check α) (e : StoryError) :
    c.attempt settings ≠ .error (.story e) := by
  unfold attempt
  cases c settings with
  | ok a => simp
  | error e => cases e <;> simp

/-- A sequence of steps none of which is a story error is none. -/
theorem bind_ne_story {x : Check α} {f : α → Check β}
    (hx : ∀ e, x settings ≠ .error (.story e)) (hf : ∀ a e, f a settings ≠ .error (.story e))
    (e : StoryError) : (x >>= f) settings ≠ .error (.story e) := by
  intro h
  rcases bind_eq_error.mp h with h | ⟨a, _, h⟩
  · exact hx e h
  · exact hf a e h

/-- Making an error is never a story error itself; what it makes is of the kind that was asked for. -/
theorem kind_of_create {kind message : String} {explanation : Option String} {e : StoryError}
    (h : StoryError.create kind message explanation settings = .ok e) : e.kind = kind := by
  unfold StoryError.create at h
  split at h
  · exact nomatch h
  · split at h
    · exact nomatch h
    · exact (Except.ok.inj h) ▸ rfl

/-- Making an error gives it, or is a fault; it does not stop with one. -/
theorem create_ne_story {kind message : String} {explanation : Option String} (e : StoryError) :
    StoryError.create kind message explanation settings ≠ .error (.story e) := by
  unfold StoryError.create
  split
  · simp
  · split <;> simp

/-- An error is made wherever its kind is explained and there is something to say. -/
theorem exists_create {kind message : String} {explanation : Option String} (hmessage : message ≠ "")
    (hkind : (settings.catalogue.explanation? kind).isSome = true) :
    ∃ e, StoryError.create kind message explanation settings = .ok e ∧ e.kind = kind ∧
      e.message = if kind = "user" then message else Case.capitalise message := by
  have hexplained : ¬ (explanation.getD "" = "" ∧ (settings.catalogue.explanation? kind).isNone = true) := by
    rintro ⟨_, hnone⟩
    rw [Option.isNone_iff_eq_none.mp hnone] at hkind
    exact absurd hkind (by decide)
  rw [StoryError.create, if_neg hmessage, if_neg hexplained]
  exact ⟨_, rfl, rfl, rfl⟩

/-- To stop with an error of an explained kind is a story error of that kind. -/
theorem exists_fail {kind message : String} (hkind : (settings.catalogue.explanation? kind).isSome = true)
    (hmessage : message ≠ "") :
    ∃ e, e.kind = kind ∧ (Check.fail kind message : Check α) settings = .error (.story e) := by
  obtain ⟨e, he, hek, _⟩ := @exists_create settings _ _ none hmessage hkind
  exact ⟨e, hek, bind_of_ok he⟩

/-- The same for an error that brings its own explanation. -/
theorem exists_failWith {kind message explanation : String}
    (hkind : (settings.catalogue.explanation? kind).isSome = true) (hmessage : message ≠ "") :
    ∃ e, e.kind = kind ∧ (Check.failWith kind message explanation : Check α) settings = .error (.story e) := by
  obtain ⟨e, he, hek, _⟩ := @exists_create settings _ _ (some explanation) hmessage hkind
  exact ⟨e, hek, bind_of_ok he⟩

/-- An error that brings its own explanation is of the kind that was asked for. -/
theorem kind_of_failWith {kind message explanation : String} {e : StoryError}
    (h : (Check.failWith kind message explanation : Check α) settings = .error (.story e)) :
    e.kind = kind := by
  rcases bind_eq_error.mp h with h | ⟨e', he', h⟩
  · exact absurd h (create_ne_story e)
  · obtain rfl : e' = e := Failure.story.inj (Except.error.inj h)
    exact kind_of_create he'

/-- Checks made of the members of a list, one after another, give their results in order. -/
theorem mapM_eq_ok {check : α → Check β} {xs : List α} {ys : List β} :
    xs.mapM check settings = .ok ys ↔ List.Forall₂ (fun x y => check x settings = .ok y) xs ys := by
  induction xs generalizing ys with
  | nil =>
    rw [List.mapM_nil, pure_run, Except.ok.injEq]
    constructor
    · rintro rfl
      exact .nil
    · intro h
      cases h
      rfl
  | cons x xs ih =>
    rw [List.mapM_cons, bind_eq_ok]
    constructor
    · rintro ⟨y, hy, h⟩
      obtain ⟨rest, hrest, h⟩ := bind_eq_ok.mp h
      rw [pure_run, Except.ok.injEq] at h
      subst h
      exact .cons hy (ih.mp hrest)
    · intro h
      cases h with
      | cons hy hrest => exact ⟨_, hy, bind_eq_ok.mpr ⟨_, ih.mpr hrest, rfl⟩⟩

/-- A condition in front of the other checks holds whenever there is a result. -/
theorem of_ite_fail {p : Prop} [Decidable p] {kind message : String} {x : Unit → Check β} {b : β}
    (h : (if p then (Check.fail kind message : Check Unit) >>= x else x ()) settings = .ok b) :
    ¬ p ∧ x () settings = .ok b := by
  by_cases hp : p
  · rw [if_pos hp] at h
    obtain ⟨_, ha, _⟩ := bind_eq_ok.mp h
    exact absurd ha fail_ne_ok
  · rw [if_neg hp] at h
    exact ⟨hp, h⟩

/-- The same where the story error speaks of a value, which has to be named first. -/
theorem of_ite_fail_naming {p : Prop} [Decidable p] {kind : String} {name : Check α} {message : α → String}
    {x : Unit → Check β} {b : β}
    (h : (if p then name >>= fun s => (Check.fail kind (message s) : Check Unit) >>= x else x ()) settings = .ok b) :
    ¬ p ∧ x () settings = .ok b := by
  by_cases hp : p
  · rw [if_pos hp] at h
    obtain ⟨_, _, h⟩ := bind_eq_ok.mp h
    obtain ⟨_, hfail, _⟩ := bind_eq_ok.mp h
    exact absurd hfail fail_ne_ok
  · rw [if_neg hp] at h
    exact ⟨hp, h⟩

/-- A check made of every member of a list passes iff it passes for each. -/
theorem forIn_eq_ok {check : α → Check Unit} {xs : List α} {u : PUnit} :
    (forIn xs PUnit.unit fun x _ => do check x; pure (ForInStep.yield PUnit.unit)) settings = .ok u ↔
      ∀ x ∈ xs, check x settings = .ok () := by
  induction xs with
  | nil =>
    constructor
    · intro _ x hx
      exact absurd hx List.not_mem_nil
    · intro _
      rfl
  | cons x xs ih =>
    rw [List.forIn_cons, bind_eq_ok]
    constructor
    · rintro ⟨step, hstep, hrest⟩ y hy
      obtain ⟨_, hx, hyield⟩ := bind_eq_ok.mp hstep
      rw [pure_run, Except.ok.injEq] at hyield
      subst hyield
      rcases List.mem_cons.mp hy with rfl | hy
      · exact hx
      · exact ih.mp hrest y hy
    · intro h
      refine ⟨.yield PUnit.unit, ?_, ih.mpr fun y hy => h y (List.mem_cons_of_mem x hy)⟩
      exact bind_eq_ok.mpr ⟨(), h x List.mem_cons_self, rfl⟩

end Check

end StoryValues
