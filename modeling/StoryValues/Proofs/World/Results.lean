import StoryValues.Proofs.Run

/-
  WHAT CHECKS AND RUNS GIVE.  They may stop, and then they give nothing; `Check.Yields` and `Run.Yields` say what holds
  of a result whenever there is one, for a run wherever it starts.  A sequence hands on what its first step yields, so a
  property of results is followed step by step, and a step that only refuses needs no more than to be named.
-/

namespace StoryValues

namespace Check

variable {α β : Type} {settings : Settings}

/-- Whatever a check gives has a property. -/
def Yields (settings : Settings) (c : Check α) (P : α → Prop) : Prop := ∀ a, c settings = .ok a → P a

namespace Yields

variable {c : Check α} {f : α → Check β} {P : α → Prop} {R : β → Prop}

/-- Nothing is said of a result. -/
theorem any (c : Check α) : Yields settings c fun _ => True := fun _ _ => trivial

theorem pure {a : α} (h : P a) : Yields settings (Pure.pure a) P := by
  intro a' hrun
  obtain rfl := Except.ok.inj hrun
  exact h

/-- A sequence yields what its second step does, for what the first one yields. -/
theorem bind (hc : Yields settings c P) (hf : ∀ a, P a → Yields settings (f a) R) : Yields settings (c >>= f) R := by
  intro b hrun
  obtain ⟨a, ha, hb⟩ := bind_eq_ok.mp hrun
  exact hf a (hc a ha) b hb

/-- A story error yields nothing, hence anything. -/
theorem fail {kind message : String} : Yields settings (Check.fail kind message) P :=
  fun _ hrun => absurd hrun fail_ne_ok

/-- Stopping with an error that brings its own explanation gives nothing, so whatever it gives has any property. -/
theorem failWith {kind message explanation : String} : Yields settings (Check.failWith kind message explanation) P :=
  fun _ hrun => absurd hrun failWith_ne_ok

/-- Stopping with a fault gives nothing either. -/
theorem fault {f : Fault} : Yields settings (Check.fault f) P := fun _ hrun => nomatch hrun

/-- Nothing comes after a refusal. -/
theorem refuses {refusal : Check α} (h : Yields settings refusal fun _ => False) : Yields settings (refusal >>= f) R :=
  h.bind fun _ hfalse => hfalse.elim

/-- A refusal in front of other checks: where it is made nothing is given, and where not the other checks decide. -/
theorem refusing {p : Prop} [Decidable p] {refusal : Check Unit} (hrefuses : Yields settings refusal fun _ => False)
    (h : Yields settings c P) : Yields settings (if p then refusal >>= fun _ => c else c) P := by
  split
  · exact hrefuses.refuses
  · exact h

/-- A refusal that has to name a value gives nothing either, whether the value can be named or not. -/
theorem naming {name : Check β} {refusal : β → Check α} (h : ∀ text, Yields settings (refusal text) P) :
    Yields settings (name >>= refusal) P := (any name).bind fun text _ => h text

/-- What is computed in a check is its result. -/
theorem lift {r : Except Fault α} (h : ∀ a, r = .ok a → P a) : Yields settings (Check.lift r) P :=
  fun a hrun => h a (lift_eq_ok.mp hrun)

end Yields

end Check

namespace Run

variable {σ α β : Type} {settings : Settings}

/-- Whatever a run gives, in any world, has a property. -/
def Yields (settings : Settings) (x : Run σ α) (P : α → Prop) : Prop :=
  ∀ w a w', x settings w = (.ok a, w') → P a

namespace Yields

variable {x : Run σ α} {f : α → Run σ β} {P Q : α → Prop} {R : β → Prop}

/-- What is said of a result can be less. -/
theorem mono (h : Yields settings x P) (hPQ : ∀ a, P a → Q a) : Yields settings x Q :=
  fun w a w' hrun => hPQ a (h w a w' hrun)

/-- Nothing is said of a result. -/
theorem any (x : Run σ α) : Yields settings x fun _ => True := fun _ _ _ _ => trivial

theorem pure {a : α} (h : P a) : Yields settings (Pure.pure a : Run σ α) P := by
  intro w a' w' hrun
  obtain rfl := Except.ok.inj (Prod.mk.inj hrun).1
  exact h

/-- A sequence of runs yields what its second step does, wherever that one starts. -/
theorem bind (hx : Yields settings x P) (hf : ∀ a, P a → Yields settings (f a) R) :
    Yields settings (x >>= f) R := by
  intro w b w' hrun
  obtain ⟨a, w₁, ha, hb⟩ := bind_eq_ok.mp hrun
  exact hf a (hx w a w₁ ha) w₁ b w' hb

/-- A check made during a run yields what it does alone. -/
theorem check {c : Check α} (h : Check.Yields settings c P) : Yields settings (liftM c : Run σ α) P := by
  intro w a w' hrun
  exact h a (check_eq_ok.mp hrun).2

/-- A result as a value is what the run gives, or a story error; so the property must hold of errors, too. -/
theorem outcome {x : Run σ Value} {P : Value → Prop} (h : Yields settings x P) (herror : ∀ e, P (.error e)) :
    Yields settings (outcome x) P := by
  have hattempt : Yields settings x.attempt fun r => ∀ v, r = .ok v → P v := by
    intro w r w' hrun v hv
    rw [attempt] at hrun
    cases hx : x settings w with
    | mk result w₁ =>
      rw [hx] at hrun
      cases result with
      | ok u =>
        obtain rfl := Except.ok.inj ((Except.ok.inj (Prod.mk.inj hrun).1).trans hv)
        exact h w u w₁ hx
      | error failure => cases failure <;> cases hv ▸ (Prod.mk.inj hrun).1
  refine hattempt.bind fun r hr => ?_
  cases r with
  | ok v => exact .pure (hr v rfl)
  | error e => exact .pure (herror e)

/-- Getting tags: what is said of the value must hold whatever they are. -/
theorem adopt {v : Value} {P : Value → Prop} (h : ∀ next, P (v.adopt next).1) :
    Yields settings (adopt v : Run σ Value) P := by
  intro w a w' hrun
  obtain rfl := Except.ok.inj (Prod.mk.inj hrun).1
  exact h w.fresh

end Yields

end Run

end StoryValues
