import StoryValues.Proofs.Value.Sound
import StoryValues.Proofs.World.Binding
import StoryValues.World.Patterns

/-
  RUNS WITHOUT FAULTS.  From a given world a run ends well (`Run.EndsWell`) if it gives a result that has some
  property together with the world that it leaves, or stops with a story error.

  Few steps look at the world that others have left, so mostly it is enough that a run ends well from wherever it
  starts, with a result of some kind (`Run.Faultless`).  Binding a variable is the exception: it asks the datatype
  that the scope restricts the name to, which must be a sound one (`World.AsksSound`).
-/

namespace StoryValues

variable {σ α β : Type} {settings : Settings} {w w' : World σ}

namespace Run

/-- From this world the run gives a result with this property, or stops with a story error. -/
def EndsWell (settings : Settings) (w : World σ) (x : Run σ α) (post : α → World σ → Prop) : Prop :=
  match x settings w with
  | (.ok a, w') => post a w'
  | (.error e, _) => e.IsStory

/-- From any world the run gives a result of this kind, or stops with a story error. -/
def Faultless (settings : Settings) (x : Run σ α) (P : α → Prop) : Prop :=
  ∀ w : World σ, EndsWell settings w x fun a _ => P a

namespace EndsWell

variable {x : Run σ α} {mid post : α → World σ → Prop}

/-- A run that gives a result with the property ends well. -/
theorem of_ok {a : α} (h : x settings w = (.ok a, w')) (hpost : post a w') : EndsWell settings w x post := by
  rw [EndsWell, h]
  exact hpost

/-- And so does one that stops with a story error, whatever the property is. -/
theorem of_story {e : StoryError} (h : x settings w = (.error (.story e), w')) : EndsWell settings w x post := by
  rw [EndsWell, h]
  exact ⟨e, rfl⟩

/-- What is asked of a result can be less. -/
theorem mono (h : EndsWell settings w x mid) (hpost : ∀ a w', mid a w' → post a w') :
    EndsWell settings w x post := by
  rw [EndsWell] at h ⊢
  split
  · rename_i heq
    rw [heq] at h
    exact hpost _ _ h
  · rename_i heq
    rw [heq] at h
    exact h

/-- What a run ends with is what it gives, so properties of the result may speak of the run itself. -/
theorem with_run (h : EndsWell settings w x post) :
    EndsWell settings w x fun a w' => post a w' ∧ x settings w = (.ok a, w') := by
  rw [EndsWell] at h ⊢
  cases hrun : x settings w with
  | mk r w' =>
    rw [hrun] at h
    cases r with
    | ok a => exact ⟨h, rfl⟩
    | error e => exact h

/-- A run after another ends well if it does so from wherever the first one leads. -/
theorem bind {f : α → Run σ β} {post : β → World σ → Prop} (hx : EndsWell settings w x mid)
    (hf : ∀ a w', mid a w' → EndsWell settings w' (f a) post) : EndsWell settings w (x >>= f) post := by
  rw [EndsWell] at hx
  cases hrun : x settings w with
  | mk r w' =>
    rw [hrun] at hx
    cases r with
    | ok a =>
      rw [EndsWell, bind_of_ok hrun]
      exact hf a w' hx
    | error e =>
      rw [EndsWell, bind_of_error hrun]
      exact hx

/-- A check made during a run leaves the world as it is, so what holds of the world before holds after it. -/
theorem check {c : Check α} (hc : Check.Faultless settings c) (hpost : ∀ a, c settings = .ok a → post a w) :
    EndsWell settings w (liftM c : Run σ α) post := by
  rw [EndsWell, check_run]
  cases hrun : c settings with
  | ok a => exact hpost a hrun
  | error e => exact hc e hrun

/-- Setting a story error aside: the run gives something then, and there is a property only of a result. -/
theorem attempt (h : EndsWell settings w x post) :
    EndsWell settings w x.attempt fun r w' => ∀ a, r = .ok a → post a w' := by
  rw [EndsWell] at h
  rw [EndsWell, Run.attempt]
  split at h
  · rename_i a w' heq
    rw [heq]
    rintro _ ⟨⟩
    exact h
  · rename_i e w' heq
    obtain ⟨s, rfl⟩ := h
    rw [heq]
    intro a ha
    cases ha

/-- What ends well comes to a value, be it a story error.  This is the form in which calls are said to answer. -/
theorem exists_outcome {x : Run σ Value} {post : Value → World σ → Prop} (h : EndsWell settings w x post) :
    ∃ v w', outcome x settings w = (.ok v, w') ∧ (post v w' ∨ ∃ e, v = .error e) := by
  rw [EndsWell] at h
  split at h
  · rename_i v w' heq
    have hattempt : x.attempt settings w = (.ok (.ok v), w') := by rw [Run.attempt, heq]
    exact ⟨v, w', by rw [outcome, bind_of_ok hattempt]; rfl, Or.inl h⟩
  · rename_i e w' heq
    obtain ⟨s, rfl⟩ := h
    exact ⟨.error s, w', outcome_of_story heq, Or.inr ⟨s, rfl⟩⟩

end EndsWell

namespace Faultless

variable {x : Run σ α} {P Q : α → Prop}

/-- A result is given. -/
theorem pure {a : α} (h : P a) : Faultless settings (Pure.pure a : Run σ α) P := fun _ => .of_ok rfl h

/-- What is asked of a result can be less, here too. -/
theorem mono (h : Faultless settings x P) (hPQ : ∀ a, P a → Q a) : Faultless settings x Q :=
  fun w => (h w).mono fun a _ => hPQ a

/-- A sequence ends well if its steps do, each from what the ones before it gave.  Worlds in between need not be
spoken of. -/
theorem bind {f : α → Run σ β} {Q : β → Prop} (hx : Faultless settings x P)
    (hf : ∀ a, P a → Faultless settings (f a) Q) : Faultless settings (x >>= f) Q :=
  fun w => (hx w).bind fun a w' ha => hf a ha w'

/-- A check made during a run, with what its result is known to be. -/
theorem check {c : Check α} (hc : Check.Faultless settings c) (h : ∀ a, c settings = .ok a → P a) :
    Faultless settings (liftM c : Run σ α) P := fun _ => .check hc h

/-- A check whose result does not matter. -/
theorem checked {c : Check α} (hc : Check.Faultless settings c) :
    Faultless settings (liftM c : Run σ α) fun _ => True := .check hc fun _ _ => trivial

/-- A check that always gives something does so during a run. -/
theorem gives {c : Check α} (h : Check.Gives settings c P) : Faultless settings (liftM c : Run σ α) P := by
  obtain ⟨a, hrun, ha⟩ := h
  refine .check (.of_ok hrun) fun a' hrun' => ?_
  obtain rfl := Except.ok.inj (hrun.symm.trans hrun')
  exact ha

/-- A check that never passes is followed by nothing, so anything holds of its result. -/
theorem refuses {c : Check α} (hc : Check.Faultless settings c) (hne : ∀ a, c settings ≠ .ok a) :
    Faultless settings (liftM c : Run σ α) P := .check hc fun a ha => absurd ha (hne a)

/-- A notice is always written. -/
theorem notice (line : String) : Faultless settings (Run.notice line : Run σ Unit) fun _ => True :=
  fun _ => .of_ok rfl trivial

/-- So are several. -/
theorem notices (names : List String) :
    Faultless settings (Run.patternNotices names : Run σ Unit) fun _ => True := by
  unfold patternNotices
  induction names with
  | nil => exact .pure trivial
  | cons name names ih => exact (notice _).bind fun _ _ => ih

/-- Asking for the fields of the latest frame always gives some. -/
theorem inherited : Faultless settings (Run.inherited : Run σ (List (String × Value))) fun _ => True := by
  have htop : Faultless settings (topFrame? : Run σ (Option Frame)) fun _ => True := fun w => .of_ok rfl trivial
  refine htop.bind fun top _ => ?_
  cases top <;> exact .pure trivial

/-- The world takes a value in with tags of its own.  What is to hold of the value must hold whatever they are. -/
theorem adopt {v : Value} {P : Value → Prop} (h : ∀ next, P (v.adopt next).1) :
    Faultless settings (Run.adopt v : Run σ Value) P := fun w => .of_ok rfl (h w.fresh)

/-- Running code inside a frame ends as the code does, with the frame gone. -/
theorem withFrame {f : Frame} {body : Run σ α} (h : Faultless settings body P) :
    Faultless settings (Run.withFrame f body) P := by
  intro w
  have hbody := h { w with frames := f :: w.frames }
  rw [EndsWell] at hbody ⊢
  unfold Run.withFrame
  cases hrun : body settings { w with frames := f :: w.frames } with
  | mk r w' =>
    rw [hrun] at hbody
    cases r with
    | ok a => exact hbody
    | error e => exact hbody

end Faultless

end Run

/-! ## Variables -/

namespace Run

variable (hsettings : settings.catalogue = Catalogue.bundled) {id : Nat} {key : String} {v : Value}
include hsettings

end Run

end StoryValues
