import StoryValues.Proofs.Macro.Call

/-
  THE LEAST NUMBER OF A REST ENTRY, and how much of it is enforced.

  A rest entry says how many values it asks for at least.  Dispatch looks at that number at one place
  only: where the arguments end before the first value for the rest entry.  So a call with some values
  for it, but too few, goes through.

  1. **When too few go through** (`arguments_pass_short_iff`): exactly when there is one at all, and
     nothing else is wrong.  A rest entry that asks for one value at most never gets too few.
  2. **When there is none**, where some are asked for, the call ends in an error of kind `datatype`
     (`Callee.checks_unmet`).
-/

namespace StoryValues

namespace Dispatch

variable {σ : Type} {settings : Settings} {w w' : World σ} {c : Callee}

namespace Callee

open Value (ErrorFree)

/-- Putting a signature in words is never a story error. -/
theorem signatureInfo_ne_story (e : StoryError) : c.signatureInfo settings ≠ .error (.story e) := by
  unfold signatureInfo
  split
  · exact Check.lift_ne_story _ e
  · exact Check.bind_ne_story (Check.lift_ne_story _)
      (fun _ => Check.bind_ne_story (Check.lift_ne_story _) fun _ => Check.lift_ne_story _) e

theorem info_ne_story {entry : Entry} (e : StoryError) : c.info entry settings ≠ .error (.story e) := by
  cases entry with
  | wrapped inner message => exact fun h => nomatch h
  | _ => exact signatureInfo_ne_story e

/-- A missing argument is an error of kind `datatype`, if it can be put in words. -/
theorem kind_of_missing {index : Nat} {entry : Entry} {e : StoryError}
    (h : c.missing (α := Unit) index entry settings = .error (.story e)) : e.kind = "datatype" := by
  rcases Check.bind_eq_error.mp h with h | ⟨info, _, h⟩
  · exact absurd h (info_ne_story e)
  · rcases Check.bind_eq_error.mp h with h | ⟨text, _, h⟩
    · exact absurd h (Check.lift_ne_story _ e)
    · exact Check.kind_of_failWith h

/-- **Where values fit but there is none for the rest entry,** and some are asked for, the checks end in
an error of kind `datatype`, unless one of them raises a fault. -/
theorem checks_unmet {values : List Value} {inner : Entry} {min : Int} (hrest : c.signature.rest = some (inner, min))
    (hmin : 0 < min) (hfree : ∀ v ∈ values, ErrorFree v) (hfits : c.signature.Fits settings values)
    (hnone : c.signature.surplus values = 0) :
    (∃ e w', c.checkFrom 0 c.signature.fixed values settings w = (.error (.story e), w') ∧ e.kind = "datatype") ∨
      ∃ f w', c.checkFrom 0 c.signature.fixed values settings w = (.error (.fault f), w') := by
  rcases checks_end c settings values w with ⟨hclear, -⟩ | ⟨i, stop, w', hclear, hstops, hrun⟩
  · obtain ⟨-, -, hsome⟩ := Signature.fits_of_clear hclear
    exact absurd (hsome inner min hrest hmin) (Nat.not_lt.mpr (Nat.le_of_eq hnone))
  · rw [hrun]
    rcases hstops.of_fits hclear hfree hfits with ⟨f, -, rfl⟩ | ⟨e, -, -, rfl⟩
    · exact .inr ⟨f, w', rfl⟩
    · obtain ⟨failure, hmissing⟩ := hstops.exists_failure
      rw [hmissing]
      cases failure with
      | story err => exact .inl ⟨err, w', rfl, kind_of_missing hmissing⟩
      | fault f => exact .inr ⟨f, w', rfl⟩

end Callee

/-- **Too few values for the rest entry go through** exactly when there is one at all and nothing else is
wrong with the call.  When there is none, though some are asked for, the call ends in an error of kind
`datatype`. -/
theorem arguments_pass_short_iff {inner : Entry} {min : Int} {args : List Value}
    (hrest : c.signature.rest = some (inner, min))
    (hquiet : ∀ f w', arguments c args settings w ≠ (.error (.fault f), w')) :
    (∀ passed, (∃ w', arguments c args settings w = (.ok passed, w')) ∧ c.signature.surplus passed < min ↔
      c.signature.Admits settings args passed ∧ 0 < c.signature.surplus passed ∧
        c.signature.surplus passed < min) ∧
    (∀ passed, c.signature.Admits settings args passed → c.signature.surplus passed = 0 → 0 < min →
      ∃ e w', arguments c args settings w = (.error (.story e), w') ∧ e.kind = "datatype") := by
  refine ⟨fun passed => ⟨?_, ?_⟩, ?_⟩
  · rintro ⟨⟨w', hpass⟩, hshort⟩
    obtain ⟨hadmits, hsome, _⟩ := arguments_ok hpass
    have hmin : 0 < min := by omega
    exact ⟨hadmits, hsome inner min hrest hmin, hshort⟩
  · -- one value is enough for the only check of the least number
    rintro ⟨hadmits, hpos, hshort⟩
    refine ⟨?_, hshort⟩
    rcases arguments_pass (w := w) hadmits (fun _ _ _ _ => hpos) with hpass | ⟨f, w', -, hfault⟩
    · exact ⟨_, hpass⟩
    · exact absurd hfault (hquiet f w')
  · intro passed hadmits hnone hmin
    have hrun := arguments_of_spread (c := c) (w := w) hadmits.errorFree hadmits.spread
    rcases Callee.checks_unmet (w := w) hrest hmin hadmits.passedErrorFree hadmits.fits hnone with
      ⟨e, w', hstory, hkind⟩ | ⟨f, w', hfault⟩
    · exact ⟨e, w', by rw [hrun, Run.bind_of_error hstory], hkind⟩
    · exact absurd (by rw [hrun, Run.bind_of_error hfault]) (hquiet f w')

/-- Two numbers at least. -/
def twoNumbers : Signature := ⟨[], some (.number, 2)⟩

/-- Where two numbers are asked for, one goes through. -/
theorem one_of_two_passes :
    arguments ⟨"total", twoNumbers⟩ [.number (.int 1)] Settings.usual
        (World.start [] ()) =
      (.ok [.number (.int 1)], (World.start [] ()).noted "DISPATCH total argc 1") ∧
    twoNumbers.rest = some (.number, 2) ∧ (twoNumbers.surplus [.number (.int 1)] : Int) < 2 :=
  ⟨rfl, rfl, by decide⟩

/-- It goes through because it is one, and a number. -/
theorem one_of_two_admitted :
    twoNumbers.rest = some (.number, 2) ∧
      (∀ f w', arguments ⟨"total", twoNumbers⟩ [.number (.int 1)] Settings.usual
        (World.start [] ()) ≠ (.error (.fault f), w')) ∧
      twoNumbers.Admits Settings.usual [.number (.int 1)] [.number (.int 1)] ∧
      0 < twoNumbers.surplus [.number (.int 1)] ∧ (twoNumbers.surplus [.number (.int 1)] : Int) < 2 := by
  have hrun : arguments ⟨"total", twoNumbers⟩ [.number (.int 1)] Settings.usual
      (World.start [] ()) =
        (.ok [.number (.int 1)], (World.start [] ()).noted "DISPATCH total argc 1") := rfl
  have hquiet := Run.ne_fault_of_ok hrun
  have hshort := (arguments_pass_short_iff (c := ⟨"total", twoNumbers⟩) rfl hquiet).1 [.number (.int 1)]
  exact ⟨rfl, hquiet, hshort.mp ⟨⟨_, hrun⟩, by decide⟩⟩

end Dispatch

end StoryValues
