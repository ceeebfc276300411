import StoryValues.Proofs.Lambda.Folding
import StoryValues.Proofs.Value.Errors
import StoryValues.Proofs.World.Results

/-
  WHAT LAMBDAS GIVE.  Whatever an application gives is what the host has evaluated its transform to, or one of the two
  values that it was told to give.  So if all that the transform is evaluated to has a property, which tags do not
  touch, and those two have it, then so has the result (`yields_apply`); and a fold of values with the property has it
  (`yields_fold`).  A filter gives some of its items, whatever the host does (`yields_filter`).
-/

namespace StoryValues

variable {σ α : Type} {settings : Settings} {host : Host σ} {P : Value → Prop}

open Run (Yields)

/-- What passes the check for errors is free of them, so loops go on with values that are. -/
theorem Value.yields_guardError (v : Value) :
    Check.Yields settings v.guardError fun _ => v.ErrorFree := by
  intro u h
  rcases v.errorFree_or_firstError with hfree | ⟨e, he⟩
  · exact hfree
  · cases h.symm.trans (guardError_of_firstError he)

namespace Lambda

variable {l : Lambda} {call : Call}

/-- Whatever the host evaluates the transform of a lambda to, in any world, has a property. -/
def TransformsTo (host : Host σ) (settings : Settings) (l : Lambda) (P : Value → Prop) : Prop :=
  ∀ text, l.via = some text → Yields settings (host.evaluate text) P

/-- That it is some value is said of anything that a transform is evaluated to. -/
theorem transformsTo_any : l.TransformsTo host settings fun _ => True := fun text _ => .any (host.evaluate text)

/-- What the transform is not always evaluated to, it is once not evaluated to.  In this form the failure of the
condition is a text, a world and a value. -/
theorem exists_of_not_transformsTo (h : ¬ l.TransformsTo host settings P) :
    ∃ text, l.via = some text ∧ ∃ w v w', host.evaluate text settings w = (.ok v, w') ∧ ¬ P v := by
  by_contra hnone
  exact h fun text hvia w v w' hrun => by_contra fun hv => hnone ⟨text, hvia, w, v, w', hrun, hv⟩

/-- What is given inside the frame of an application is given. -/
theorem yields_within {body : Run σ α} {Q : α → Prop} (h : Yields settings body Q) :
    Yields settings (within l call body) Q :=
  (Yields.any (frameFor l call)).bind fun _ _ _ a _ hrun => h _ a _ (Prod.ext (Prod.mk.inj hrun).1 rfl)

/-- A filter gives some of its items, whatever the host says of them.  By induction on the items. -/
theorem yields_filterFrom (items : List Value) (scope : Option Nat) (pos : Nat) :
    Yields settings (filterFrom host l scope pos items) fun kept => ∀ v ∈ kept, v ∈ items := by
  induction items generalizing pos with
  | nil => exact .pure fun _ hv => hv
  | cons item items ih =>
    refine (Yields.any _).bind fun passed _ => (ih (pos + 1)).bind fun rest hrest => .pure ?_
    have hothers : ∀ v ∈ rest, v ∈ item :: items := fun v hv => List.mem_cons_of_mem item (hrest v hv)
    split
    · exact List.forall_mem_cons.mpr ⟨List.mem_cons_self, hothers⟩
    · exact hothers

/-- A filter gives some of its items. -/
theorem yields_filter (items : List Value) (scope : Option Nat) :
    Yields settings (filter host l items scope) fun kept => ∀ v ∈ kept, v ∈ items :=
  yields_filterFrom items scope 1

section

variable (hvia : l.TransformsTo host settings P) (hadopt : ∀ v next, P v → P (v.adopt next).1)
include hvia hadopt

/-- What the transform is evaluated to has the property, tags aside. -/
theorem yields_evaluate {text : String} (htext : l.via = some text) : Yields settings (evaluate host text) P :=
  (hvia text htext).bind fun v hv => .adopt fun next => hadopt v next hv

/-- An answer is the value of the transform, or what the application was told to give when there is none, or when the
guard fails. -/
theorem yields_answer (hpass : P call.passValue) (hfail : P call.failValue) :
    Yields settings (answer host l call) P := by
  refine (Yields.any _).bind fun passed _ => ?_
  split
  · split
    · rename_i text htext
      split
      · exact .pure hpass
      · exact yields_evaluate hvia hadopt htext
    · exact .pure hpass
  · exact .pure hfail

/-- **What an application gives** is evaluated, or one of the two values that it was told to give. -/
theorem yields_apply (hpass : P call.passValue) (hfail : P call.failValue) : Yields settings (apply host l call) P := by
  rw [apply_eq_within]
  exact yields_within (yields_answer hvia hadopt hpass hfail)

/-- Where the application stops at errors, what it gives is free of them besides. -/
theorem yields_applyOrStop (hpass : P call.passValue) (hfail : P call.failValue) :
    Yields settings (applyOrStop host l call) fun v => P v ∧ v.ErrorFree :=
  (yields_apply hvia hadopt hpass hfail).bind fun v hv =>
    (Yields.check (Value.yields_guardError v)).bind fun _ hfree => .pure ⟨hv, hfree⟩

variable (htrue : P (.boolean true)) (hfiltered : P .filtered)
include htrue hfiltered

/-- A fold gives the total it started with or what the transform has made, by induction on the items. -/
theorem yields_foldFrom (items : List Value) {total : Value} (htotal : P total) (pos : Nat) :
    Yields settings (foldFrom host l total pos items) P := by
  induction items generalizing total pos with
  | nil => exact .pure htotal
  | cons item items ih =>
    refine (yields_applyOrStop hvia hadopt htrue hfiltered).bind fun result hresult => ih ?_ (pos + 1)
    split
    · exact htotal
    · exact hresult.1

/-- **What a fold gives** is an item, or what the transform has made of the items. -/
theorem yields_fold {items : List Value} (hitems : ∀ v ∈ items, P v) : Yields settings (fold host l items) P := by
  have hkept : Yields settings (kept host l items) fun kept => ∀ v ∈ kept, P v := by
    unfold kept
    split
    · exact (yields_filter items none).mono fun kept hmem v hv => hitems v (hmem v hv)
    · exact .pure hitems
  rw [fold_eq_kept]
  refine hkept.bind fun kept hkept => ?_
  cases kept with
  | nil => exact .check .fail
  | cons first rest =>
    exact yields_foldFrom hvia hadopt htrue hfiltered rest (hkept first List.mem_cons_self) 2

end

end Lambda

end StoryValues
