import StoryValues.Macro.Call
import StoryValues.Proofs.Lambda.Confined
import StoryValues.Proofs.Macro.Registration

/-
  MACROS KEEP TO SCOPES OF THEIR OWN.

  1. **Dispatch** writes notices and nothing else.
  2. **Macros of the standard library** run code of a host in the clauses of lambdas only.  None of them
     is code of the host itself, or has a check that is (`Registry.unhosted_standard`), so none runs
     anything inside the caller's frame.
  3. **Custom macros** bind their parameters in a new scope, and run their bodies inside a frame with it.
-/

namespace StoryValues

variable {σ : Type} {host : Host σ} {n : Nat} {fs : List Frame}

open Run (Confined)

/-! ## Dispatch -/

namespace Dispatch.Callee

variable (c : Callee)

/-- Stopping at a place writes a notice, and then an error is what comes of it. -/
theorem confined_failAt (index : Nat) (failure : Check Unit) :
    Confined n fs (c.failAt index failure : Run σ Unit) :=
  (Confined.notice _).bind fun _ => .check _

/-- Asking one entry about one value does nothing to scopes, whatever the answer is. -/
theorem confined_checkOne (index : Nat) (entry : Entry) (arg : Value) :
    Confined n fs (c.checkOne index entry arg : Run σ Unit) := by
  refine (Confined.check _).bind fun _ => (Confined.check _).bind fun accepted => ?_
  cases accepted with
  | true => exact .pure _
  | false => exact c.confined_failAt _ _

/-- Asking the entry for the rest about each value that is left, one after another. -/
theorem confined_checkRest (entry : Entry) :
    ∀ (args : List Value) (index : Nat), Confined n fs (c.checkRest entry index args : Run σ Unit)
  | [], _ => .pure _
  | arg :: args, index =>
    (c.confined_checkOne index entry arg).bind fun _ => confined_checkRest entry args (index + 1)

/-- Going through the entries, by recursion on them. -/
theorem confined_checkFrom :
    ∀ (entries : List Entry) (args : List Value) (index : Nat),
      Confined n fs (c.checkFrom index entries args : Run σ Unit)
  | [], args, index => by
    unfold checkFrom
    split
    · exact .pure _
    · exact (Confined.check _).bind fun _ => .check _
    · split
      · exact c.confined_failAt _ _
      · exact .pure _
    · exact c.confined_checkRest _ _ _
  | entry :: entries, [], index => by
    have hothers := confined_checkFrom entries [] (index + 1)
    dsimp only [checkFrom]
    split
    · exact (c.confined_failAt _ _).bind fun _ => hothers
    · exact hothers
  | entry :: entries, arg :: args, index =>
    (c.confined_checkOne index entry arg).bind fun _ => confined_checkFrom entries args (index + 1)

end Dispatch.Callee

/-- **Dispatch keeps to scopes of its own:** it has none, and spreading arguments touches none. -/
theorem Dispatch.confined_arguments (c : Dispatch.Callee) (args : List Value) :
    Confined n fs (Dispatch.arguments c args : Run σ (List Value)) :=
  (Confined.check _).bind fun _ => (Confined.check _).bind fun args =>
    (c.confined_checkFrom _ args 0).bind fun _ => (Confined.notice _).bind fun _ => .pure _

/-! ## Macros of the standard library -/

namespace StandardMacro

variable (hhost : host.Tidy) (l : Lambda)
include hhost

/-- Altering values applies the lambda to each, in a scope of its own each time. -/
theorem confined_alterFrom :
    ∀ (values : List Value) (pos : Nat), Confined n fs (alterFrom host l pos values)
  | [], _ => .pure _
  | _ :: values, pos =>
    (l.confined_applyOrStop hhost rfl).bind fun _ =>
      (confined_alterFrom values (pos + 1)).bind fun _ => .pure _

omit hhost in
/-- Making the entry that a lambda sees takes a tag for it, and no scope. -/
theorem confined_entryValue (name : Name) (v : Value) :
    Confined n fs (entryValue name v : Run σ Value) :=
  (Confined.check _).outcome.bind fun entry => .adopt entry

/-- Altering entries applies the lambda to each of them, by recursion on the entries. -/
theorem confined_alterEntries :
    ∀ (listed : List (Name × Value)) (entries : Datamap.Entries) (pos : Nat),
      Confined n fs (alterEntries host l entries pos listed)
  | [], _, _ => .pure _
  | (name, v) :: listed, entries, pos => by
    refine (confined_entryValue name v).bind fun entry => ?_
    refine (l.confined_applyOrStop hhost rfl).bind fun altered => ?_
    split
    · exact confined_alterEntries listed entries (pos + 1)
    · refine (Confined.check _).bind fun bad => ?_
      cases bad with
      | none => exact confined_alterEntries listed _ (pos + 1)
      | some bad =>
        exact (Confined.check _).bind fun _ => (Confined.check _).bind fun _ =>
          confined_alterEntries listed _ (pos + 1)

/-- Making keys applies the lambda to each value. -/
theorem confined_keysFrom :
    ∀ (values : List Value) (pos : Nat), Confined n fs (keysFrom host l pos values)
  | [], _ => .pure _
  | _ :: values, pos =>
    (l.confined_applyOrStop hhost rfl).bind fun _ =>
      (confined_keysFrom values (pos + 1)).bind fun _ => .pure _

omit l in
/-- Sorting applies a lambda, if there is one in front, to make the keys. -/
theorem confined_sortValues (args : List Value) : Confined n fs (sortValues host args) := by
  dsimp only [sortValues]
  split
  · next l values =>
    have hsorted : Confined n fs (keysFrom host l 1 values >>= fun keys => sortByKeys values keys) :=
      (confined_keysFrom hhost l values 1).bind fun _ => .check _
    split
    · exact (Confined.check _).bind fun _ => hsorted
    · exact hsorted
  · exact .check _

/-- Counting what passes filters with the lambda. -/
theorem confined_passing (test : Nat → Nat → Bool) (values : List Value) :
    Confined n fs (passing host test l values) :=
  (l.confined_filter hhost values).bind fun _ => .pure _

omit l in
/-- Whatever a standard macro is given, it keeps to scopes of its own.  The macros are gone through; those that
compute on values alone do so in no scope at all. -/
theorem confined_perform (m : StandardMacro) (args : List Value) :
    Confined n fs (m.perform host args) := by
  unfold perform
  split
  · next l values => exact (l.confined_filter hhost values).bind fun _ => .pure _
  · next l values => exact (confined_alterFrom hhost l values 1).bind fun _ => .pure _
  · next l tag entries =>
    exact (Confined.check _).bind fun ordered =>
      (confined_alterEntries hhost l ordered entries 1).bind fun _ => .pure _
  · exact confined_passing hhost _ _ _
  · exact confined_passing hhost _ _ _
  · exact confined_passing hhost _ _ _
  · next l values => exact l.confined_fold hhost values
  · exact confined_sortValues hhost args
  · exact .buildPattern _ _
  · exact .check _

end StandardMacro

/-! ## The registry -/

/-- Whether a macro does its work without code of the host, other than in lambdas that it is given. -/
def MacroBody.unhosted : MacroBody → Bool
  | .standard _ => true
  | .changer _ => true
  | .command _ check _ => check.isNone
  | .hosted _ => false

/-- A macro that is no code of the host keeps to scopes of its own, and so does a command. -/
theorem MacroBody.confined_perform (hhost : host.Tidy) :
    ∀ {body : MacroBody}, body.unhosted = true → ∀ args, Confined n fs (body.perform host args)
  | .standard m, _, args => m.confined_perform hhost args
  | .changer _, _, _ => .pure _
  | .command _ none _, _, _ => .pure _

namespace Registry

/-- No macro of a registry is code of the host. -/
def Unhosted (r : Registry) : Prop := ∀ entry ∈ r.macros, entry.2.body.unhosted = true

/-- A registry without code of the host still has none with another such macro. -/
theorem unhosted_including {r : Registry} {body : MacroBody} (hr : r.Unhosted)
    (hbody : body.unhosted = true) (names : List String) (entries : List Entry) (returns : Returns) :
    (r.including names body entries returns).Unhosted :=
  forall_including (P := fun m => m.body.unhosted = true) hr fun _ _ => hbody

/-- Freezing a registry leaves its macros as they are. -/
theorem unhosted_freeze {r : Registry} (hr : r.Unhosted) : r.freeze.Unhosted := hr

/-- No macro of the standard library is code of the host: they are gone through in the order in which they are
entered. -/
theorem unhosted_standard : standard.Unhosted := by
  refine unhosted_freeze ?_
  unfold install includingStandard
  repeat' with_reducible refine unhosted_including ?_ ?_ _ _ _
  · exact fun _ hentry => absurd hentry List.not_mem_nil
  all_goals rfl

/-- A macro that is found by a name in such a registry is no code of the host. -/
theorem unhosted_of_get? {r : Registry} (hr : r.Unhosted) {name : String} {m : Macro}
    (hget : r.get? name = some m) : m.body.unhosted = true :=
  hr _ (mem_of_get? hget)

/-- A call by name, whether there is such a macro or not, and whether it takes the arguments or not. -/
theorem confined_call (hhost : host.Tidy) {r : Registry} (hr : r.Unhosted) (name : String)
    (args : List Value) : Confined n fs (r.call host name args) := by
  refine Confined.bind (Confined.outcome ?_) fun answer => .adopt answer
  split
  · next m hget =>
    exact (Dispatch.confined_arguments _ args).bind fun args =>
      MacroBody.confined_perform hhost (unhosted_of_get? hr hget) args
  · exact (Confined.check _).bind fun _ => (Confined.check _).bind fun _ => .check _

end Registry

/-! ## Custom macros -/

namespace CustomMacro

/-- Binding parameters sets variables in the scope of the call, which is new.  By recursion on the parameters. -/
theorem confined_bindParams {scope : Nat} (hscope : n ≤ scope) :
    ∀ (params : List TypedVar) (args : List Value),
      Confined n fs (bindParams scope params args : Run σ Unit)
  | [], _ => .pure _
  | p :: ps, args => by
    have hothers := confined_bindParams hscope ps args.tail
    dsimp only [bindParams]
    split
    · exact (Confined.setVar hscope _ _).bind fun _ => hothers
    · split
      · exact hothers
      · exact hothers
      · exact (Confined.defineType hscope _ _).bind fun _ =>
          (Confined.setVar hscope _ _).bind fun _ => hothers

/-- A custom macro binds its parameters in a new scope and runs its body inside a frame with it.  However the body
ends, the frame is gone afterwards. -/
theorem confined_perform (hhost : host.Tidy) (m : CustomMacro) (args : List Value) :
    Confined n fs (m.perform host args) := by
  refine .newScope fun scope hscope => ?_
  refine (confined_bindParams hscope m.params args).bind fun _ => ?_
  refine Confined.inherited.bind fun ambient => Confined.bind (.withFrame ?_) fun output => .check _
  refine (hhost.body m.body).confined ?_
  rintro f ⟨⟩
  exact hscope

/-- A call of a value, whether it is a custom macro or not. -/
theorem confined_call (hhost : host.Tidy) (callee : Value) (args : List Value) :
    Confined n fs (call host callee args) := by
  refine Confined.bind (Confined.outcome ?_) fun answer => .adopt answer
  split
  · next m =>
    exact (Confined.check _).bind fun signature => (Dispatch.confined_arguments _ args).bind fun args =>
      confined_perform hhost m args
  · exact (Confined.check _).bind fun _ => (Confined.check _).bind fun _ => .check _

end CustomMacro

end StoryValues
