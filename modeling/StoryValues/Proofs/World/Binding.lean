import StoryValues.Proofs.Run
import StoryValues.Proofs.Value.Copying
import StoryValues.World.Variables

/-
  BINDING ONE NAME in one scope.

  1. **What a scope says of a name** is the value bound to it there and what it is restricted to there
     (`World.binding?`, `World.restriction?`).
  2. **When a name is bound** (`Run.checkBinding_eq_ok`): the value has no errors, nothing unstorable is found
     in it, and the restriction accepts it.
  3. **What a binding does** (`Run.setVar_cases`): nothing at all if that check stops, and else it gives the one
     name in the one scope a copy of the value (`World.bind`), and leaves every other binding, all restrictions
     and the tree of scopes as they are.
-/

namespace StoryValues

variable {σ : Type} {settings : Settings}

/-! ## Scopes -/

namespace Scope

/-- Changing the value of a name changes what is found under it, if anything is; it is changed where it is, and the
order of names stays. -/
theorem lookup_replaced (bindings : List (String × Value)) (key k : String) (v : Value) :
    (bindings.map fun (name, old) => if name = key then (name, v) else (name, old)).lookup k =
      (bindings.lookup k).map fun old => if k = key then v else old := by
  induction bindings with
  | nil => rfl
  | cons b rest ih =>
    obtain ⟨name, old⟩ := b
    have hhead : (if name = key then (name, v) else (name, old)) = (name, if name = key then v else old) := by
      split <;> rfl
    rw [List.map_cons]
    show List.lookup k ((if name = key then (name, v) else (name, old)) :: _) = _
    rw [hhead, List.lookup_cons, List.lookup_cons, ih]
    cases hk : k == name with
    | true =>
      obtain rfl := beq_iff_eq.mp hk
      rfl
    | false => rfl

/-- **Binding a name** changes what is found under that name only. -/
theorem lookup_bind (s : Scope) (key k : String) (v : Value) :
    (s.bind key v).bindings.lookup k = if k = key then some v else s.bindings.lookup k := by
  by_cases hbound : (s.bindings.lookup key).isSome = true
  · rw [bind, if_pos hbound, lookup_replaced]
    by_cases hk : k = key
    · subst hk
      obtain ⟨old, hold⟩ := Option.isSome_iff_exists.mp hbound
      rw [hold, if_pos rfl, Option.map_some, if_pos rfl]
    · simp only [if_neg hk, Option.map_id']
  · have hnone : s.bindings.lookup key = none := by
      rwa [Option.not_isSome_iff_eq_none] at hbound
    rw [bind, if_neg hbound, List.lookup_append, List.lookup_cons, List.lookup_nil]
    by_cases hk : k = key
    · subst hk
      rw [hnone, if_pos rfl, beq_self_eq_true]
      rfl
    · rw [if_neg hk, beq_false_of_ne hk, Option.or_none]

end Scope

/-! ## Worlds -/

namespace World

/-- The value that is bound to a name in a scope itself. -/
def binding? (w : World σ) (id : Nat) (key : String) : Option Value :=
  (w.scope? id).bind fun s => s.bindings.lookup key

/-- What a name is restricted to in a scope. -/
def restriction? (w : World σ) (id : Nat) (key : String) : Option Datatype :=
  (w.scope? id).bind fun s => s.types.lookup key

/-- The world with a name bound to a copy of a value in a scope. -/
def bind (w : World σ) (id : Nat) (key : String) (v : Value) : World σ :=
  let (copy, next) := v.clone.adopt w.fresh
  ({ w with fresh := next }).modifyScope id fun s => s.bind key copy

/-- The world with a name restricted in a scope. -/
def restrict (w : World σ) (id : Nat) (key : String) (d : Datatype) : World σ :=
  w.modifyScope id fun s => s.restrict key d

variable {w : World σ} {id i : Nat} {key k : String} {v : Value} {d : Datatype}

/-- A scope is changed, and no other one is. -/
theorem scope?_modifyScope (w : World σ) (id i : Nat) (f : Scope → Scope) :
    (w.modifyScope id f).scope? i = (w.scope? i).map fun s => if id = i then f s else s :=
  List.getElem?_modify f id w.scopes i

/-- **A name is bound to a copy** where it is bound, and all else is bound as before. -/
theorem binding?_bind (w : World σ) (id : Nat) (key : String) (v : Value) (i : Nat) (k : String) :
    (w.bind id key v).binding? i k =
      if id = i ∧ k = key then (w.scope? i).map fun _ => (v.clone.adopt w.fresh).1 else w.binding? i k := by
  rw [binding?, bind, scope?_modifyScope]
  show ((w.scope? i).map _).bind _ = _
  rw [binding?]
  cases hscope : w.scope? i with
  | none => simp
  | some s =>
    simp only [Option.map_some, Option.bind_some]
    by_cases hid : id = i
    · rw [if_pos hid, Scope.lookup_bind]
      simp only [hid, true_and]
    · rw [if_neg hid, if_neg (fun h => hid h.1)]

/-- Binding a name changes no restriction, since values and restrictions of a scope are kept apart. -/
theorem restriction?_bind (w : World σ) (id : Nat) (key : String) (v : Value) (i : Nat) (k : String) :
    (w.bind id key v).restriction? i k = w.restriction? i k := by
  rw [restriction?, bind, scope?_modifyScope, restriction?]
  show ((w.scope? i).map _).bind _ = _
  cases w.scope? i with
  | none => rfl
  | some s =>
    simp only [Option.map_some, Option.bind_some]
    split <;> rfl

/-- Restricting a name changes no binding. -/
theorem binding?_restrict (w : World σ) (id : Nat) (key : String) (d : Datatype) (i : Nat) (k : String) :
    (w.restrict id key d).binding? i k = w.binding? i k := by
  rw [binding?, restrict, scope?_modifyScope, binding?]
  cases w.scope? i with
  | none => rfl
  | some s =>
    simp only [Option.map_some, Option.bind_some]
    split <;> rfl

/-- A name has the restriction that was put on it last, where it was put. -/
theorem restriction?_restrict (w : World σ) (id : Nat) (key : String) (d : Datatype) (i : Nat) (k : String) :
    (w.restrict id key d).restriction? i k =
      if id = i ∧ k = key then (w.scope? i).map fun _ => d else w.restriction? i k := by
  rw [restriction?, restrict, scope?_modifyScope, restriction?]
  cases w.scope? i with
  | none => simp
  | some s =>
    simp only [Option.map_some, Option.bind_some]
    by_cases hid : id = i
    · rw [if_pos hid, Scope.restrict, List.lookup_cons]
      by_cases hk : k = key
      · rw [if_pos ⟨hid, hk⟩, hk, beq_self_eq_true]
      · rw [if_neg (fun h => hk h.2), beq_false_of_ne hk]
    · rw [if_neg hid, if_neg (fun h => hid h.1)]

/-- A scope keeps its name and its place in the tree when names are bound and restricted in it.  So it is looked for
outward along the same scopes afterwards. -/
theorem outline_bind (w : World σ) (id : Nat) (key : String) (v : Value) (i : Nat) :
    ((w.bind id key v).scope? i).map (fun s => (s.name, s.parent)) =
      (w.scope? i).map fun s => (s.name, s.parent) := by
  rw [bind, scope?_modifyScope, Option.map_map]
  refine Option.map_congr fun s _ => ?_
  show (fun s : Scope => (s.name, s.parent)) (if id = i then _ else s) = _
  split <;> rfl

/-- So it does when a name is restricted in it. -/
theorem outline_restrict (w : World σ) (id : Nat) (key : String) (d : Datatype) (i : Nat) :
    ((w.restrict id key d).scope? i).map (fun s => (s.name, s.parent)) =
      (w.scope? i).map fun s => (s.name, s.parent) := by
  rw [restrict, scope?_modifyScope, Option.map_map]
  refine Option.map_congr fun s _ => ?_
  show (fun s : Scope => (s.name, s.parent)) (if id = i then _ else s) = _
  split <;> rfl

end World

/-! ## Setting a variable -/

namespace Run

variable {w : World σ} {id : Nat} {key : String} {v : Value} {restriction : Option Datatype} {u : Unit}

/-- **What may be bound to a name:** a value without errors, in which nothing unstorable is found, and which
the restriction accepts if there is one. -/
theorem checkBinding_eq_ok :
    checkBinding key restriction v settings = .ok u ↔
      v.ErrorFree ∧ v.unstorable? = .ok none ∧ ∀ d, restriction = some d → d.accepts v settings = .ok true := by
  rw [checkBinding.eq_def]
  rcases v.errorFree_or_firstError with hfree | ⟨e, hfirst⟩
  · rw [Check.bind_of_ok (Value.guardError_of_errorFree hfree), Check.bind_eq_ok]
    constructor
    · rintro ⟨found, hfound, h⟩
      have hsearch : v.unstorable? = .ok found := Check.lift_eq_ok.mp hfound
      cases found with
      | some bad =>
        obtain ⟨_, _, h⟩ := Check.bind_eq_ok.mp h
        obtain ⟨_, hfail, _⟩ := Check.bind_eq_ok.mp h
        exact absurd hfail Check.fail_ne_ok
      | none =>
        refine ⟨hfree, hsearch, fun d hd => ?_⟩
        subst hd
        obtain ⟨yes, haccepts, h⟩ := Check.bind_eq_ok.mp h
        cases yes with
        | true => exact haccepts
        | false => exact absurd h Check.fail_naming_ne_ok
    · rintro ⟨-, hsearch, haccepts⟩
      refine ⟨none, Check.lift_eq_ok.mpr hsearch, ?_⟩
      cases restriction with
      | none => rfl
      | some d => exact Check.bind_of_ok (haccepts d rfl)
  · rw [Check.bind_of_error (Value.guardError_of_firstError hfirst)]
    refine iff_of_false nofun fun h => ?_
    -- a value with an error in it stops the check at once
    have hnone := Value.firstError?_eq_none.mpr h.1
    rw [Value.firstError?_eq_some.mpr hfirst] at hnone
    exact nomatch hnone

/-- **Setting a variable** binds it if it may be bound to the value, and changes nothing otherwise. -/
theorem setVar_cases (settings : Settings) (w : World σ) (id : Nat) (key : String) (v : Value) :
    (checkBinding key (w.restriction? id key) v settings = .ok () ∧
      setVar id key v settings w = (.ok (), w.bind id key v)) ∨
    ∃ e, checkBinding key (w.restriction? id key) v settings = .error e ∧ setVar id key v settings w = (.error e, w) := by
  rw [setVar, bind_of_ok (show world settings w = (.ok w, w) from rfl)]
  cases hcheck : checkBinding key (w.restriction? id key) v settings with
  | ok u => exact Or.inl ⟨rfl, bind_of_ok (check_eq_ok.mpr ⟨rfl, hcheck⟩)⟩
  | error e => exact Or.inr ⟨e, rfl, bind_of_error (Prod.ext hcheck rfl)⟩

/-- Restricting a name always succeeds, even if what is bound to it would not be accepted. -/
theorem defineType_run (d : Datatype) : defineType id key d settings w = (.ok (), w.restrict id key d) := rfl

end Run

end StoryValues
