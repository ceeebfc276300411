import StoryValues.Value.Basic

/-
  ERRORS INSIDE ARRAYS.  An error in an argument is found when the argument is the error, or an array
  that holds it at any depth; of several errors, the one that comes first from left to right counts.

  1. **What is looked for** — `ErrorFree` and `FirstError` say so of a value, without saying how to look.
  2. **What is found** (`firstError?_eq_some`, `firstError?_eq_none`), by induction on the value.  A list
     of arguments is looked through like an array of them.
-/

namespace StoryValues

namespace Value

/-- A value that is no error and, if it is an array, holds none at any depth. -/
inductive ErrorFree : Value → Prop
  | array {items : List Value} : (∀ v ∈ items, ErrorFree v) → ErrorFree (.array items)
  | other {v : Value} : (∀ e, v ≠ .error e) → (∀ items, v ≠ .array items) → ErrorFree v

/-- The first error of a value: itself, or the first error of an array, all values before which are
free of errors. -/
inductive FirstError : Value → StoryError → Prop
  | self (e : StoryError) : FirstError (.error e) e
  | inside {before after : List Value} {v : Value} {e : StoryError} :
      (∀ u ∈ before, ErrorFree u) → FirstError v e → FirstError (.array (before ++ v :: after)) e

/-- An array is free of errors iff its items are. -/
theorem errorFree_array {items : List Value} :
    ErrorFree (.array items) ↔ ∀ v ∈ items, ErrorFree v := by
  constructor
  · intro h
    cases h with
    | array h => exact h
    | other _ h => exact absurd rfl (h items)
  · exact .array

/-- Searching a value finds no error, or finds its first one. -/
def Found (v : Value) : Option StoryError → Prop
  | none => ErrorFree v
  | some e => FirstError v e

/-- A value in front of an array of values keeps what is found there, if it is free of errors.  This is the step of
the search through a list. -/
theorem Found.cons {v : Value} {vs : List Value} {r : Option StoryError} (hv : ErrorFree v)
    (h : Found (.array vs) r) : Found (.array (v :: vs)) r := by
  cases r with
  | none =>
    refine .array fun u hu => ?_
    rcases List.mem_cons.mp hu with rfl | hu
    · exact hv
    · exact errorFree_array.mp h u hu
  | some e =>
    cases h with
    | @inside before after u _ hbefore hu =>
      refine @FirstError.inside (v :: before) after u e (fun t ht => ?_) hu
      rcases List.mem_cons.mp ht with rfl | ht
      · exact hv
      · exact hbefore t ht

mutual

/-- What searching a value finds, by induction on it, together with the next lemma for lists. -/
theorem found_firstError? : (v : Value) → Found v v.firstError?
  | .error e => .self e
  | .array items => found_firstErrorIn? items
  | .nothing | .boolean _ | .number _ | .string _ | .datamap .. | .dataset .. | .datatype _
  | .typedVar _ | .spread _ | .changer _ | .command .. | .colour _ | .gradient _ | .hooks _
  | .lambda _ | .custom _ | .filtered => .other (by simp) (by simp)

/-- What searching values finds: what searching an array of them does. -/
theorem found_firstErrorIn? : (vs : List Value) → Found (.array vs) (firstErrorIn? vs)
  | [] => .array fun v hv => absurd hv List.not_mem_nil
  | v :: vs => by
    have hv := found_firstError? v
    have hvs := found_firstErrorIn? vs
    rw [firstErrorIn?]
    cases hfirst : v.firstError? with
    | some e =>
      rw [hfirst] at hv
      exact @FirstError.inside [] vs v e (fun u hu => absurd hu List.not_mem_nil) hv
    | none =>
      rw [hfirst] at hv
      exact hvs.cons hv

end

/-- Nothing is found in values in each of which nothing is found. -/
theorem firstErrorIn?_of_errorFree {vs : List Value} (h : ∀ v ∈ vs, v.firstError? = none) :
    firstErrorIn? vs = none := by
  induction vs with
  | nil => rfl
  | cons v vs ih =>
    rw [firstErrorIn?, h v List.mem_cons_self]
    exact ih fun u hu => h u (List.mem_cons_of_mem v hu)

/-- What is found in the first value in which anything is, is found in the list. -/
theorem firstErrorIn?_append {before after : List Value} {v : Value} {e : StoryError}
    (hbefore : ∀ u ∈ before, u.firstError? = none) (hv : v.firstError? = some e) :
    firstErrorIn? (before ++ v :: after) = some e := by
  induction before with
  | nil => rw [List.nil_append, firstErrorIn?, hv]
  | cons u before ih =>
    rw [List.cons_append, firstErrorIn?, hbefore u List.mem_cons_self]
    exact ih fun t ht => hbefore t (List.mem_cons_of_mem u ht)

/-- **Nothing is found in a value iff it is free of errors.** -/
theorem firstError?_eq_none {v : Value} : v.firstError? = none ↔ ErrorFree v := by
  constructor
  · intro h
    have hfound := found_firstError? v
    rwa [h] at hfound
  · intro h
    induction h with
    | array _ ih => exact firstErrorIn?_of_errorFree ih
    | @other v herror harray =>
      cases v with
      | error e => exact absurd rfl (herror e)
      | array items => exact absurd rfl (harray items)
      | _ => rfl

/-- **What is found in a value is its first error.** -/
theorem firstError?_eq_some {v : Value} {e : StoryError} :
    v.firstError? = some e ↔ FirstError v e := by
  constructor
  · intro h
    have hfound := found_firstError? v
    rwa [h] at hfound
  · intro h
    induction h with
    | self e => rfl
    | inside hbefore _ ih =>
      exact firstErrorIn?_append (fun u hu => firstError?_eq_none.mpr (hbefore u hu)) ih

/-- A value is free of errors or has a first one. -/
theorem errorFree_or_firstError (v : Value) : ErrorFree v ∨ ∃ e, FirstError v e := by
  cases h : v.firstError? with
  | none => exact Or.inl (firstError?_eq_none.mp h)
  | some e => exact Or.inr ⟨e, firstError?_eq_some.mp h⟩

/-! ## Guards -/

variable {settings : Settings}

/-- A guard lets a value pass that is free of errors. -/
theorem guardError_of_errorFree {v : Value} (h : ErrorFree v) : v.guardError settings = .ok () := by
  rw [guardError, firstError?_eq_none.mpr h]
  rfl

/-- A guard stops a value with an error, with its first one. -/
theorem guardError_of_firstError {v : Value} {e : StoryError} (h : FirstError v e) :
    v.guardError settings = .error (.story e) := by
  rw [guardError, firstError?_eq_some.mpr h]
  rfl

/-- Guarding values is guarding an array of them. -/
theorem guardErrors_eq (vs : List Value) : guardErrors vs = (Value.array vs).guardError := rfl

end Value

end StoryValues
