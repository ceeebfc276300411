import StoryValues.Error.Limit
import StoryValues.Macro.Custom
import StoryValues.Proofs.Macro.Confined
import StoryValues.Proofs.Macro.Dispatch
import StoryValues.Proofs.Value.Extending
import StoryValues.Proofs.World.Lexical
import StoryValues.Value.Naming

/-
  PARAMETERS OF A CUSTOM MACRO.  The arguments of a call are looked at twice: dispatch asks the entries that
  the parameters describe, and then each argument is bound to a variable that is restricted to the parameter's
  datatype.  Both ask the same.

  1. **Parameters** that a macro can be made of have different names, and none but the last is spread
     (`RestLast`), so that they describe a signature (`signature_eq`).
  2. **One argument** (`accepts_entryOf`): the entry of a datatype accepts a value without errors iff the
     datatype does, though it may be a kind of its own.
  3. **All arguments** — what they have to be is said of parameters and arguments place by place (`Suits`).
     Suitable arguments pass dispatch (`arguments_of_suits`) and are bound (`bindParams_of_suits`); arguments
     that pass and are bound are suitable (`suits_of_bound`).
  4. **The call** (`call_iff_suits`) reaches the body exactly then, and the body sees the parameters and no
     other variable.
-/

namespace StoryValues

namespace CustomMacro

open Dispatch (Callee)

variable {σ : Type} {settings : Settings} {w w' : World σ} {p : TypedVar} {ps : List TypedVar}
  {v : Value} {vs : List Value} {d : Datatype}

/-! ## Parameters -/

/-- None but the last parameter takes all arguments that are left. -/
def RestLast : List TypedVar → Prop
  | [] => True
  | p :: ps => (p.rest = true → ps = []) ∧ RestLast ps

/-- What a macro can be made of: typed variables with different names, none but the last spread.  By recursion on the
parameters, with the names seen so far. -/
theorem of_checkParams {params : List Value} : ∀ {seen : List String} {ps : List TypedVar},
    checkParams seen params settings = .ok ps →
      params = ps.map .typedVar ∧ RestLast ps ∧ (∀ p ∈ ps, p.name ∉ seen) ∧ (ps.map TypedVar.name).Nodup := by
  induction params with
  | nil =>
    intro seen ps h
    obtain rfl := Except.ok.inj h
    exact ⟨rfl, trivial, fun p hp => absurd hp List.not_mem_nil, List.nodup_nil⟩
  | cons param params ih =>
    intro seen ps h
    cases param with
    | typedVar p =>
      rw [checkParams] at h
      -- the two checks of a parameter: whether it is last if it is spread, and whether its name is new
      obtain ⟨hrest, h⟩ := Check.of_ite_fail h
      obtain ⟨hname, h⟩ := Check.of_ite_fail h
      obtain ⟨others, hothers, h⟩ := Check.bind_eq_ok.mp h
      obtain rfl := Except.ok.inj h
      obtain ⟨rfl, hlast, hunseen, hnodup⟩ := ih hothers
      refine ⟨rfl, ⟨fun hp => ?_, hlast⟩, List.forall_mem_cons.mpr ⟨?_, ?_⟩, List.nodup_cons.mpr ⟨?_, hnodup⟩⟩
      · simpa [hp] using hrest
      · simpa using hname
      · exact fun q hq hmem => hunseen q hq (List.mem_cons_of_mem _ hmem)
      · intro hmem
        obtain ⟨q, hq, hsame⟩ := List.mem_map.mp hmem
        exact hunseen q hq (hsame ▸ List.mem_cons_self)
    | _ => exact absurd h Check.fail_naming_ne_ok

/-- The signature that parameters describe: an entry for each, and a rest entry for a spread one. -/
def described : List TypedVar → Signature
  | [] => ⟨[], none⟩
  | p :: ps =>
    if p.rest then ⟨[], some (entryOf p.datatype, 0)⟩
    else ⟨entryOf p.datatype :: (described ps).fixed, (described ps).rest⟩

/-- The entry of a datatype is a kind of its own, or asks the datatype.  The proofs about entries of parameters split
here and nowhere else. -/
theorem entryOf_cases (d : Datatype) :
    entryOf d = .conforming d ∨ entryOf d = .any ∨ ∃ name, entryOf d = .plain name := by
  rw [entryOf]
  split
  · exact Or.inl rfl
  · cases hlookup : plainTypes.lookup d.source with
    | none => exact Or.inl rfl
    | some e =>
      have hmem := Datatype.mem_of_lookup hlookup
      simp only [plainTypes, List.mem_cons, Prod.mk.injEq, List.not_mem_nil, or_false] at hmem
      rcases hmem with ⟨-, rfl⟩ | ⟨-, rfl⟩ | ⟨-, rfl⟩ | ⟨-, rfl⟩ | ⟨-, rfl⟩ | ⟨-, rfl⟩ | ⟨-, rfl⟩ | ⟨-, rfl⟩
      iterate 7 exact Or.inr (Or.inr ⟨_, rfl⟩)
      exact Or.inr (Or.inl rfl)

/-- An entry that is no rest entry stands in front of the others. -/
theorem ofEntries_cons {e : Entry} {es : List Entry} (h : ∀ inner min, e ≠ .rest inner min) :
    Signature.ofEntries (e :: es) = (Signature.ofEntries es).map fun s => { s with fixed := e :: s.fixed } := by
  rw [Signature.ofEntries]
  · cases Signature.ofEntries es <;> rfl
  · exact fun inner min he _ => h inner min he
  · exact fun inner min he => h inner min he

/-- **Parameters describe a signature** when none but the last is spread, by induction on them.  A spread one that is
not last would be a rest entry in the middle, which no signature has. -/
theorem ofEntries_params (hlast : RestLast ps) : Signature.ofEntries (ps.map paramEntry) = .ok (described ps) := by
  induction ps with
  | nil => rfl
  | cons p ps ih =>
    obtain ⟨hp, hlast⟩ := hlast
    rw [List.map_cons, described, paramEntry]
    by_cases hrest : p.rest = true
    · rw [if_pos hrest, if_pos hrest, hp hrest]
      rfl
    · rw [if_neg hrest, if_neg hrest]
      have hentry : ∀ inner min, entryOf p.datatype ≠ .rest inner min := by
        intro inner min
        rcases entryOf_cases p.datatype with h | h | ⟨name, h⟩ <;> rw [h] <;> exact nofun
      rw [ofEntries_cons hentry, ih hlast]
      rfl

/-! ## One argument -/

/-- A pattern is never a kind of its own, since its source begins with a parenthesis and no plain kind does. -/
theorem lookup_source_pattern {shape : Shape} {parts : List Fragment} {folded : Bool} :
    plainTypes.lookup (Datatype.pattern shape parts folded false).source = none := by
  cases hlookup : plainTypes.lookup (Datatype.pattern shape parts folded false).source with
  | none => rfl
  | some e =>
    have hhead := Datatype.head?_source_pattern shape parts folded false
    have hletters : ∀ e ∈ plainTypes, e.1.toList.head? ≠ some '(' := by decide
    exact absurd hhead (hletters _ (Datatype.mem_of_lookup hlookup))

/-- **The entry of a datatype accepts what the datatype accepts,** of values without errors. -/
theorem accepts_entryOf (hfree : v.ErrorFree) (d : Datatype) :
    Entry.accepts v (entryOf d) settings = .ok true ↔ d.accepts v settings = .ok true := by
  have hconforming : Entry.accepts v (.conforming d) settings = .ok true ↔ d.accepts v settings = .ok true :=
    Entry.conforms_eq_ok_true
  rw [entryOf]
  by_cases hspread : d.isSpread = true
  · rw [if_pos hspread]
    exact hconforming
  · rw [if_neg hspread]
    cases hlookup : plainTypes.lookup d.source with
    | none => exact hconforming
    | some e =>
      cases d with
      | pattern shape parts folded spread =>
        obtain rfl : spread = false := Bool.eq_false_iff.mpr hspread
        rw [lookup_source_pattern] at hlookup
        exact nomatch hlookup
      | named name spread =>
        obtain rfl : spread = false := Bool.eq_false_iff.mpr hspread
        have hsource : (Datatype.named name false).source = name := by
          rw [Datatype.source]
          exact String.empty_append
        rw [hsource] at hlookup
        have hmem := Datatype.mem_of_lookup hlookup
        simp only [plainTypes, List.mem_cons, Prod.mk.injEq, List.not_mem_nil, or_false] at hmem
        -- what is not asked by the same test is asked by one that gives the same answer
        rcases hmem with ⟨rfl, rfl⟩ | ⟨rfl, rfl⟩ | ⟨rfl, rfl⟩ | ⟨rfl, rfl⟩ | ⟨rfl, rfl⟩ | ⟨rfl, rfl⟩ | ⟨rfl, rfl⟩ | ⟨rfl, rfl⟩
        · have hstring : v.isString = Kind.string.holds v := by cases v <;> rfl
          show Check.lift (.ok v.isString) settings = _ ↔ Check.lift (.ok (Kind.string.holds v)) settings = _
          rw [hstring]
        iterate 6 exact Iff.rfl
        · show Except.ok (!v.isUnstorable) = _ ↔ Check.lift (.ok v.isStorable) settings = _
          have hstorable : v.isStorable = !v.isUnstorable := by
            rw [Value.isStorable, Value.firstError?_eq_none.mpr hfree]
            rfl
          rw [hstorable]
          exact Iff.rfl

/-- What the entry of a datatype takes, its check accepts, without a fault: what it takes was said by a check that
came to an end. -/
theorem accepts_of_takes (h : (entryOf d).Takes settings v) : Entry.accepts v (entryOf d) settings = .ok true := by
  rcases entryOf_cases d with hentry | hentry | ⟨name, hentry⟩
  all_goals rw [hentry] at h ⊢
  · cases h with
    | conforming h => exact Entry.conforms_eq_ok_true.mpr h
  · cases h with
    | any h => exact congrArg (fun b => Except.ok !b) h
  · cases h with
    | plain hlookup htest =>
      unfold Entry.accepts
      rw [hlookup]
      exact Check.lift_eq_ok.mpr htest

/-- A parameter needs an argument. -/
theorem not_takesNothing_entryOf (d : Datatype) : ¬ (entryOf d).TakesNothing := by
  rcases entryOf_cases d with h | h | ⟨name, h⟩ <;> rw [h] <;> rintro ⟨⟩

/-- No datatype accepts what cannot be stored, so arguments that passed dispatch are not refused for this later. -/
theorem isUnstorable_of_accepts (h : d.accepts v settings = .ok true) : v.isUnstorable = false := by
  by_contra hunstorable
  -- only typed variables and spread values cannot be stored, and each listed test says no to both
  have htests : ∀ p ∈ Datatype.tests, p.2 v = .ok false := by
    refine Datatype.forall_mem_tests (fun k hk => ?_) ?_ (fun name parity _ => ?_) ?_ ?_ fun name _ => ?_
    · simp only [Datatype.kinds, List.mem_cons, List.not_mem_nil, or_false] at hk
      cases v with
      | typedVar w => rcases hk with rfl | rfl | rfl | rfl | rfl | rfl | rfl | rfl | rfl | rfl | rfl | rfl <;> rfl
      | spread w => rcases hk with rfl | rfl | rfl | rfl | rfl | rfl | rfl | rfl | rfl | rfl | rfl | rfl <;> rfl
      | _ => exact absurd rfl hunstorable
    all_goals cases v with
      | typedVar w => rfl
      | spread w => rfl
      | _ => exact absurd rfl hunstorable
  cases d with
  | named name spread =>
    rw [Datatype.accepts] at h
    cases hlookup : Datatype.tests.lookup name with
    | none =>
      rw [hlookup] at h
      exact absurd h (by simp [Check.fault])
    | some test =>
      rw [hlookup] at h
      have hyes : test v = .ok true := Check.lift_eq_ok.mp h
      have hno : test v = .ok false := htests _ (Datatype.mem_of_lookup hlookup)
      rw [hno] at hyes
      cases hyes
  | pattern shape parts folded spread =>
    by_cases hshape : shape = .notBefore
    · subst hshape
      exact absurd h Check.fail_ne_ok
    · rw [Datatype.accepts_pattern hshape] at h
      cases v with
      | typedVar w => cases h
      | spread w => cases h
      | _ => exact absurd rfl hunstorable

/-! ## All arguments -/

/-- **What the arguments have to be** for the body to be run, place by place: without errors, accepted by the
datatypes, and not holding directly what cannot be stored, unless they are collected in a rest parameter. -/
inductive Suits (settings : Settings) : List TypedVar → List Value → Prop
  | none : Suits settings [] []
  | next {p : TypedVar} {ps : List TypedVar} {v : Value} {vs : List Value} : p.rest = false → v.ErrorFree →
      p.datatype.accepts v settings = .ok true → (∀ x ∈ v.contents, x.isUnstorable = false) →
      Suits settings ps vs → Suits settings (p :: ps) (v :: vs)
  | rest {p : TypedVar} {vs : List Value} : p.rest = true →
      (∀ v ∈ vs, v.ErrorFree ∧ p.datatype.accepts v settings = .ok true) → Suits settings [p] vs

/-- The variables that arguments are for: a rest parameter has the array of all that are left, and what is
nothing is for none. -/
def given : List TypedVar → List Value → List (String × Value)
  | [], _ => []
  | p :: ps, vs =>
    if p.rest then [(p.name, .array vs)]
    else match vs with
      | [] => []
      | .nothing :: vs => given ps vs
      | v :: vs => (p.name, v) :: given ps vs

/-- Suitable arguments are free of errors, as each place says. -/
theorem Suits.errorFree (h : Suits settings ps vs) : ∀ v ∈ vs, v.ErrorFree := by
  induction h with
  | none => exact fun v hv => absurd hv List.not_mem_nil
  | next _ hfree _ _ _ ih => exact List.forall_mem_cons.mpr ⟨hfree, ih⟩
  | rest _ hall => exact fun v hv => (hall v hv).1

/-! ### Dispatch -/

/-- A value that is free of errors and accepted goes on, and nothing has happened. -/
theorem checkOne_accepted {c : Callee} {index : Nat} {e : Entry} (hfree : v.ErrorFree)
    (h : Entry.accepts v e settings = .ok true) : c.checkOne index e v settings w = (.ok (), w) := by
  rw [Callee.checkOne, Run.bind_of_ok (Run.check_eq_ok.mpr ⟨rfl, Value.guardError_of_errorFree hfree⟩),
    Run.bind_of_ok (Run.check_eq_ok.mpr ⟨rfl, h⟩)]
  rfl

/-- So do values that the rest entry accepts, by induction on them. -/
theorem checkRest_accepted {c : Callee} {e : Entry}
    (h : ∀ v ∈ vs, v.ErrorFree ∧ Entry.accepts v e settings = .ok true) :
    ∀ index, c.checkRest e index vs settings w = (.ok (), w) := by
  induction vs with
  | nil => exact fun index => rfl
  | cons v vs ih =>
    intro index
    obtain ⟨⟨hfree, haccepts⟩, hvs⟩ := List.forall_mem_cons.mp h
    rw [Callee.checkRest, Run.bind_of_ok (checkOne_accepted hfree haccepts)]
    exact ih hvs (index + 1)

/-- Suitable arguments pass the entries that the parameters describe; no check of theirs raises a fault. -/
theorem checkFrom_of_suits {c : Callee} (h : Suits settings ps vs) (hrest : c.signature.rest = (described ps).rest) :
    ∀ index, c.checkFrom index (described ps).fixed vs settings w = (.ok (), w) := by
  induction h with
  | none =>
    intro index
    rw [described, Callee.checkFrom_end hrest]
    rfl
  | @next p ps v vs hp hfree haccepts _ _ ih =>
    intro index
    have hdescribed : described (p :: ps) = ⟨entryOf p.datatype :: (described ps).fixed, (described ps).rest⟩ := by
      rw [described, if_neg (by rw [hp]; exact Bool.false_ne_true)]
    rw [hdescribed] at hrest ⊢
    rw [Callee.checkFrom, Run.bind_of_ok (checkOne_accepted hfree ((accepts_entryOf hfree _).mpr haccepts))]
    exact ih hrest (index + 1)
  | @rest p vs hp hall =>
    intro index
    have hdescribed : described [p] = ⟨[], some (entryOf p.datatype, 0)⟩ := by
      rw [described, if_pos hp]
    rw [hdescribed] at hrest ⊢
    cases vs with
    | nil =>
      rw [Callee.checkFrom_unmet hrest]
      rfl
    | cons v vs =>
      rw [Callee.checkFrom_rest hrest]
      exact checkRest_accepted (fun v hv => ⟨(hall v hv).1, (accepts_entryOf (hall v hv).1 _).mpr (hall v hv).2⟩) index

/-- Where the values that arguments stand for are free of errors, so are the arguments: an error behind dots would be
one of the values, and so would one in an array there. -/
theorem errorFree_of_spread {args : List Value} : ∀ {passed : List Value},
    Dispatch.spreadArguments args settings = .ok passed → (∀ v ∈ passed, v.ErrorFree) → ∀ v ∈ args, v.ErrorFree := by
  induction args with
  | nil => exact fun _ _ v hv => absurd hv List.not_mem_nil
  | cons arg args ih =>
    intro passed h hfree
    obtain ⟨first, hfirst, h⟩ := Check.bind_eq_ok.mp h
    obtain ⟨others, hothers, h⟩ := Check.bind_eq_ok.mp h
    obtain rfl := Except.ok.inj h
    obtain ⟨hone, hmore⟩ := List.forall_mem_append.mp hfree
    refine List.forall_mem_cons.mpr ⟨?_, ih hothers hmore⟩
    cases arg with
    | spread v => exact .other nofun nofun
    | _ =>
      obtain rfl := Except.ok.inj hfirst
      exact hone _ List.mem_cons_self

/-- **Suitable arguments pass dispatch.**  Every place of the described signature is clear, and the line that is left
says so. -/
theorem arguments_of_suits {args : List Value} (h : Suits settings ps vs)
    (hspread : Dispatch.spreadArguments args settings = .ok vs) :
    Dispatch.arguments ⟨"", described ps⟩ args settings w =
      (.ok vs, w.noted (Dispatch.passedLine ⟨"", described ps⟩ vs)) := by
  rw [Dispatch.arguments_of_spread (errorFree_of_spread hspread h.errorFree) hspread,
    Run.bind_of_ok (checkFrom_of_suits h rfl 0)]
  rfl

/-! ### Binding -/

variable {id : Nat}

/-- A rest parameter is bound to the array of all that is left, and nothing comes after it. -/
theorem bindParams_rest (hp : p.rest = true) :
    bindParams (σ := σ) id (p :: ps) vs =
      (Run.setVar id p.name (.array vs) >>= fun _ => bindParams id ps vs.tail) := by
  rw [bindParams.eq_def]
  dsimp only
  rw [if_pos hp]

/-- A parameter whose argument is nothing is neither restricted nor bound. -/
theorem bindParams_nothing (hp : p.rest = false) :
    bindParams (σ := σ) id (p :: ps) (.nothing :: vs) = bindParams id ps vs := by
  rw [bindParams, if_neg (by rw [hp]; exact Bool.false_ne_true)]
  rfl

/-- Any other parameter is restricted to its datatype, and then bound to its argument. -/
theorem bindParams_next (hp : p.rest = false) (hv : v ≠ .nothing) :
    bindParams (σ := σ) id (p :: ps) (v :: vs) =
      (Run.defineType id p.name p.datatype >>= fun _ => Run.setVar id p.name v >>= fun _ => bindParams id ps vs) := by
  rw [bindParams.eq_def]
  dsimp only
  rw [if_neg (by rw [hp]; exact Bool.false_ne_true)]
  cases v with
  | nothing => exact absurd rfl hv
  | _ => rfl

/-- What is nothing is for no variable. -/
theorem given_nothing (hp : p.rest = false) : given (p :: ps) (.nothing :: vs) = given ps vs := by
  rw [given, if_neg (by rw [hp]; exact Bool.false_ne_true)]

/-- Anything else is for the first of those that are left. -/
theorem given_next (hp : p.rest = false) (hv : v ≠ .nothing) : given (p :: ps) (v :: vs) = (p.name, v) :: given ps vs := by
  rw [given.eq_def]
  dsimp only
  rw [if_neg (by rw [hp]; exact Bool.false_ne_true)]
  cases v with
  | nothing => exact absurd rfl hv
  | _ => rfl

/-- Arguments are for parameters, so a variable with an argument has the name of one. -/
theorem mem_names_of_given {key : String} (h : (given ps vs).lookup key = some v) : key ∈ ps.map TypedVar.name := by
  have hnames : ∀ {ps : List TypedVar} {vs : List Value}, (given ps vs).map Prod.fst ⊆ ps.map TypedVar.name := by
    intro ps
    induction ps with
    | nil => exact fun {vs} => List.nil_subset _
    | cons p ps ih =>
      intro vs
      rw [given.eq_def]
      dsimp only
      split
      · exact List.cons_subset_cons _ (List.nil_subset _)
      · split
        · exact List.nil_subset _
        · exact List.subset_cons_of_subset _ ih
        · exact List.cons_subset_cons _ ih
  exact hnames (List.mem_map_of_mem (Datatype.mem_of_lookup h))

/-- What is bound in a scope after arguments were bound to parameters: a copy of the argument where there is one,
and what was bound before elsewhere.  The tree of scopes is the same. -/
structure BoundTo (id : Nat) (bindings : List (String × Value)) (w w' : World σ) : Prop where
  outline : ∀ i, (w'.scope? i).map (fun s => (s.name, s.parent)) = (w.scope? i).map fun s => (s.name, s.parent)
  found : ∀ key v, bindings.lookup key = some v → ∃ u, w'.binding? id key = some u ∧ u.CopyOf v
  others : ∀ key, bindings.lookup key = none → w'.binding? id key = w.binding? id key

/-- Binding one name and then others, of which it is none.  That the names differ is what keeps the later ones from
covering it. -/
theorem BoundTo.cons {bindings : List (String × Value)} {key : String} {w₁ : World σ}
    (hfirst : BoundTo id [(key, v)] w w₁) (hrest : BoundTo id bindings w₁ w') (hfresh : bindings.lookup key = none) :
    BoundTo id ((key, v) :: bindings) w w' := by
  refine ⟨fun i => (hrest.outline i).trans (hfirst.outline i), fun k u h => ?_, fun k h => ?_⟩
  · rw [List.lookup_cons] at h
    by_cases hk : k = key
    · subst hk
      rw [beq_self_eq_true] at h
      rw [hrest.others _ hfresh]
      exact hfirst.found _ u (by rw [List.lookup_cons, beq_self_eq_true]; exact h)
    · rw [beq_false_of_ne hk] at h
      exact hrest.found k u h
  · rw [List.lookup_cons] at h
    by_cases hk : k = key
    · subst hk
      rw [beq_self_eq_true] at h
      cases h
    · rw [beq_false_of_ne hk] at h
      rw [hrest.others k h, hfirst.others k (by rw [List.lookup_cons, beq_false_of_ne hk, List.lookup_nil])]

/-- A restriction before it is no binding. -/
theorem BoundTo.of_restrict {bindings : List (String × Value)} {i : Nat} {key : String} {d : Datatype}
    (h : BoundTo id bindings (w.restrict i key d) w') : BoundTo id bindings w w' where
  outline j := (h.outline j).trans (World.outline_restrict w i key d j)
  found := h.found
  others k hk := by rw [h.others k hk, World.binding?_restrict]

/-- A value that may be bound to a name is bound to it: it can be kept, it can be searched, and the restriction
accepts it. -/
theorem setVar_accepted {key : String} (hid : (w.scope? id).isSome = true) (hkeep : v.Keepable)
    (hsearch : ∃ found, v.unstorable? = .ok found)
    (haccepts : ∀ d, w.restriction? id key = some d → d.accepts v settings = .ok true) :
    Run.setVar id key v settings w = (.ok (), w.bind id key v) ∧ BoundTo id [(key, v)] w (w.bind id key v) := by
  obtain ⟨found, hfound⟩ := hsearch
  obtain rfl := (Value.keepable_iff_of_unstorable? hkeep.1 hfound).mp hkeep
  have hcheck : Run.checkBinding key (w.restriction? id key) v settings = .ok () :=
    Run.checkBinding_eq_ok.mpr ⟨hkeep.1, hfound, haccepts⟩
  obtain ⟨s, hs⟩ := Option.isSome_iff_exists.mp hid
  -- the name is bound, or the check failed, which it did not
  rcases Run.setVar_cases settings w id key v with ⟨-, hrun⟩ | ⟨e, hfails, -⟩
  · refine ⟨hrun, World.outline_bind w id key v, fun k u h => ?_, fun k h => ?_⟩
    · rw [World.binding?_bind]
      rw [List.lookup_cons, List.lookup_nil] at h
      by_cases hk : k = key
      · subst hk
        rw [beq_self_eq_true] at h
        obtain rfl := Option.some.inj h
        rw [if_pos ⟨rfl, rfl⟩, hs]
        exact ⟨_, rfl, _, rfl⟩
      · rw [beq_false_of_ne hk] at h
        exact nomatch h
    · rw [World.binding?_bind, if_neg]
      rintro ⟨-, rfl⟩
      rw [List.lookup_cons, beq_self_eq_true] at h
      exact nomatch h
  · rw [hcheck] at hfails
    exact nomatch hfails

/-- Worlds with the same tree of scopes have the same scopes, so the scope of a call is still there for the next
parameter. -/
theorem isSome_scope?_of_outline {i : Nat}
    (h : (w'.scope? i).map (fun s => (s.name, s.parent)) = (w.scope? i).map fun s => (s.name, s.parent))
    (hi : (w.scope? i).isSome = true) : (w'.scope? i).isSome = true := by
  have hsome := congrArg Option.isSome h
  rw [Option.isSome_map, Option.isSome_map] at hsome
  exact hsome.trans hi

/-- **Suitable arguments are bound,** each to its parameter, by induction on both; the names are different, and
so none is restricted before its turn. -/
theorem bindParams_of_suits (h : Suits settings ps vs) (hnodup : (ps.map TypedVar.name).Nodup)
    (hsearch : ∀ v ∈ vs, ∃ found, v.unstorable? = .ok found) :
    ∀ w : World σ, (w.scope? id).isSome = true → (∀ p ∈ ps, w.restriction? id p.name = none) →
      ∃ w', bindParams id ps vs settings w = (.ok (), w') ∧ BoundTo id (given ps vs) w w' := by
  induction h with
  | none => exact fun w _ _ => ⟨w, rfl, ⟨fun _ => rfl, fun key v h => (nomatch h), fun key _ => rfl⟩⟩
  | @rest p vs hp hall =>
    intro w hid hfree
    -- the array of what is left can always be kept, and nothing has restricted the parameter so far
    have hkeep : (Value.array vs).Keepable :=
      ⟨.array fun v hv => (hall v hv).1, rfl, fun v hv => isUnstorable_of_accepts (hall v hv).2⟩
    have haccepts : ∀ d, w.restriction? id p.name = some d → d.accepts (.array vs) settings = .ok true := by
      intro d hd
      rw [hfree p List.mem_cons_self] at hd
      exact nomatch hd
    obtain ⟨hrun, hbound⟩ := setVar_accepted hid hkeep ⟨_, rfl⟩ haccepts
    refine ⟨w.bind id p.name (.array vs), ?_, ?_⟩
    · rw [bindParams_rest hp, Run.bind_of_ok hrun]
      rfl
    · rw [given.eq_def]
      dsimp only
      rw [if_pos hp]
      exact hbound
  | @next p ps v vs hp hfree haccepts hinside hsuits ih =>
    intro w hid hunrestricted
    obtain ⟨hname, hnodup⟩ := List.nodup_cons.mp hnodup
    obtain ⟨hfirst, hothers⟩ := List.forall_mem_cons.mp hunrestricted
    obtain ⟨hsearchv, hsearchvs⟩ := List.forall_mem_cons.mp hsearch
    -- an absent value binds nothing and restricts nothing
    by_cases hv : v = .nothing
    · subst hv
      rw [bindParams_nothing hp, given_nothing hp]
      exact ih hnodup hsearchvs w hid hothers
    · have hid' := isSome_scope?_of_outline (World.outline_restrict w id p.name p.datatype id) hid
      have haccepts' : ∀ d, (w.restrict id p.name p.datatype).restriction? id p.name = some d →
          d.accepts v settings = .ok true := by
        intro d hd
        rw [World.restriction?_restrict, if_pos ⟨rfl, rfl⟩] at hd
        obtain ⟨_, -, rfl⟩ := Option.map_eq_some_iff.mp hd
        exact haccepts
      obtain ⟨hrun, hbound⟩ :=
        setVar_accepted hid' ⟨hfree, isUnstorable_of_accepts haccepts, hinside⟩ hsearchv haccepts'
      -- as the names differ, the parameters behind this one are still free
      have hothers' : ∀ q ∈ ps,
          ((w.restrict id p.name p.datatype).bind id p.name v).restriction? id q.name = none := by
        intro q hq
        have hne : q.name ≠ p.name := fun heq => hname (heq ▸ List.mem_map_of_mem hq)
        rw [World.restriction?_bind, World.restriction?_restrict, if_neg fun h => hne h.2]
        exact hothers q hq
      obtain ⟨w', hrest, hrestbound⟩ := ih hnodup hsearchvs _ (isSome_scope?_of_outline (hbound.outline id) hid') hothers'
      refine ⟨w', ?_, ?_⟩
      · rw [bindParams_next hp hv, Run.bind_of_ok (Run.defineType_run p.datatype), Run.bind_of_ok hrun]
        exact hrest
      · rw [given_next hp hv]
        -- and none of them is given a value of the same name, which would hide this one
        have hlast : (given ps vs).lookup p.name = none := by
          cases hlookup : (given ps vs).lookup p.name with
          | none => rfl
          | some u => exact absurd (mem_names_of_given hlookup) hname
        exact (hbound.cons hrestbound hlast).of_restrict

/-- **Arguments that fit and are bound are suitable.**  By recursion on the parameters: binding asks the restriction,
and this is the datatype of the parameter. -/
theorem suits_of_bound (hlast : RestLast ps) : ∀ {vs : List Value} {w w' : World σ},
    (described ps).Fits settings vs → (∀ v ∈ vs, v.ErrorFree) →
      bindParams id ps vs settings w = (.ok (), w') → Suits settings ps vs := by
  induction ps with
  | nil =>
    intro vs w w' hfits _ _
    obtain rfl := Signature.fits_none.mp hfits
    exact .none
  | cons p ps ih =>
    intro vs w w' hfits hfree hbound
    obtain ⟨honly, hlast⟩ := hlast
    by_cases hp : p.rest = true
    · obtain rfl := honly hp
      rw [described, if_pos hp] at hfits
      refine .rest hp fun v hv => ⟨hfree v hv, ?_⟩
      exact (accepts_entryOf (hfree v hv) _).mp (accepts_of_takes (Signature.fits_rest.mp hfits v hv))
    · have hp : p.rest = false := Bool.eq_false_iff.mpr hp
      rw [described, if_neg (by rw [hp]; exact Bool.false_ne_true)] at hfits
      cases vs with
      | nil => exact absurd (Signature.fits_cons_nil.mp hfits).1 (not_takesNothing_entryOf _)
      | cons v vs =>
        obtain ⟨hv, hvs⟩ := List.forall_mem_cons.mp hfree
        obtain ⟨htakes, hfitsvs⟩ := Signature.fits_cons_cons.mp hfits
        have haccepts := (accepts_entryOf hv _).mp (accepts_of_takes htakes)
        by_cases hnothing : v = .nothing
        · subst hnothing
          rw [bindParams_nothing hp] at hbound
          exact .next hp hv haccepts (fun x hx => absurd hx List.not_mem_nil) (ih hlast hfitsvs hvs hbound)
        · rw [bindParams_next hp hnothing, Run.bind_of_ok (Run.defineType_run p.datatype)] at hbound
          obtain ⟨_, w₁, hset, hbound⟩ := Run.bind_eq_ok.mp hbound
          -- the check of the binding, which went through, has looked for what cannot be stored
          rcases Run.setVar_cases settings (w.restrict id p.name p.datatype) id p.name v with
            ⟨hcheck, -⟩ | ⟨e, -, hfails⟩
          · obtain ⟨-, hfound, -⟩ := Run.checkBinding_eq_ok.mp hcheck
            have hkeep := (Value.keepable_iff_of_unstorable? hv hfound).mpr rfl
            exact .next hp hv haccepts hkeep.2.2 (ih hlast hfitsvs hvs hbound)
          · rw [hfails] at hset
            exact nomatch (Prod.mk.inj hset).1

/-! ## The call -/

/-- What a call does before the body is run: dispatch, and then a scope in which the arguments are bound. -/
def prepare (m : CustomMacro) (args : List Value) : Run σ Nat := do
  let signature ← m.signature
  let args ← Dispatch.arguments { name := "", signature } args
  let scope ← Run.newScope none "this custom macro"
  bindParams scope m.params args
  return scope

/-- The body is run in a frame with a scope, and has to have some output without errors. -/
def runBody (host : Host σ) (m : CustomMacro) (scope : Nat) : Run σ Value := do
  let frame : Frame := { scope, pos := .nothing, it := .nothing, ambient := ← Run.inherited }
  let output ← Run.withFrame frame (host.call m.body [])
  checkOutput output

/-- A call is made ready, and then the body is run.  What can go wrong before the body is all in the first part. -/
theorem call_eq (host : Host σ) (m : CustomMacro) (args : List Value) :
    call host (.custom m) args = (Run.outcome (prepare m args >>= runBody host m) >>= Run.adopt) := by
  unfold call prepare
  simp only [bind_assoc, pure_bind]
  rfl

variable {m : CustomMacro} {args passed : List Value}

/-- **Suitable arguments make the call ready:** a new scope has a copy of each argument, and nothing else can be seen
from there. -/
theorem prepare_of_suits (hlast : RestLast m.params) (hnodup : (m.params.map TypedVar.name).Nodup)
    (hspread : Dispatch.spreadArguments args settings = .ok passed) (h : Suits settings m.params passed)
    (hsearch : ∀ v ∈ passed, ∃ found, v.unstorable? = .ok found) (w : World σ) :
    ∃ w₁, prepare m args settings w = (.ok w.scopes.length, w₁) ∧ w.Undisturbed w₁ ∧
      ∀ key, Option.Rel Value.CopyOf (w₁.value? w.scopes.length key) ((given m.params passed).lookup key) := by
  have hsignature : (liftM m.signature : Run σ Signature) settings w = (.ok (described m.params), w) :=
    Run.check_eq_ok.mpr ⟨rfl, Check.lift_eq_ok.mpr (ofEntries_params hlast)⟩
  have harguments := arguments_of_suits (w := w) h hspread
  -- the world with the new scope, which is empty and has no scope around it
  let made : World σ :=
    { w.noted (Dispatch.passedLine ⟨"", described m.params⟩ passed) with
      scopes := w.scopes ++ [⟨"this custom macro", none, [], []⟩] }
  have hscope : (Run.newScope none "this custom macro" : Run σ Nat) settings
      (w.noted (Dispatch.passedLine ⟨"", described m.params⟩ passed)) = (.ok w.scopes.length, made) := rfl
  have hmade : made.scope? w.scopes.length = some ⟨"this custom macro", none, [], []⟩ := List.getElem?_concat_length
  have hunbound : ∀ key, made.binding? w.scopes.length key = none := by
    intro key
    rw [World.binding?, hmade]
    rfl
  have hunrestricted : ∀ p ∈ m.params, made.restriction? w.scopes.length p.name = none := by
    intro p _
    rw [World.restriction?, hmade]
    rfl
  obtain ⟨w₁, hrun, hbound⟩ :=
    bindParams_of_suits h hnodup hsearch made (by rw [hmade]; rfl) hunrestricted
  have hprepare : prepare m args settings w = (.ok w.scopes.length, w₁) := by
    rw [prepare, Run.bind_of_ok hsignature, Run.bind_of_ok harguments, Run.bind_of_ok hscope, Run.bind_of_ok hrun]
    rfl
  -- only that scope is touched, by the parts of the preparation
  have hconfined : ∀ n fs, Run.Confined n fs (prepare m args : Run σ Nat) := fun n fs =>
    (Run.Confined.check _).bind fun _ => (Dispatch.confined_arguments _ _).bind fun values =>
      Run.Confined.newScope fun id hid => (confined_bindParams hid _ values).bind fun _ => .pure _
  refine ⟨w₁, hprepare, ?_, fun key => ?_⟩
  · have hundisturbed := Run.undisturbed_of_confined hconfined settings w
    rw [hprepare] at hundisturbed
    exact hundisturbed
  · -- what is seen from an outermost scope is what is bound there
    have houtline := hbound.outline w.scopes.length
    rw [hmade, Option.map_some, Option.map_eq_some_iff] at houtline
    obtain ⟨s, hs, hparent⟩ := houtline
    rw [World.value?_of_outermost hs (Prod.mk.inj hparent).2]
    cases hgiven : (given m.params passed).lookup key with
    | none =>
      rw [hbound.others key hgiven, hunbound]
      exact .none
    | some v =>
      obtain ⟨u, hu, hcopy⟩ := hbound.found key v hgiven
      rw [hu]
      exact .some hcopy

/-- A call that was made ready had suitable arguments: dispatch let them through, so they fit, and they were bound. -/
theorem suits_of_prepare (hlast : RestLast m.params) (hspread : Dispatch.spreadArguments args settings = .ok passed)
    {scope : Nat} (h : prepare m args settings w = (.ok scope, w')) : Suits settings m.params passed := by
  obtain ⟨s, w₁, hsignature, h⟩ := Run.bind_eq_ok.mp h
  obtain ⟨rfl, hs⟩ := Run.check_eq_ok.mp hsignature
  obtain rfl : described m.params = s := by
    have := (ofEntries_params hlast).symm.trans (Check.lift_eq_ok.mp hs)
    exact Except.ok.inj this
  obtain ⟨values, w₂, harguments, h⟩ := Run.bind_eq_ok.mp h
  obtain ⟨hadmits, -, rfl⟩ := Dispatch.arguments_ok harguments
  obtain rfl : passed = values := Except.ok.inj (hspread.symm.trans hadmits.spread)
  obtain ⟨id, w₃, hscope, h⟩ := Run.bind_eq_ok.mp h
  obtain ⟨_, w₄, hbound, -⟩ := Run.bind_eq_ok.mp h
  exact suits_of_bound hlast hadmits.fits hadmits.passedErrorFree hbound

/-- **A custom macro's body is run exactly when the arguments suit its parameters.**  Whatever a macro is made of,
its parameters describe a signature.  Let the arguments of a call stand for some values.

* If these suit the parameters, and datasets among them can be looked through, the body is run: in a new scope, from
  which the parameters are seen with copies of the values, a rest parameter with the array of those that are left, and
  nothing else is seen.
* If they do not, the answer is an error, or there is a fault; either is the same whatever the body is, which is not
  run. -/
theorem call_iff_suits {params : List Value} {body : Nat} {source : String} {settings₀ : Settings}
    (hmade : create params body source settings₀ = .ok (.custom m)) :
    (∃ s, m.signature = .ok s) ∧
    ∀ (settings : Settings) (tag : Tag) (w : World σ) (args passed : List Value),
      Dispatch.spreadArguments args settings = .ok passed →
      (Suits settings m.params passed → (∀ v ∈ passed, ∃ found, v.unstorable? = .ok found) →
        ∃ w₁, w.Undisturbed w₁ ∧
          (∀ key, Option.Rel Value.CopyOf (w₁.value? w.scopes.length key) ((given m.params passed).lookup key)) ∧
          ∀ host, call host (.custom { m with tag }) args settings w =
            (Run.outcome (runBody host { m with tag } w.scopes.length) >>= Run.adopt) settings w₁) ∧
      (¬ Suits settings m.params passed →
        ∃ (result : Except Failure Value) (w' : World σ),
          ((∃ e, result = .ok (.error e)) ∨ ∃ f, result = .error (.fault f)) ∧
            ∀ host, call host (.custom { m with tag }) args settings w = (result, w')) := by
  obtain ⟨_, -, hparams⟩ := Check.bind_eq_ok.mp hmade
  obtain ⟨ps, hps, hm⟩ := Check.bind_eq_ok.mp hparams
  obtain ⟨-, hlast, -, hnodup⟩ := of_checkParams hps
  -- the macro that was made has the parameters that passed the checks
  obtain rfl : (⟨ps, body, source, none⟩ : CustomMacro) = m := Value.custom.inj (Except.ok.inj hm)
  refine ⟨⟨described ps, ofEntries_params hlast⟩, fun settings tag w args passed hspread => ⟨?_, ?_⟩⟩
  · intro hsuits hsearch
    obtain ⟨w₁, hprepare, hundisturbed, hseen⟩ :=
      prepare_of_suits (m := ⟨ps, body, source, tag⟩) hlast hnodup hspread hsuits hsearch w
    refine ⟨w₁, hundisturbed, hseen, fun host => ?_⟩
    rw [call_eq]
    exact Run.bind_congr Run.adopt (Run.outcome_bind_of_ok hprepare)
  · -- a call that cannot be made ready stops before the body, so the host does not matter
    intro hnot
    cases hprepare : prepare (⟨ps, body, source, tag⟩ : CustomMacro) args settings w with
    | mk result w' =>
      cases result with
      | ok scope =>
        exact absurd (suits_of_prepare (m := ⟨ps, body, source, tag⟩) hlast hspread hprepare) hnot
      | error failure =>
        have hstop : ∀ host : Host σ, (prepare (⟨ps, body, source, tag⟩ : CustomMacro) args >>=
            runBody host ⟨ps, body, source, tag⟩) settings w = (.error failure, w') :=
          fun host => Run.bind_of_error hprepare
        cases failure with
        | story e =>
          refine ⟨.ok (.error { e with tag := (Tag.adopt w'.fresh e.tag).1 }),
            { w' with fresh := (Tag.adopt w'.fresh e.tag).2 }, Or.inl ⟨_, rfl⟩, fun host => ?_⟩
          rw [call_eq, Run.bind_of_ok (Run.outcome_of_story (hstop host))]
          rfl
        | fault f =>
          refine ⟨.error (.fault f), w', Or.inr ⟨f, rfl⟩, fun host => ?_⟩
          rw [call_eq]
          refine Run.bind_of_error (Run.bind_of_error ?_)
          rw [Run.attempt, hstop host]

/-- A number and any number of strings. -/
def countedNames : List TypedVar := [⟨.named "number" false, "count", false⟩, ⟨.named "string" false, "names", true⟩]

/-- A call with a number and two strings, which are spread out of an array. -/
theorem call_countedNames :
    create (countedNames.map .typedVar) 7 "" Settings.usual =
        .ok (.custom ⟨countedNames, 7, "", none⟩) ∧
      ∃ w₁ : World Unit, (∃ u, w₁.value? 0 "names" = some u ∧ u.CopyOf (.array [.string "a", .string "b"])) ∧
        ∀ host, call host (.custom ⟨countedNames, 7, "", none⟩)
            [.number (.int 2), .spread (.array [.string "a", .string "b"])]
            Settings.usual (World.start [] ()) =
          (Run.outcome (runBody host ⟨countedNames, 7, "", none⟩ 0) >>= Run.adopt)
            Settings.usual w₁ := by
  have hmade : create (countedNames.map .typedVar) 7 "" Settings.usual =
      .ok (.custom ⟨countedNames, 7, "", none⟩) := rfl
  have hsuits : Suits Settings.usual countedNames [.number (.int 2), .string "a", .string "b"] := by
    refine .next rfl (.other nofun nofun) rfl (fun x hx => absurd hx List.not_mem_nil) (.rest rfl fun v hv => ?_)
    rcases List.mem_pair.mp hv with rfl | rfl <;> exact ⟨.other nofun nofun, rfl⟩
  have hsearch : ∀ v ∈ [Value.number (.int 2), .string "a", .string "b"], ∃ found, v.unstorable? = .ok found := by
    simp only [List.forall_mem_cons]
    exact ⟨⟨none, rfl⟩, ⟨none, rfl⟩, ⟨none, rfl⟩, fun v hv => absurd hv List.not_mem_nil⟩
  obtain ⟨w₁, -, hseen, hcall⟩ := ((call_iff_suits (σ := Unit) hmade).2 _ none (World.start [] ())
    [.number (.int 2), .spread (.array [.string "a", .string "b"])] _ rfl).1 hsuits hsearch
  refine ⟨hmade, w₁, ?_, hcall⟩
  -- the rest parameter is seen in the new scope, with a copy of what was spread out
  have hnames : Option.Rel Value.CopyOf (w₁.value? 0 "names") (some (.array [.string "a", .string "b"])) :=
    hseen "names"
  cases hvalue : w₁.value? 0 "names" with
  | none => rw [hvalue] at hnames; cases hnames
  | some u =>
    rw [hvalue] at hnames
    cases hnames with
    | some hcopy => exact ⟨u, rfl, hcopy⟩

end CustomMacro

end StoryValues
