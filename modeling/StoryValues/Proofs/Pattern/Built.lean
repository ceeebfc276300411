import StoryValues.Proofs.Pattern.Bounds

/-
  PATTERNS THAT CAN BE BUILT.

  A pattern macro looks at all its arguments and makes a pattern of them or refuses.  What it accepts
  is recorded here (`of_make`), and from it what holds of every pattern that the macros for sequences,
  choices, options, repetitions and looks ahead can build out of each other's results.

  1. **Built** — the patterns that come out of these macros, and the same patterns spread.
  2. **Built patterns are plain** (`Built.plain`), by induction on how they were built: their names say
     something about text, letter case matters in them, and their bounds can be counted by.
  3. **Their bounds keep to the limit** (`Built.overflows_eq_false`), so where the limit is one that a
     matcher can count up to, no bound is beyond counting.
-/

namespace StoryValues

/-! ## Datatypes in fragments -/

namespace Fragment

/-- The datatype of a fragment, if it has one. -/
def datatype? : Fragment → Option Datatype
  | .text _ => none
  | .type d => some d
  | .typed d _ _ => some d

/-- A fragment is plain iff its datatype is, if it has one.  The kinds of fragment need not be told apart then. -/
theorem plain_iff {f : Fragment} : f.Plain ↔ ∀ d, f.datatype? = some d → d.Plain := by
  cases f with
  | text s => simp [Plain, datatype?]
  | type d => simp [Plain, datatype?]
  | typed d name rest => simp [Plain, datatype?]

/-- A fragment can be counted by iff its datatype can, if it has one. -/
theorem overflows_eq_false {f : Fragment} :
    f.overflows = false ↔ ∀ d, f.datatype? = some d → d.overflows = false := by
  cases f with
  | text s => simp [overflows, datatype?]
  | type d => simp [overflows, datatype?]
  | typed d name rest => simp [overflows, datatype?]

/-- Several fragments can be counted by iff each of them can. -/
theorem overflowsIn_eq_false {fs : List Fragment} :
    overflowsIn fs = false ↔ ∀ f ∈ fs, f.overflows = false := by
  induction fs with
  | nil => simp [overflowsIn]
  | cons f fs ih => rw [overflowsIn, Bool.or_eq_false_iff, ih, List.forall_mem_cons]

end Fragment

namespace Pattern

variable {settings : Settings} {shape : Shape}

/-! ## What building a pattern has checked -/

/-- A list of checks without a first error is a list of results, by induction on it. -/
theorem of_firstError {α : Type} {results : List (Except StoryError α)} {parts : List α}
    (h : firstError results settings = .ok parts) : results = parts.map .ok := by
  induction results generalizing parts with
  | nil =>
    rw [firstError, Check.pure_run, Except.ok.injEq] at h
    rw [← h, List.map_nil]
  | cons r rest ih =>
    cases r with
    | error e => exact absurd h (by simp [firstError, Check.story])
    | ok a =>
      rw [firstError] at h
      obtain ⟨others, hothers, h⟩ := Check.bind_eq_ok.mp h
      rw [Check.pure_run, Except.ok.injEq] at h
      rw [← h, List.map_cons, ih hothers]

/-- A pattern is made of one fragment for each argument, in order.  That all arguments are looked at before an error
is reported does not show here, where there is none. -/
theorem of_make {args : List Value} {d : Datatype} (h : make shape args settings = .ok d) :
    ∃ parts, d = .pattern shape parts (shape == .insensitive) false ∧
      List.Forall₂ (fun v f => fragment shape v settings = .ok f) args parts := by
  unfold make at h
  obtain ⟨results, hresults, h⟩ := Check.bind_eq_ok.mp h
  obtain ⟨parts, hparts, h⟩ := Check.bind_eq_ok.mp h
  rw [Check.pure_run, Except.ok.injEq] at h
  refine ⟨parts, h.symm, ?_⟩
  have hall := Check.mapM_eq_ok.mp hresults
  rw [of_firstError hparts, List.forall₂_map_right_iff] at hall
  exact hall.imp fun _ _ hf => Check.attempt_eq_ok.mp hf

/-- A datatype that passed as part of a pattern is a pattern or says something about text. -/
theorem of_checkTextual {d : Datatype} (h : checkTextual shape d settings = .ok ()) :
    isTextual d = true := by
  cases d with
  | pattern shape parts folded spread => rfl
  | named name spread =>
    by_cases ht : isTextual (.named name spread) = true
    · exact ht
    · change (if isTextual (.named name spread) = true then pure () else
        if numberTypes.contains name = true then Check.fail _ _ else Check.fail _ _) settings = _ at h
      rw [if_neg ht] at h
      split at h
      · exact absurd h Check.fail_ne_ok
      · exact absurd h Check.fail_ne_ok

/-- Spreading a datatype leaves it textual or not as it was. -/
theorem isTextual_spread (d : Datatype) : isTextual d.spread = isTextual d := by
  cases d with
  | named name spread => rfl
  | pattern shape parts folded spread => rfl

/-- The datatypes that an argument brings into a pattern: itself, or that of a typed variable. -/
inductive Brings : Value → Datatype → Prop
  | datatype (d : Datatype) : Brings (.datatype d) d
  | typedVar (v : TypedVar) : Brings (.typedVar v) v.datatype

/-- The datatype in the fragment of an argument is one that the argument brings, and is textual.  That of a typed
variable was checked spread where the variable is, which comes to the same. -/
theorem of_fragment {v : Value} {f : Fragment} {d : Datatype}
    (h : fragment shape v settings = .ok f) (hd : f.datatype? = some d) :
    Brings v d ∧ isTextual d = true := by
  unfold fragment at h
  split at h
  · obtain rfl := Except.ok.inj h
    exact absurd hd (by simp [Fragment.datatype?])
  · rename_i e
    obtain ⟨_, ht, h⟩ := Check.bind_eq_ok.mp h
    obtain rfl := Except.ok.inj h
    obtain rfl := Option.some.inj hd
    exact ⟨.datatype e, of_checkTextual ht⟩
  · rename_i w
    by_cases ha : shape.allowsTyped = true
    · rw [if_pos ha] at h
      obtain ⟨_, ht, h⟩ := Check.bind_eq_ok.mp h
      obtain rfl := Except.ok.inj h
      obtain rfl := Option.some.inj hd
      refine ⟨.typedVar w, ?_⟩
      -- being spread does not matter for being textual
      have ht := of_checkTextual ht
      split at ht
      · rwa [isTextual_spread] at ht
      · exact ht
    · rw [if_neg ha] at h
      exact absurd h Check.fail_ne_ok
  · exact absurd h Check.fail_naming_ne_ok

/-- The datatypes in the fragments of a pattern are textual, and its arguments bring them.  This is how a fact about
arguments reaches the fragments in the inductions on how a pattern was made. -/
theorem brings_of_make {args : List Value} {parts : List Fragment}
    (h : List.Forall₂ (fun v f => fragment shape v settings = .ok f) args parts) {f : Fragment}
    {d : Datatype} (hf : f ∈ parts) (hd : f.datatype? = some d) :
    ∃ v ∈ args, Brings v d ∧ isTextual d = true := by
  induction h with
  | nil => exact absurd hf List.not_mem_nil
  | cons hvf _ ih =>
    rcases List.mem_cons.mp hf with rfl | hf
    · exact ⟨_, List.mem_cons_self, of_fragment hvf hd⟩
    · obtain ⟨v, hv, hbrings⟩ := ih hf
      exact ⟨v, List.mem_cons_of_mem _ hv, hbrings⟩

/-! ## Built patterns -/

/-- The shapes of macros that take fragments alone and tell upper from lower case. -/
def exactShapes : List Shape := [.sequence, .either, .optional, .notBefore]

/-- The exact shapes are none that leaves letter case out of account, so their patterns are made without the mark for
it. -/
theorem eq_insensitive_of_exact (h : shape ∈ exactShapes) : (shape == .insensitive) = false := by
  simp only [exactShapes, List.mem_cons, List.not_mem_nil, or_false] at h
  rcases h with rfl | rfl | rfl | rfl <;> rfl

/-- **The patterns that can be built** with letter case taken into account: by the macros for sequences,
choices with something to choose from, options, looks ahead and repetitions, from strings, named
datatypes, typed variables, and patterns built before; and all these spread. -/
inductive Built (settings : Settings) : Datatype → Prop
  | make {shape : Shape} {args : List Value} {d : Datatype} : shape ∈ exactShapes →
      (shape = .either → args ≠ []) →
      (∀ v ∈ args, ∀ e, Brings v e → e.isPattern = true → Built settings e) →
      make shape args settings = .ok d → Built settings d
  | repeated {args : List Value} {d : Datatype} :
      (∀ v ∈ args, ∀ e, Brings v e → e.isPattern = true → Built settings e) →
      repeated args settings = .ok d → Built settings d
  | spread {d : Datatype} : Built settings d → Built settings d.spread

/-- **How a built pattern is put together**: if something holds of a pattern whenever its shape is in
order and it holds of the patterns among its parts, and of a spread pattern if it holds of that pattern
alone, it holds of all that can be built. -/
theorem Built.parts_induction {P : Datatype → Prop}
    (pattern : ∀ shape parts, shape ≠ .insensitive → (shape = .either → parts ≠ []) →
      (∀ b, shape = .repeated b → b.WellMade settings.repeatLimit) →
      (∀ f ∈ parts, ∀ e, f.datatype? = some e → isTextual e = true ∧ (e.isPattern = true → P e)) →
      P (.pattern shape parts false false))
    (spread : ∀ d, P d → P d.spread) {d : Datatype} (h : Built settings d) : P d := by
  induction h with
  | @make shape args d hshape hne _ hmake ih =>
    obtain ⟨parts, rfl, hparts⟩ := of_make hmake
    rw [eq_insensitive_of_exact hshape] at hmake ⊢
    refine pattern shape parts ?_ ?_ ?_ ?_
    -- the shape is none that folds letters or repeats; what is left is about the parts
    · rintro rfl
      exact absurd hshape (by decide)
    · rintro heither rfl
      exact hne heither (List.forall₂_nil_right_iff.mp hparts)
    · rintro b rfl
      exact absurd hshape (by simp [exactShapes])
    · intro f hf e he
      obtain ⟨v, hv, hbrings, htext⟩ := brings_of_make hparts hf he
      exact ⟨htext, ih v hv e hbrings⟩
  | @repeated args d _ hrep ih =>
    -- the bounds are well made, and the parts come from the arguments behind them
    obtain ⟨b, rest, bounds, ht, hl, hc, ho, hmake⟩ := of_repeated hrep
    obtain ⟨parts, rfl, hparts⟩ := of_make hmake
    refine pattern (.repeated b) parts (by simp) (by simp) ?_ ?_
    · intro b' hb'
      obtain rfl := Shape.repeated.inj hb'
      exact wellMade_of_repeated ht hl hc ho
    · intro f hf e he
      obtain ⟨v, hv, hbrings, htext⟩ := brings_of_make hparts hf he
      have harg : v ∈ args := (of_takeBounds ht).2 ▸ List.mem_append_right _ hv
      exact ⟨htext, ih v harg e hbrings⟩
  | spread _ ih => exact spread _ ih

/-- **Built patterns are plain.**  By `parts_induction`: a shape of the macros is in order, and the parts are textual
names or patterns built before. -/
theorem Built.plain {d : Datatype} (h : Built settings d) : d.Plain := by
  refine h.parts_induction ?_ ?_
  · intro shape parts _ hne hbounds hparts
    refine ⟨rfl, hne, fun b hb => (hbounds b hb).countable, Fragment.allPlain_iff.mpr ?_⟩
    intro f hf
    rw [Fragment.plain_iff]
    intro e he
    obtain ⟨htext, hplain⟩ := hparts f hf e he
    cases e with
    | named name spread => exact htext
    | pattern shape parts folded spread => exact hplain rfl
  · intro d hd
    cases d with
    | named name spread => exact hd
    | pattern shape parts folded spread => exact hd

/-- **Where the limit on bounds can be counted up to, built patterns keep to what can be counted.**  Their own bounds
are below the limit, and for the parts it is the induction hypothesis. -/
theorem Built.overflows_eq_false {d : Datatype} (h : Built settings d)
    (hlimit : settings.repeatLimit < Bounds.tooMany) : d.overflows = false := by
  refine h.parts_induction (P := fun d => d.overflows = false) ?_ ?_
  · intro shape parts _ _ hbounds hparts
    have hall : Fragment.overflowsIn parts = false := by
      rw [Fragment.overflowsIn_eq_false]
      intro f hf
      rw [Fragment.overflows_eq_false]
      intro e he
      obtain ⟨_, hsmall⟩ := hparts f hf e he
      cases e with
      | named name spread => rfl
      | pattern shape parts folded spread => exact hsmall rfl
    unfold Datatype.overflows
    rw [hall, Bool.or_false]
    -- of all shapes only a repetition has bounds
    cases shape with
    | repeated b => exact (hbounds b rfl).overflows_eq_false hlimit
    | _ => rfl
  · intro d hd
    cases d with
    | named name spread => rfl
    | pattern shape parts folded spread => exact hd

end Pattern

end StoryValues
