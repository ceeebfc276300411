import StoryValues.Proofs.Macro.Conformance
import StoryValues.Proofs.Run
import StoryValues.Proofs.Value.Errors
import StoryValues.Macro.Dispatch

/-
  DISPATCH LETS THROUGH what fits the signature, and stops at the first place where something is wrong.

  Dispatch goes through arguments and entries at once.  What comes of it is told here place by place, apart from that
  order.

  1. **Nothing is wrong at a place** (`Signature.ClearAt`) if the entry for it accepts the value there, which is free of
     errors, or if there is no value and none is required.
  2. **What can be wrong** (`Callee.StopsAt`) is one of five things: an error, a check that raises a fault, a value that
     is refused, one that is missing, and values that are too many.  Where one of them is, the place is not clear.
  3. **The loop** (`Callee.checkFrom_stops`), by induction on the entries that are left: all places before are clear.
     It ends with all places clear, or stops at the first that is not, with what is said of that place.
  4. **What goes through** (`arguments_ok`, `arguments_pass`) — the arguments and the values they stand for are free of
     errors, and these values fit the signature (`Signature.Admits`).  Of the least number of a rest entry only this
     much is checked: that there is a value, if any is asked for (`Signature.SomeIfAny`).  Only a call that goes through
     leaves a line that says so, and the values are passed on as they are, in order.
-/

namespace StoryValues

namespace Signature

variable {s : Signature} {settings : Settings} {values : List Value}

/-- Arguments stand for values that a macro may be given, as far as single values are concerned. -/
structure Admits (s : Signature) (settings : Settings) (args passed : List Value) : Prop where
  errorFree : ∀ v ∈ args, Value.ErrorFree v
  spread : Dispatch.spreadArguments args settings = .ok passed
  passedErrorFree : ∀ v ∈ passed, Value.ErrorFree v
  fits : s.Fits settings passed

/-- **Nothing is wrong at a place:** a value there is free of errors and accepted, and there is one if the place is
required. -/
structure ClearAt (s : Signature) (settings : Settings) (values : List Value) (i : Nat) : Prop where
  accepted : ∀ v, values[i]? = some v → v.ErrorFree ∧ ∃ e, s.Asks i e ∧ e.accepts v settings = .ok true
  required : s.Requires i → i < values.length

/-- **A check raises a fault:** dispatch comes to a value, since all places before are clear, and cannot tell whether
the entry for it accepts it. -/
def Raises (s : Signature) (settings : Settings) (values : List Value) (f : Fault) : Prop :=
  ∃ i v e, (∀ j < i, s.ClearAt settings values j) ∧ values[i]? = some v ∧ v.ErrorFree ∧ s.Asks i e ∧
    e.accepts v settings = .error (.fault f)

/-- Where nothing is wrong at any place, the values fit: each entry is asked about the value at its place, and behind
the values nothing is required. -/
theorem fits_of_clear (h : ∀ i, s.ClearAt settings values i) :
    (∀ v ∈ values, v.ErrorFree) ∧ s.Fits settings values ∧ s.SomeIfAny values := by
  refine ⟨fun v hv => ?_, fits_and_someIfAny_iff.mpr ⟨fun i v hv => ?_, fun i => (h i).required⟩⟩
  · obtain ⟨i, hi⟩ := List.mem_iff_getElem?.mp hv
    exact ((h i).accepted v hi).1
  · obtain ⟨-, e, hasks, haccepts⟩ := (h i).accepted v hv
    exact ⟨e, hasks, Entry.takes_of_accepts e haccepts⟩

end Signature

namespace Dispatch

variable {σ : Type} {settings : Settings} {w w' : World σ} {c : Callee}

namespace Callee

open Value (ErrorFree)

/-! ## Refusals -/

/-- Refusing arguments because they are too many never lets them through: it stops with an error, or with a fault of
the words for it. -/
theorem tooMany_ne_ok {n : Nat} {a : Unit} : c.tooMany n settings ≠ .ok a := by
  intro h
  obtain ⟨text, _, h⟩ := Check.bind_eq_ok.mp h
  obtain ⟨info, _, h⟩ := Check.bind_eq_ok.mp h
  exact Check.failWith_ne_ok h

/-- Saying that an argument is missing never lets the call through. -/
theorem missing_ne_ok {index : Nat} {e : Entry} {a : Unit} : c.missing index e settings ≠ .ok a := by
  intro h
  obtain ⟨info, _, h⟩ := Check.bind_eq_ok.mp h
  obtain ⟨text, _, h⟩ := Check.bind_eq_ok.mp h
  exact Check.failWith_ne_ok h

/-- Refusing an argument that its entry does not accept never lets the call through. -/
theorem refuse_ne_ok {index : Nat} {e : Entry} {v : Value} {a : Unit} :
    c.refuse index e v settings ≠ .ok a := by
  intro h
  obtain ⟨parts, _, h⟩ := Check.bind_eq_ok.mp h
  exact Check.failWith_ne_ok h

/-- The line that says at which position a call fails is all that happens besides. -/
theorem failAt_run (c : Callee) (index : Nat) (failure : Check Unit) (settings : Settings) (w : World σ) :
    c.failAt index failure settings w =
      (failure settings, w.noted s!"DISPATCH FAILED {c.label} position {index + 1}") := rfl

/-! ## Places -/

section

variable {values : List Value} {i : Nat} {stop : Check Unit}

/-- **Something is wrong at a place,** and this is what is said of it. -/
inductive StopsAt (c : Callee) (settings : Settings) (values : List Value) (i : Nat) : Check Unit → Prop
  | error {v : Value} {e : StoryError} : values[i]? = some v → v.FirstError e →
      StopsAt c settings values i (Check.story e)
  | raised {v : Value} {e : Entry} {f : Fault} : values[i]? = some v → v.ErrorFree → c.signature.Asks i e →
      e.accepts v settings = .error (.fault f) → StopsAt c settings values i (Check.fault f)
  | refused {v : Value} {e : Entry} : values[i]? = some v → v.ErrorFree → c.signature.Asks i e →
      e.accepts v settings = .ok false → StopsAt c settings values i (c.refuse i e v)
  | missing {e : Entry} : values.length ≤ i → c.signature.Requires i → c.signature.Asks i e →
      StopsAt c settings values i (c.missing i e)
  | surplus {v : Value} : values[i]? = some v → v.ErrorFree → c.signature.rest = none →
      i = c.signature.fixed.length → StopsAt c settings values i (c.tooMany (values.length - i))

/-- Where dispatch stops it does not go on, whichever of the five things is wrong. -/
theorem StopsAt.ne_ok (h : c.StopsAt settings values i stop) (a : Unit) : stop settings ≠ .ok a := by
  cases h with
  | error _ _ => exact nofun
  | raised _ _ _ _ => exact nofun
  | refused _ _ _ _ => exact refuse_ne_ok
  | missing _ _ _ => exact missing_ne_ok
  | surplus _ _ _ _ => exact tooMany_ne_ok

/-- What is said of a place is a failure of some kind: a story error, or a fault. -/
theorem StopsAt.exists_failure (h : c.StopsAt settings values i stop) : ∃ failure, stop settings = .error failure := by
  cases hstop : stop settings with
  | ok a => exact absurd hstop (h.ne_ok a)
  | error failure => exact ⟨failure, rfl⟩

/-- **A place where dispatch stops is not clear.**  With the converse in `checks_end`, stopping at a place and being
clear exclude one another and leave nothing out. -/
theorem StopsAt.not_clearAt (h : c.StopsAt settings values i stop) : ¬ c.signature.ClearAt settings values i := by
  intro hclear
  -- what is asked of the value is asked by one entry only, and that accepts it
  have haccepted : ∀ {e : Entry} {v : Value}, values[i]? = some v → c.signature.Asks i e →
      e.accepts v settings = .ok true := by
    intro e v hv hasks
    obtain ⟨-, e', hasks', haccepts⟩ := hclear.accepted v hv
    exact hasks.unique hasks' ▸ haccepts
  cases h with
  | error hv herror =>
    have hnone := Value.firstError?_eq_none.mpr (hclear.accepted _ hv).1
    exact nomatch hnone.symm.trans (Value.firstError?_eq_some.mpr herror)
  | raised hv _ hasks hraises => exact nomatch (haccepted hv hasks).symm.trans hraises
  | refused hv _ hasks hrefuses => exact absurd ((haccepted hv hasks).symm.trans hrefuses) (by simp)
  | missing hnone hrequires _ => exact absurd (hclear.required hrequires) (Nat.not_lt.mpr hnone)
  | surplus hv _ hrest hi =>
    obtain ⟨-, e, hasks | ⟨-, min, hasks⟩, -⟩ := hclear.accepted _ hv
    · exact absurd (List.getElem?_eq_some_iff.mp hasks).1 (Nat.not_lt.mpr (Nat.le_of_eq hi.symm))
    · exact nomatch hrest.symm.trans hasks

/-- A stop is what comes of all that follows it, too. -/
theorem StopsAt.bind {x : Run σ Unit} (h : c.StopsAt settings values i stop)
    (hx : x settings w = (stop settings, w')) (f : Unit → Run σ Unit) :
    (x >>= f) settings w = (stop settings, w') := by
  obtain ⟨failure, hstop⟩ := h.exists_failure
  rw [hstop] at hx ⊢
  exact Run.bind_of_error hx

/-- The value at a place goes on, and then it was accepted, or dispatch stops there.  An error in the value is found
before its entry is asked. -/
theorem checkOne_stops {e : Entry} {v : Value} (hv : values[i]? = some v) (hasks : c.signature.Asks i e) :
    (v.ErrorFree ∧ e.accepts v settings = .ok true ∧ c.checkOne i e v settings w = (.ok (), w)) ∨
      ∃ stop w', c.StopsAt settings values i stop ∧ c.checkOne i e v settings w = (stop settings, w') := by
  rcases Value.errorFree_or_firstError v with hfree | ⟨err, herror⟩
  · have hguard : (liftM v.guardError : Run σ Unit) settings w = (.ok (), w) :=
      Run.check_eq_ok.mpr ⟨rfl, Value.guardError_of_errorFree hfree⟩
    rw [checkOne, Run.bind_of_ok hguard]
    cases haccepts : e.accepts v settings with
    | error failure =>
      cases failure with
      | story err => exact absurd haccepts (Entry.accepts_ne_story e err)
      | fault f =>
        refine .inr ⟨_, w, .raised hv hfree hasks haccepts, Run.bind_of_error ?_⟩
        rw [Run.check_run, haccepts]
    | ok yes =>
      rw [Run.bind_of_ok (Run.check_eq_ok.mpr ⟨rfl, haccepts⟩)]
      cases yes with
      | true => exact .inl ⟨hfree, rfl, rfl⟩
      | false => exact .inr ⟨_, _, .refused hv hfree hasks haccepts, failAt_run ..⟩
  · refine .inr ⟨_, w, .error hv herror, Run.bind_of_error ?_⟩
    rw [Run.check_run, Value.guardError_of_firstError herror]

/-! ## The loop -/

/-- Where there are neither entries nor arguments left, and no rest entry, all is done. -/
theorem checkFrom_end {index : Nat} (h : c.signature.rest = none) :
    c.checkFrom index [] [] = (pure () : Run σ Unit) := by
  simp only [checkFrom, h]

/-- An argument that no entry is for is one too many, unless it is an error, which comes first. -/
theorem checkFrom_surplus {index : Nat} {arg : Value} {args : List Value} (h : c.signature.rest = none) :
    c.checkFrom index [] (arg :: args) =
      (do arg.guardError; c.tooMany (α := Unit) (args.length + 1) : Run σ Unit) := by
  simp only [checkFrom, h]

/-- Where a rest entry has nothing to ask, it is missing a value if it wants any. -/
theorem checkFrom_unmet {index : Nat} {inner : Entry} {min : Int} (h : c.signature.rest = some (inner, min)) :
    c.checkFrom index [] [] =
      (if 0 < min then c.failAt index (c.missing index inner) else pure () : Run σ Unit) := by
  simp only [checkFrom, h]

/-- Otherwise it is asked about each value that is left. -/
theorem checkFrom_rest {index : Nat} {arg : Value} {args : List Value} {inner : Entry} {min : Int}
    (h : c.signature.rest = some (inner, min)) :
    c.checkFrom index [] (arg :: args) = (c.checkRest inner index (arg :: args) : Run σ Unit) := by
  simp only [checkFrom, h]

/-- An entry without an argument must take that, and the next one is looked at. -/
theorem checkFrom_absent {index : Nat} {e : Entry} {es : List Entry} :
    c.checkFrom index (e :: es) [] =
      (if (!e.acceptsAbsence) = true then c.failAt index (c.missing index e) else pure () : Run σ Unit)
        >>= fun _ => c.checkFrom (index + 1) es [] := by
  rw [checkFrom]
  split <;> rfl

/-- **How the checks of values end:** with all places clear, or at the first place that is not, with what is said of
it. -/
def Ends (c : Callee) (settings : Settings) (values : List Value) (w : World σ)
    (result : Except Failure Unit × World σ) : Prop :=
  ((∀ i, c.signature.ClearAt settings values i) ∧ result = (.ok (), w)) ∨
    ∃ i stop w', (∀ j < i, c.signature.ClearAt settings values j) ∧ c.StopsAt settings values i stop ∧
      result = (stop settings, w')

/-- One more place is clear.  It is how the clear places grow along the loop. -/
theorem clear_succ {index : Nat} (h : ∀ j < index, c.signature.ClearAt settings values j)
    (hindex : c.signature.ClearAt settings values index) : ∀ j < index + 1, c.signature.ClearAt settings values j :=
  fun j hj => (Nat.lt_succ_iff_lt_or_eq.mp hj).elim (h j) fun heq => heq ▸ hindex

/-- A place behind which there is neither a value nor a requirement is clear. -/
theorem clearAt_of_le {i : Nat} (hvalues : values.length ≤ i) (hrequires : ¬ c.signature.Requires i) :
    c.signature.ClearAt settings values i :=
  ⟨fun _ hv => absurd (List.getElem?_eq_some_iff.mp hv).1 (Nat.not_lt.mpr hvalues), fun h => absurd h hrequires⟩

/-- What stands first behind a place stands at it.  The loop has the values that are left, and places count from the
front. -/
theorem of_drop_eq_cons {α : Type} {xs ys : List α} {x : α} {n : Nat} (h : xs.drop n = x :: ys) :
    xs[n]? = some x ∧ xs.length - n = ys.length + 1 := by
  constructor
  · rw [← Nat.add_zero n, ← List.getElem?_drop, h]
    rfl
  · rw [← List.length_drop, h]
    rfl

/-- The values for the rest entry, when all places before are clear.  By induction on them, with the number of the
place going along. -/
theorem checkRest_ends {inner : Entry} {min : Int} (hrest : c.signature.rest = some (inner, min)) {args : List Value} :
    ∀ {index : Nat}, c.signature.fixed.length < index ∨ index = c.signature.fixed.length ∧ args ≠ [] →
      values.drop index = args → (∀ j < index, c.signature.ClearAt settings values j) →
      c.Ends settings values w (c.checkRest inner index args settings w) := by
  induction args with
  | nil =>
    intro index hindex hargs hclear
    -- no value is left; the rest entry requires one only at the first of its places
    have hbehind : c.signature.fixed.length < index := hindex.resolve_right fun h => h.2 rfl
    refine .inl ⟨fun i => ?_, rfl⟩
    rcases Nat.lt_or_ge i index with hi | hi
    · exact hclear i hi
    · refine clearAt_of_le (Nat.le_trans (List.drop_eq_nil_iff.mp hargs) hi) ?_
      rintro (⟨e, he, -⟩ | ⟨rfl, -⟩)
      · exact absurd (List.getElem?_eq_some_iff.mp he).1 (by omega)
      · omega
  | cons arg args ih =>
    intro index hindex hargs hclear
    have hle : c.signature.fixed.length ≤ index := hindex.elim Nat.le_of_lt fun h => Nat.le_of_eq h.1.symm
    obtain ⟨hv, -⟩ := of_drop_eq_cons hargs
    have hasks : c.signature.Asks index inner := .inr ⟨hle, min, hrest⟩
    rw [checkRest]
    -- the value is clear, and the next one is looked at, or the check stops here
    rcases checkOne_stops (w := w) hv hasks with ⟨hfree, haccepts, hone⟩ | ⟨stop, w', hstops, hone⟩
    · rw [Run.bind_of_ok hone]
      refine ih (.inl (Nat.lt_succ_of_le hle)) ?_ (clear_succ hclear ⟨fun v hv' => ?_, fun _ => ?_⟩)
      · rw [← List.tail_drop, hargs]
        rfl
      · obtain rfl := Option.some.inj (hv.symm.trans hv')
        exact ⟨hfree, inner, hasks, haccepts⟩
      · exact (List.getElem?_eq_some_iff.mp hv).1
    · exact .inr ⟨index, stop, w', hclear, hstops, hstops.bind hone _⟩

/-- **What is left of the checks ends as all of them do,** by induction on the entries that are left.  All places before
are clear. -/
theorem checkFrom_ends {entries : List Entry} : ∀ {index : Nat} {args : List Value}, index ≤ c.signature.fixed.length →
    c.signature.fixed.drop index = entries → values.drop index = args →
      (∀ j < index, c.signature.ClearAt settings values j) →
        c.Ends settings values w (c.checkFrom index entries args settings w) := by
  -- the cases are those of the loop: entries and arguments, entries alone, arguments alone, neither
  induction entries with
  | nil =>
    intro index args hindex hentries hargs hclear
    obtain rfl : index = c.signature.fixed.length := Nat.le_antisymm hindex (List.drop_eq_nil_iff.mp hentries)
    have hfixed : ∀ {i : Nat}, c.signature.fixed.length ≤ i → c.signature.fixed[i]? = none := fun h =>
      List.getElem?_eq_none h
    -- once no value is left, the other places are clear unless the first of them is required
    have hends : args = [] → (∀ i, ¬ (c.signature.fixed.length ≤ i ∧ c.signature.Requires i)) →
        ∀ i, c.signature.ClearAt settings values i := by
      rintro rfl hnone i
      rcases Nat.lt_or_ge i c.signature.fixed.length with hi | hi
      · exact hclear i hi
      · exact clearAt_of_le (Nat.le_trans (List.drop_eq_nil_iff.mp hargs) hi) fun h => hnone i ⟨hi, h⟩
    cases hrest : c.signature.rest with
    | none =>
      cases args with
      | nil =>
        rw [checkFrom_end hrest]
        refine .inl ⟨hends rfl ?_, rfl⟩
        rintro i ⟨hi, ⟨e, he, -⟩ | ⟨-, inner, min, hsome, -⟩⟩
        · exact nomatch (hfixed hi).symm.trans he
        · exact nomatch hrest.symm.trans hsome
      | cons arg args =>
        -- more arguments than entries are refused, whatever they are
        obtain ⟨hv, hcount⟩ := of_drop_eq_cons hargs
        rw [checkFrom_surplus hrest, ← hcount]
        rcases Value.errorFree_or_firstError arg with hfree | ⟨err, herror⟩
        · rw [Run.bind_of_ok (Run.check_eq_ok.mpr ⟨rfl, Value.guardError_of_errorFree hfree⟩)]
          exact .inr ⟨_, _, w, hclear, .surplus hv hfree hrest rfl, rfl⟩
        · refine .inr ⟨_, _, w, hclear, .error hv herror, Run.bind_of_error ?_⟩
          rw [Run.check_run, Value.guardError_of_firstError herror]
    | some entry =>
      obtain ⟨inner, min⟩ := entry
      cases args with
      | nil =>
        -- the least number of the rest entry is looked at here, and nowhere else
        rw [checkFrom_unmet hrest]
        have hasks : c.signature.Asks c.signature.fixed.length inner := .inr ⟨Nat.le_refl _, min, hrest⟩
        by_cases hmin : 0 < min
        · rw [if_pos hmin]
          have hrequires : c.signature.Requires c.signature.fixed.length := .inr ⟨rfl, inner, min, hrest, hmin⟩
          exact .inr ⟨_, _, _, hclear, .missing (List.drop_eq_nil_iff.mp hargs) hrequires hasks, failAt_run ..⟩
        · rw [if_neg hmin]
          refine .inl ⟨hends rfl ?_, rfl⟩
          rintro i ⟨hi, ⟨e, he, -⟩ | ⟨-, inner', min', hsome, hpos⟩⟩
          · exact nomatch (hfixed hi).symm.trans he
          · obtain ⟨rfl, rfl⟩ := Prod.mk.inj (Option.some.inj (hrest.symm.trans hsome))
            exact hmin hpos
      | cons arg args =>
        rw [checkFrom_rest hrest]
        exact checkRest_ends hrest (.inr ⟨rfl, List.cons_ne_nil arg args⟩) hargs hclear
  | cons e es ih =>
    intro index args _ hentries hargs hclear
    obtain ⟨he, hes⟩ := of_drop_eq_cons hentries
    have hindex : index + 1 ≤ c.signature.fixed.length := (List.getElem?_eq_some_iff.mp he).1
    have hentries : c.signature.fixed.drop (index + 1) = es := by rw [← List.tail_drop, hentries]; rfl
    have hasks : c.signature.Asks index e := .inl he
    cases args with
    | nil =>
      -- an entry without an argument
      have hnone : values.length ≤ index := List.drop_eq_nil_iff.mp hargs
      rw [checkFrom_absent]
      by_cases habsent : e.acceptsAbsence = true
      · rw [habsent, if_neg (by decide), Run.bind_of_ok (Run.pure_run ())]
        refine ih hindex hentries (List.drop_eq_nil_iff.mpr (Nat.le_succ_of_le hnone)) (clear_succ hclear ?_)
        refine clearAt_of_le hnone ?_
        rintro (⟨e', he', hnot⟩ | ⟨rfl, -⟩)
        · obtain rfl := Option.some.inj (he.symm.trans he')
          exact hnot ((Entry.acceptsAbsence_iff e).mp habsent)
        · exact absurd hindex (Nat.not_succ_le_self _)
      · rw [if_pos (by simpa using habsent)]
        have hrequires : c.signature.Requires index := .inl ⟨e, he, fun h => habsent ((Entry.acceptsAbsence_iff e).mpr h)⟩
        have hmissing : c.StopsAt settings values index (c.missing index e) := .missing hnone hrequires hasks
        exact .inr ⟨index, _, _, hclear, hmissing, hmissing.bind (failAt_run ..) _⟩
    | cons arg args =>
      obtain ⟨hv, -⟩ := of_drop_eq_cons hargs
      rw [checkFrom]
      rcases checkOne_stops (w := w) hv hasks with ⟨hfree, haccepts, hone⟩ | ⟨stop, w', hstops, hone⟩
      · rw [Run.bind_of_ok hone]
        refine ih hindex hentries (by rw [← List.tail_drop, hargs]; rfl) (clear_succ hclear ⟨fun v hv' => ?_, fun _ => ?_⟩)
        · obtain rfl := Option.some.inj (hv.symm.trans hv')
          exact ⟨hfree, e, hasks, haccepts⟩
        · exact (List.getElem?_eq_some_iff.mp hv).1
      · exact .inr ⟨index, stop, w', hclear, hstops, hstops.bind hone _⟩

/-- **All checks of values** end so: the loop is read from the first place on, where all places before are clear for
there are none.  What follows about dispatch is read off this and does not open the loop again. -/
theorem checks_end (c : Callee) (settings : Settings) (values : List Value) (w : World σ) :
    c.Ends settings values w (c.checkFrom 0 c.signature.fixed values settings w) :=
  checkFrom_ends (Nat.zero_le _) rfl rfl fun j hj => absurd hj (Nat.not_lt_zero j)

/-- **Values pass iff all places are clear,** and then nothing has happened.  A loop that ends otherwise stops, and
then it does not pass. -/
theorem checks_pass_iff :
    c.checkFrom 0 c.signature.fixed values settings w = (.ok (), w') ↔
      w' = w ∧ ∀ i, c.signature.ClearAt settings values i := by
  rcases checks_end c settings values w with ⟨hclear, hrun⟩ | ⟨i, stop, w₁, -, hstops, hrun⟩
  · rw [hrun, Prod.mk.injEq, eq_comm (a := w)]
    exact ⟨fun h => ⟨h.2, hclear⟩, fun h => ⟨rfl, h.1⟩⟩
  · rw [hrun]
    refine ⟨fun h => absurd (Prod.mk.inj h).1 (hstops.ne_ok ()), fun h => absurd (h.2 i) hstops.not_clearAt⟩

/-- **What stops values that fit** is a check that raises a fault, or a value that is missing.  The other three things
that can be wrong are what fitting excludes. -/
theorem StopsAt.of_fits (h : c.StopsAt settings values i stop)
    (hclear : ∀ j < i, c.signature.ClearAt settings values j) (hfree : ∀ v ∈ values, ErrorFree v)
    (hfits : c.signature.Fits settings values) :
    (∃ f, c.signature.Raises settings values f ∧ stop = Check.fault f) ∨
      ∃ e, values.length ≤ i ∧ c.signature.Requires i ∧ stop = c.missing i e := by
  cases h with
  | @error v e hv herror =>
    have hnone := Value.firstError?_eq_none.mpr (hfree v (List.mem_of_getElem? hv))
    exact nomatch hnone.symm.trans (Value.firstError?_eq_some.mpr herror)
  | raised hv hfree hasks hraises => exact .inl ⟨_, ⟨i, _, _, hclear, hv, hfree, hasks, hraises⟩, rfl⟩
  | refused hv _ hasks hrefuses =>
    obtain ⟨e', hasks', htakes⟩ := hfits.exists_asks hv
    obtain rfl := hasks.unique hasks'
    rcases htakes.accepts with haccepts | ⟨f, hraises⟩
    · exact absurd (haccepts.symm.trans hrefuses) (by simp)
    · exact nomatch hraises.symm.trans hrefuses
  | missing hnone hrequires _ => exact .inr ⟨_, hnone, hrequires, rfl⟩
  | surplus hv _ hrest hi =>
    have hlt := (List.getElem?_eq_some_iff.mp hv).1
    exact absurd (hfits.noMore hrest) (Nat.not_le.mpr (hi ▸ hlt))

end

end Callee

/-! ## The whole -/

/-- The line that a call leaves that goes through. -/
def passedLine (c : Callee) (passed : List Value) : String :=
  let shown := if c.name = "" then "custom macro" else c.name
  s!"DISPATCH {shown} argc {passed.length}"

/-- What comes of arguments without errors is what comes of checking the values they stand for. -/
theorem arguments_of_spread {args passed : List Value} (hfree : ∀ v ∈ args, Value.ErrorFree v)
    (hspread : spreadArguments args settings = .ok passed) :
    arguments c args settings w =
      (c.checkFrom 0 c.signature.fixed passed >>= fun _ => do
        Run.notice (passedLine c passed)
        return passed) settings w := by
  have hguard : (liftM (Value.guardErrors args) : Run σ Unit) settings w = (.ok (), w) :=
    Run.check_eq_ok.mpr ⟨rfl, Value.guardError_of_errorFree (Value.errorFree_array.mpr hfree)⟩
  rw [arguments, Run.bind_of_ok hguard, Run.bind_of_ok (Run.check_eq_ok.mpr ⟨rfl, hspread⟩)]
  rfl

/-- **What dispatch lets through** stands for values that the signature admits, among them one for the
rest entry if that asks for any.  All that has happened is that a line says so. -/
theorem arguments_ok {args passed : List Value} (h : arguments c args settings w = (.ok passed, w')) :
    c.signature.Admits settings args passed ∧ c.signature.SomeIfAny passed ∧
      w' = w.noted (passedLine c passed) := by
  -- one step of dispatch after another: guard, spread, check, notice
  obtain ⟨_, w₁, hguards, h₁⟩ := Run.bind_eq_ok.mp h
  obtain ⟨rfl, hguard⟩ := Run.check_eq_ok.mp hguards
  obtain ⟨values, w₂, hspreads, h₂⟩ := Run.bind_eq_ok.mp h₁
  obtain ⟨rfl, hspread⟩ := Run.check_eq_ok.mp hspreads
  obtain ⟨_, w₃, hcheck, h₃⟩ := Run.bind_eq_ok.mp h₂
  obtain ⟨rfl, hclear⟩ := Callee.checks_pass_iff.mp hcheck
  obtain ⟨hfree, hfits, hsome⟩ := Signature.fits_of_clear hclear
  obtain ⟨_, w₄, hnotice, hpure⟩ := Run.bind_eq_ok.mp h₃
  obtain ⟨hpassed, rfl⟩ := Prod.mk.inj hpure
  obtain rfl := Except.ok.inj hpassed
  have hargs : ∀ v ∈ args, Value.ErrorFree v := by
    rcases Value.errorFree_or_firstError (.array args) with hfree | ⟨err, herr⟩
    · exact Value.errorFree_array.mp hfree
    · rw [Value.guardErrors_eq, Value.guardError_of_firstError herr] at hguard
      exact nomatch hguard
  exact ⟨⟨hargs, hspread, hfree, hfits⟩, hsome, (Prod.mk.inj hnotice).2.symm⟩

/-- **What the signature admits, dispatch lets through,** with a value for the rest entry if that asks for
any, and unless a check that it comes to raises a fault. -/
theorem arguments_pass {args passed : List Value} (h : c.signature.Admits settings args passed)
    (hsome : c.signature.SomeIfAny passed) :
    arguments c args settings w = (.ok passed, w.noted (passedLine c passed)) ∨
      ∃ f w', c.signature.Raises settings passed f ∧ arguments c args settings w = (.error (.fault f), w') := by
  rw [arguments_of_spread h.errorFree h.spread]
  rcases Callee.checks_end c settings passed w with ⟨-, hcheck⟩ | ⟨i, stop, w', hclear, hstops, hcheck⟩
  · left
    rw [Run.bind_of_ok hcheck]
    rfl
  · rcases hstops.of_fits hclear h.passedErrorFree h.fits with ⟨f, hraises, rfl⟩ | ⟨e, hnone, hrequires, -⟩
    · exact .inr ⟨f, w', hraises, Run.bind_of_error hcheck⟩
    · exact absurd (Signature.lt_of_requires h.fits hsome hrequires) (Nat.not_lt.mpr hnone)

/-- **An error among the arguments is all there is of a call:** the first one stops it, before anything is spread or
counted. -/
theorem arguments_firstError {args : List Value} {e : StoryError}
    (h : Value.FirstError (.array args) e) :
    arguments c args settings w = (.error (.story e), w) := by
  have hguard : (liftM (Value.guardErrors args) : Run σ Unit) settings w = (.error (.story e), w) := by
    rw [Run.check_run, Value.guardErrors_eq, Value.guardError_of_firstError h]
  exact Run.bind_of_error hguard

end Dispatch

end StoryValues
