import StoryValues.Proofs.Check
import StoryValues.Macro.Signature

/-
  WHAT A SIGNATURE ASKS of the arguments of a call.

  1. **One entry** takes a value (`Entry.Takes`), or takes that there is none (`Entry.TakesNothing`).
     Both follow the entry: an optional one, a wrapped one and a choice ask what the entries in them
     ask, and every other entry asks something of its own.
  2. **A check says what its entry asks** (`takes_of_accepts`, `Takes.accepts`), unless it raises a fault.
  3. **All positions** — values **fit** a signature when each fixed entry takes the value at its
     position, or takes that there is none, and all values behind are taken by the rest entry, without
     which there are none (`Signature.Fits`).
-/

namespace StoryValues

namespace Entry

variable {settings : Settings} {v : Value}

/-! ## One entry -/

/-- An entry takes a value. -/
inductive Takes (settings : Settings) (v : Value) : Entry → Prop
  | plain {name word : String} {test : Value → Except Fault Bool} :
      plainKinds.lookup name = some (test, word) → test v = .ok true → Takes settings v (.plain name)
  | kind {k : Kind} : k.holds v = true → Takes settings v (.kind k)
  | optional {inner : Entry} : Takes settings v inner → Takes settings v (.optional inner)
  | rest {inner : Entry} {min : Int} : Takes settings v inner → Takes settings v (.rest inner min)
  | either {option : Entry} {options : List Entry} :
      option ∈ options → Takes settings v option → Takes settings v (.either options)
  | wrapped {inner : Entry} {message : String} :
      Takes settings v inner → Takes settings v (.wrapped inner message)
  | range {low high : Number} {whole : Bool} :
      inRange low high whole v = .ok true → Takes settings v (.range low high whole)
  | positive : inRange leastPositive infinity false v = .ok true → Takes settings v .positive
  | conforming {d : Datatype} : d.accepts v settings = .ok true → Takes settings v (.conforming d)
  | oneOf {names : List String} {name s : String} : v = .string s → name ∈ names →
      insensitiveName name = insensitiveName s → Takes settings v (.oneOf names)
  | lambda {clauses : List Clause} {l : Lambda} : v = .lambda l →
      (∀ c, l.has c = clauses.contains c) → Takes settings v (.lambda clauses)
  | any : v.isUnstorable = false → Takes settings v .any

/-- An entry takes that there is no value. -/
inductive TakesNothing : Entry → Prop
  | optional {inner : Entry} : TakesNothing (.optional inner)
  | rest {inner : Entry} {min : Int} : TakesNothing inner → TakesNothing (.rest inner min)
  | either {option : Entry} {options : List Entry} :
      option ∈ options → TakesNothing option → TakesNothing (.either options)
  | wrapped {inner : Entry} {message : String} : TakesNothing inner → TakesNothing (.wrapped inner message)

/-! ## Checks of one entry -/

/-- All clauses are listed. -/
theorem mem_all (c : Clause) : c ∈ Clause.all := by
  cases c <;> decide

/-- A lambda has the clauses of an entry iff it has each of them and no other. -/
theorem hasShape_iff {clauses : List Clause} {l : Lambda} :
    hasShape clauses l = true ↔ ∀ c, l.has c = clauses.contains c := by
  rw [hasShape, List.all_eq_true]
  constructor
  · intro h c
    exact beq_iff_eq.mp (h c (mem_all c))
  · intro h c _
    exact beq_iff_eq.mpr (h c)

/-- A test by a datatype says yes iff the datatype does. -/
theorem conforms_eq_ok_true {d : Datatype} :
    conforms d v settings = .ok true ↔ d.accepts v settings = .ok true := by
  rw [conforms, Check.bind_eq_ok]
  constructor
  · rintro ⟨r, hr, hyes⟩
    cases r with
    | ok yes =>
      obtain rfl : yes = true := Except.ok.inj hyes
      exact Check.attempt_eq_ok.mp hr
    | error e => exact absurd (Except.ok.inj hyes) (by decide)
  · intro h
    exact ⟨.ok true, Check.attempt_eq_ok.mpr h, rfl⟩

mutual

/-- **What a check accepts, its entry takes.**  By recursion on the entry along with lists of entries, following the
check. -/
theorem takes_of_accepts : (e : Entry) → accepts v e settings = .ok true → Takes settings v e
  | .plain name, h => by
    unfold accepts at h
    cases hlookup : plainKinds.lookup name with
    | some entry =>
      obtain ⟨test, word⟩ := entry
      rw [hlookup] at h
      exact .plain hlookup (Check.lift_eq_ok.mp h)
    | none =>
      rw [hlookup] at h
      -- a kind that is not listed is a fault
      exact absurd h (by simp [Check.fault])
  | .kind k, h => .kind (Except.ok.inj h)
  | .optional inner, h => .optional (takes_of_accepts inner h)
  | .rest inner min, h => .rest (takes_of_accepts inner h)
  | .wrapped inner message, h => .wrapped (takes_of_accepts inner h)
  | .either options, h => by
    obtain ⟨option, hmem, htakes⟩ := takes_of_acceptsOne options h
    exact .either hmem htakes
  | .range low high whole, h => .range (Check.lift_eq_ok.mp h)
  | .positive, h => .positive (Check.lift_eq_ok.mp h)
  | .conforming d, h => .conforming (conforms_eq_ok_true.mp h)
  | .oneOf names, h => by
    unfold accepts at h
    cases v with
    | string s =>
      obtain ⟨name, hmem, hname⟩ := List.any_eq_true.mp (Except.ok.inj h)
      exact .oneOf rfl hmem (beq_iff_eq.mp hname)
    | _ => exact absurd (Except.ok.inj h) (by decide)
  | .lambda clauses, h => by
    unfold accepts at h
    cases v with
    | lambda l => exact .lambda rfl (hasShape_iff.mp (Except.ok.inj h))
    | _ => exact absurd (Except.ok.inj h) (by decide)
  | .any, h => by
    have hany : (!v.isUnstorable) = true := Except.ok.inj h
    exact .any (by simpa using hany)

/-- What a check of several entries accepts, one of them takes. -/
theorem takes_of_acceptsOne : (es : List Entry) → acceptsOne v es settings = .ok true →
    ∃ e ∈ es, Takes settings v e
  | [], h => absurd (Except.ok.inj h) (by decide)
  | e :: es, h => by
    rw [acceptsOne] at h
    obtain ⟨yes, he, h⟩ := Check.bind_eq_ok.mp h
    cases yes with
    | true => exact ⟨e, List.mem_cons_self, takes_of_accepts e he⟩
    | false =>
      obtain ⟨option, hmem, htakes⟩ := takes_of_acceptsOne es h
      exact ⟨option, List.mem_cons_of_mem e hmem, htakes⟩

end

mutual

/-- A check of an entry answers, or raises a fault; it is never a story error.  Where a datatype refuses to be asked the
refusal is set aside, and counts as an answer. -/
theorem accepts_ne_story : (e : Entry) → ∀ err, accepts v e settings ≠ .error (.story err)
  | .plain name => by
    unfold accepts
    cases plainKinds.lookup name with
    | some entry => exact Check.lift_ne_story _
    | none =>
      intro err h
      exact absurd h (by simp [Check.fault])
  | .kind k => fun err h => nomatch h
  | .optional inner => accepts_ne_story inner
  | .rest inner min => accepts_ne_story inner
  | .wrapped inner message => accepts_ne_story inner
  | .either options => acceptsOne_ne_story options
  | .range low high whole => Check.lift_ne_story _
  | .positive => Check.lift_ne_story _
  | .conforming d => by
    refine Check.bind_ne_story (Check.attempt_ne_story _) fun r err h => ?_
    cases r with
    | ok yes => exact nomatch h
    | error e => exact nomatch h
  | .oneOf names => by
    unfold accepts
    intro err h
    cases v <;> exact nomatch h
  | .lambda clauses => by
    unfold accepts
    intro err h
    cases v <;> exact nomatch h
  | .any => fun err h => nomatch h

/-- Nor is a check of several entries. -/
theorem acceptsOne_ne_story : (es : List Entry) → ∀ err, acceptsOne v es settings ≠ .error (.story err)
  | [] => fun err h => nomatch h
  | e :: es => by
    rw [acceptsOne]
    refine Check.bind_ne_story (accepts_ne_story e) fun yes => ?_
    cases yes with
    | true => exact fun err h => nomatch h
    | false => exact acceptsOne_ne_story es

end

/-- A check of several entries accepts what a check of one of them accepts, unless a check before that
raises a fault. -/
theorem acceptsOne_of_mem {option : Entry} {options : List Entry} (hmem : option ∈ options)
    (h : accepts v option settings = .ok true ∨ ∃ f, accepts v option settings = .error (.fault f)) :
    acceptsOne v options settings = .ok true ∨
      ∃ f, acceptsOne v options settings = .error (.fault f) := by
  induction options with
  | nil => exact absurd hmem List.not_mem_nil
  | cons e es ih =>
    rw [acceptsOne]
    cases hfirst : accepts v e settings with
    | error failure =>
      cases failure with
      | story err => exact absurd hfirst (accepts_ne_story e err)
      | fault f => exact Or.inr ⟨f, Check.bind_of_error hfirst⟩
    | ok yes =>
      rw [Check.bind_of_ok hfirst]
      cases yes with
      | true => exact Or.inl rfl
      | false =>
        -- the first entry says no, so it is not the one that accepts
        rcases List.mem_cons.mp hmem with rfl | hmem
        · rw [hfirst] at h
          exact absurd h (by simp)
        · exact ih hmem

/-- **What an entry takes, its check accepts,** unless the check raises a fault.  By induction on the taking.  A
choice may raise a fault at an option before the one that takes the value. -/
theorem Takes.accepts {e : Entry} (h : Takes settings v e) :
    accepts v e settings = .ok true ∨ ∃ f, Entry.accepts v e settings = .error (.fault f) := by
  induction h with
  | plain hlookup htest =>
    left
    unfold Entry.accepts
    rw [hlookup]
    exact Check.lift_eq_ok.mpr htest
  | kind h => exact Or.inl (congrArg Except.ok h)
  | optional _ ih => exact ih
  | rest _ ih => exact ih
  | wrapped _ ih => exact ih
  | either hmem _ ih => exact acceptsOne_of_mem hmem ih
  | range h => exact Or.inl (Check.lift_eq_ok.mpr h)
  | positive h => exact Or.inl (Check.lift_eq_ok.mpr h)
  | conforming h => exact Or.inl (conforms_eq_ok_true.mpr h)
  | oneOf hv hmem hname =>
    subst hv
    exact Or.inl (congrArg Except.ok (List.any_eq_true.mpr ⟨_, hmem, beq_iff_eq.mpr hname⟩))
  | lambda hv hshape =>
    subst hv
    exact Or.inl (congrArg Except.ok (hasShape_iff.mpr hshape))
  | any h =>
    left
    unfold Entry.accepts
    rw [h]
    rfl

mutual

/-- **The check for no value says what its entry asks.**  By recursion on the entry along with lists of entries. -/
theorem acceptsAbsence_iff : (e : Entry) → (e.acceptsAbsence = true ↔ TakesNothing e)
  | .optional inner => ⟨fun _ => .optional, fun _ => rfl⟩
  | .rest inner min => by
    constructor
    · intro h
      exact .rest ((acceptsAbsence_iff inner).mp h)
    · intro h
      cases h with
      | rest h => exact (acceptsAbsence_iff inner).mpr h
  | .wrapped inner message => by
    constructor
    · intro h
      exact .wrapped ((acceptsAbsence_iff inner).mp h)
    · intro h
      cases h with
      | wrapped h => exact (acceptsAbsence_iff inner).mpr h
  | .either options => by
    constructor
    · intro h
      obtain ⟨option, hmem, htakes⟩ := (oneAcceptsAbsence_iff options).mp h
      exact .either hmem htakes
    · intro h
      cases h with
      | either hmem h => exact (oneAcceptsAbsence_iff options).mpr ⟨_, hmem, h⟩
  | .plain _ | .kind _ | .range .. | .positive | .conforming _ | .oneOf _ | .lambda _ | .any =>
    -- no other entry has a rule by which it takes nothing
    ⟨fun h => absurd h (by simp [acceptsAbsence]), fun h => nomatch h⟩

/-- The check for no value by several entries says what one of them asks. -/
theorem oneAcceptsAbsence_iff : (es : List Entry) →
    (oneAcceptsAbsence es = true ↔ ∃ e ∈ es, TakesNothing e)
  | [] => ⟨fun h => absurd h (by simp [oneAcceptsAbsence]), fun ⟨_, h, _⟩ => absurd h List.not_mem_nil⟩
  | e :: es => by
    rw [oneAcceptsAbsence, Bool.or_eq_true, acceptsAbsence_iff e, oneAcceptsAbsence_iff es]
    simp only [List.mem_cons, exists_eq_or_imp]

end

end Entry

/-! ## All positions -/

namespace Signature

/-- How many values there are for the rest entry. -/
def surplus (s : Signature) (values : List Value) : Nat := values.length - s.fixed.length

/-- **Values fit a signature.**  Each fixed entry takes the value at its position or, where there is
none, takes that; the rest entry takes all values behind them, and without it there are none. -/
structure Fits (s : Signature) (settings : Settings) (values : List Value) : Prop where
  present : ∀ (i : Nat) (e : Entry) (v : Value),
    s.fixed[i]? = some e → values[i]? = some v → e.Takes settings v
  absent : ∀ (i : Nat) (e : Entry), s.fixed[i]? = some e → values[i]? = none → e.TakesNothing
  behind : ∀ inner min, s.rest = some (inner, min) →
    ∀ v ∈ values.drop s.fixed.length, inner.Takes settings v
  noMore : s.rest = none → values.length ≤ s.fixed.length

/-- There are at least as many values for the rest entry as it asks for. -/
def Enough (s : Signature) (values : List Value) : Prop :=
  ∀ inner min, s.rest = some (inner, min) → min ≤ s.surplus values

/-- There is a value for the rest entry, if it asks for any. -/
def SomeIfAny (s : Signature) (values : List Value) : Prop :=
  ∀ inner min, s.rest = some (inner, min) → 0 < min → 0 < s.surplus values

/-- **The entry for a place:** the fixed one there, or behind all of these the rest entry. -/
def Asks (s : Signature) (i : Nat) (e : Entry) : Prop :=
  s.fixed[i]? = some e ∨ s.fixed.length ≤ i ∧ ∃ min, s.rest = some (e, min)

/-- **A required place:** the entry there does not take that there is no value, or it is the rest entry and asks for
one. -/
def Requires (s : Signature) (i : Nat) : Prop :=
  (∃ e, s.fixed[i]? = some e ∧ ¬ e.TakesNothing) ∨
    i = s.fixed.length ∧ ∃ inner min, s.rest = some (inner, min) ∧ 0 < min

/-! ### Place by place -/

section

variable {s : Signature} {settings : Settings} {values : List Value} {e e' : Entry} {v : Value} {i : Nat}

/-- There is one entry for a place at most: a fixed one where there is one, and the rest entry only behind these. -/
theorem Asks.unique (h : s.Asks i e) (h' : s.Asks i e') : e = e' := by
  rcases h with h | ⟨hbehind, min, hrest⟩
  · rcases h' with h' | ⟨hbehind, -⟩
    · exact Option.some.inj (h.symm.trans h')
    · exact absurd (List.getElem?_eq_some_iff.mp h).1 (Nat.not_lt.mpr hbehind)
  · rcases h' with h' | ⟨-, min', hrest'⟩
    · exact absurd (List.getElem?_eq_some_iff.mp h').1 (Nat.not_lt.mpr hbehind)
    · exact (Prod.mk.inj (Option.some.inj (hrest.symm.trans hrest'))).1

/-- The entry for a place is one of the signature. -/
theorem Asks.mem_entries (h : s.Asks i e) : e ∈ s.entries := by
  rw [entries, List.mem_append]
  rcases h with h | ⟨-, min, hrest⟩
  · exact .inl (List.mem_of_getElem? h)
  · right
    rw [hrest]
    exact List.mem_singleton_self e

/-- The entry for the place of a value takes it, if the values fit.  Statements about single arguments come from here.
-/
theorem Fits.exists_asks (h : s.Fits settings values) (hv : values[i]? = some v) :
    ∃ e, s.Asks i e ∧ e.Takes settings v := by
  have hi := (List.getElem?_eq_some_iff.mp hv).1
  rcases Nat.lt_or_ge i s.fixed.length with hfixed | hbehind
  · have he := List.getElem?_eq_getElem hfixed
    exact ⟨_, .inl he, h.present i _ v he hv⟩
  · cases hrest : s.rest with
    | none => exact absurd (Nat.lt_of_lt_of_le hi (h.noMore hrest)) (Nat.not_lt.mpr hbehind)
    | some entry =>
      obtain ⟨inner, min⟩ := entry
      refine ⟨inner, .inr ⟨hbehind, min, hrest⟩, h.behind inner min hrest v ?_⟩
      refine List.mem_iff_getElem?.mpr ⟨i - s.fixed.length, ?_⟩
      rw [List.getElem?_drop, Nat.add_sub_cancel' hbehind]
      exact hv

/-- **What fits has a value at each required place,** if there is one for a rest entry that asks for any. -/
theorem lt_of_requires (hfits : s.Fits settings values) (hsome : s.SomeIfAny values) (h : s.Requires i) :
    i < values.length := by
  rcases h with ⟨e, he, hnot⟩ | ⟨rfl, inner, min, hrest, hmin⟩
  · by_contra hlt
    have hnone : values[i]? = none := List.getElem?_eq_none (Nat.not_lt.mp hlt)
    exact hnot (hfits.absent i e he hnone)
  · have hsurplus : 0 < values.length - s.fixed.length := hsome inner min hrest hmin
    omega

/-- **Place by place, the same is asked:** the entry for a place takes the value there, there is a value for each
required place, and for each value there is an entry. -/
theorem fits_and_someIfAny_iff :
    s.Fits settings values ∧ s.SomeIfAny values ↔
      (∀ i v, values[i]? = some v → ∃ e, s.Asks i e ∧ e.Takes settings v) ∧ ∀ i, s.Requires i → i < values.length := by
  constructor
  · rintro ⟨hfits, hsome⟩
    exact ⟨fun i v hv => hfits.exists_asks hv, fun i hi => lt_of_requires hfits hsome hi⟩
  · rintro ⟨htakes, hvalue⟩
    refine ⟨⟨fun i e v he hv => ?_, fun i e he hv => ?_, fun inner min hrest v hv => ?_, fun hrest => ?_⟩,
      fun inner min hrest hmin => ?_⟩
    · obtain ⟨e', hasks, htakes⟩ := htakes i v hv
      exact hasks.unique (.inl he) ▸ htakes
    · -- an entry that needs a value would require this place
      by_contra hnot
      exact absurd (hvalue i (.inl ⟨e, he, hnot⟩)) (Nat.not_lt.mpr (List.getElem?_eq_none_iff.mp hv))
    · obtain ⟨k, hk⟩ := List.mem_iff_getElem?.mp hv
      rw [List.getElem?_drop] at hk
      obtain ⟨e', hasks, htakes⟩ := htakes _ v hk
      exact hasks.unique (.inr ⟨Nat.le_add_right _ k, min, hrest⟩) ▸ htakes
    · -- a value beyond the entries would have none to take it
      by_contra hmore
      have hv := List.getElem?_eq_getElem (Nat.not_le.mp hmore)
      obtain ⟨e, hasks | ⟨-, min, hasks⟩, -⟩ := htakes _ _ hv
      · exact absurd (List.getElem?_eq_some_iff.mp hasks).1 (Nat.lt_irrefl _)
      · exact nomatch hrest.symm.trans hasks
    · have hlt := hvalue s.fixed.length (.inr ⟨rfl, inner, min, hrest, hmin⟩)
      rw [surplus]
      omega

end

/-! ### One position at a time -/

variable {settings : Settings} {e : Entry} {es : List Entry} {rest : Option (Entry × Int)} {v : Value}
  {vs : List Value}

/-- The first value is for the first entry, and the others for the others. -/
theorem fits_cons_cons :
    Fits ⟨e :: es, rest⟩ settings (v :: vs) ↔ e.Takes settings v ∧ Fits ⟨es, rest⟩ settings vs := by
  constructor
  · intro h
    refine ⟨h.present 0 e v rfl rfl, fun i => h.present (i + 1), fun i => h.absent (i + 1), h.behind, ?_⟩
    intro hrest
    exact Nat.le_of_succ_le_succ (h.noMore hrest)
  · rintro ⟨htakes, h⟩
    refine ⟨fun i => ?_, fun i => ?_, h.behind, fun hrest => Nat.succ_le_succ (h.noMore hrest)⟩
    · cases i with
      | zero =>
        intro e' v' he hv
        obtain rfl := Option.some.inj he
        obtain rfl := Option.some.inj hv
        exact htakes
      | succ i => exact h.present i
    · cases i with
      | zero => exact fun e' _ hv => absurd hv (by simp)
      | succ i => exact h.absent i

/-- Without values each entry must take that. -/
theorem fits_cons_nil :
    Fits ⟨e :: es, rest⟩ settings [] ↔ e.TakesNothing ∧ Fits ⟨es, rest⟩ settings [] := by
  constructor
  · intro h
    refine ⟨h.absent 0 e rfl rfl, fun i e' v he hv => absurd hv (by simp),
      fun i e' he _ => h.absent (i + 1) e' he rfl, ?_, fun _ => Nat.zero_le _⟩
    intro inner min _ v hv
    exact absurd hv (by simp)
  · rintro ⟨htakes, h⟩
    refine ⟨fun i e' v he hv => absurd hv (by simp), fun i => ?_, ?_, fun _ => Nat.zero_le _⟩
    · cases i with
      | zero =>
        intro e' he _
        obtain rfl := Option.some.inj he
        exact htakes
      | succ i => exact fun e' he _ => h.absent i e' he rfl
    · intro inner min _ v hv
      exact absurd hv (by simp)

/-- With a rest entry at the end, all values that are left are for it. -/
theorem fits_rest {inner : Entry} {min : Int} :
    Fits ⟨[], some (inner, min)⟩ settings vs ↔ ∀ v ∈ vs, inner.Takes settings v := by
  constructor
  · intro h
    exact h.behind inner min rfl
  · intro h
    refine ⟨fun i e v he => absurd he (by simp), fun i e he => absurd he (by simp), ?_, by simp⟩
    intro inner' min' heq
    obtain ⟨rfl, rfl⟩ := Prod.mk.inj (Option.some.inj heq)
    exact h

/-- Without a rest entry there must be no value left at the end.  With these four equations fitting is followed along
a signature. -/
theorem fits_none : Fits ⟨[], none⟩ settings vs ↔ vs = [] := by
  constructor
  · intro h
    exact List.eq_nil_of_length_eq_zero (Nat.le_zero.mp (h.noMore rfl))
  · rintro rfl
    exact ⟨fun i e v he => absurd he (by simp), fun i e he => absurd he (by simp),
      fun inner min h => absurd h (by simp), fun _ => Nat.le_refl 0⟩

/-- Where a rest entry asks for no more than one value, one is as many as it asks for. -/
theorem someIfAny_iff_enough {s : Signature}
    (h : ∀ inner min, s.rest = some (inner, min) → min = 0 ∨ min = 1) {values : List Value} :
    s.SomeIfAny values ↔ s.Enough values := by
  constructor
  · intro hsome inner min hrest
    rcases h inner min hrest with rfl | rfl
    · exact Int.natCast_nonneg _
    · exact Int.ofNat_le.mpr (hsome inner 1 hrest Int.one_pos)
  · intro henough inner min hrest hpos
    have := henough inner min hrest
    omega

end Signature

end StoryValues
