import Mathlib.Data.Nat.Find
import Mathlib.Order.Bounds.Basic
import StoryValues.Proofs.Macro.RestMinimum

/-
  TOO FEW VALUES, and how many more a call is said to need.

  Where dispatch comes to a place without a value that asks for one, it stops and says how many more values the macro
  needs.  It counts the entries from that place to the end.

  1. **Where the checks stop** (`Callee.checks_short`) — at the first required place without a value, if each value
     that is there is accepted: all places before are clear (`Signature.Accepts.clearAt`), and that one is not.
  2. **What is enough** (`Callee.checks_enough`) — values up to the last required place.  Entries behind it may be
     left out, but entries before it may not, even those that take that there is no value.
  3. **The number that is needed** is the distance from the values to the last required place (`Callee.needed_le`,
     `Callee.needed_mem`).  So the number that is reported is right iff there are as many entries behind that place as
     there are between the values and the place where the checks stop (`reported_isLeast_iff`).  A rest entry that
     asks for nothing counts all the same (`finder_asks_one_too_many`).
-/

namespace StoryValues

/-- A value that may be an argument and stands for itself: no error, and not spread. -/
def Value.Plain (v : Value) : Prop := v.ErrorFree ∧ ∀ u, v ≠ .spread u

namespace Signature

variable {settings : Settings} {s : Signature} {e : Entry} {values : List Value} {i n : Nat}

/-! ## What is required -/

/-- The first required place for which some values are too few. -/
def FirstLacking (s : Signature) (values i : Nat) : Prop := IsLeast {i | s.Requires i ∧ values ≤ i} i

/-- The last required place. -/
def LastRequired (s : Signature) (i : Nat) : Prop := IsGreatest {i | s.Requires i} i

/-- Each of some values is accepted by the entry at its place. -/
def Accepts (s : Signature) (settings : Settings) (values : List Value) : Prop :=
  ∀ (i : Nat) (e : Entry) (v : Value), s.entries[i]? = some e → values[i]? = some v → e.accepts v settings = .ok true

/-- **Too few values:** each one is accepted, but there is none for some required place. -/
structure Short (s : Signature) (settings : Settings) (values : List Value) : Prop where
  accepted : s.Accepts settings values
  lacking : ∃ i, s.Requires i ∧ values.length ≤ i

/-- A required place is that of an entry. -/
theorem Requires.lt_length (h : s.Requires i) : i < s.entries.length := by
  rw [entries, List.length_append]
  rcases h with ⟨e, he, -⟩ | ⟨rfl, inner, min, hrest, -⟩
  · exact Nat.lt_add_right _ (List.getElem?_eq_some_iff.mp he).1
  · rw [hrest]
    exact Nat.lt_succ_self _

/-- The entries stand at the places that they are for. -/
theorem asks_of_getElem? (h : s.entries[i]? = some e) : s.Asks i e := by
  rw [entries] at h
  rcases Nat.lt_or_ge i s.fixed.length with hi | hi
  · exact .inl ((List.getElem?_append_left hi).symm.trans h)
  · rw [List.getElem?_append_right hi] at h
    cases hrest : s.rest with
    | none =>
      rw [hrest] at h
      cases h
    | some entry =>
      rw [hrest] at h
      obtain rfl : e = entry.1 := List.mem_singleton.mp (List.mem_of_getElem? h)
      exact .inr ⟨hi, entry.2, hrest⟩

/-- **A place is clear where each value is accepted,** if there are no more values than entries, and one at that place
if it is required. -/
theorem Accepts.clearAt (h : s.Accepts settings values) (hfree : ∀ v ∈ values, v.ErrorFree)
    (hlength : values.length ≤ s.entries.length) (hvalue : s.Requires i → i < values.length) :
    s.ClearAt settings values i := by
  refine ⟨fun v hv => ⟨hfree v (List.mem_of_getElem? hv), ?_⟩, hvalue⟩
  have hi : i < s.entries.length := Nat.lt_of_lt_of_le (List.getElem?_eq_some_iff.mp hv).1 hlength
  have he := List.getElem?_eq_getElem hi
  exact ⟨_, asks_of_getElem? he, h i _ v he hv⟩

/-- To accepted values, one may be added for each place behind them that the entry there accepts. -/
theorem Accepts.append {give : Entry → Value} (h : s.Accepts settings values)
    (hgive : ∀ e ∈ s.entries, e.accepts (give e) settings = .ok true) (n : Nat) :
    s.Accepts settings (values ++ ((s.entries.drop values.length).take n).map give) := by
  intro i e v he hv
  by_cases hi : i < values.length
  · rw [List.getElem?_append_left hi] at hv
    exact h i e v he hv
  · rw [List.getElem?_append_right (Nat.not_lt.mp hi), List.getElem?_map, List.getElem?_take] at hv
    split at hv
    · rw [List.getElem?_drop, Nat.add_sub_cancel' (Nat.not_lt.mp hi), he] at hv
      obtain rfl := Option.some.inj hv
      exact hgive e (List.mem_of_getElem? he)
    · exact nomatch hv

/-- Where values are too few there is a first place that lacks one, and a last required place. -/
theorem exists_places (hlacking : ∃ i, s.Requires i ∧ n ≤ i) :
    ∃ first last, s.FirstLacking n first ∧ s.LastRequired last ∧ n ≤ first ∧ first ≤ last := by
  classical
  have hfirst : IsLeast {i | s.Requires i ∧ n ≤ i} (Nat.find hlacking) :=
    ⟨Nat.find_spec hlacking, fun j hj => Nat.find_min' hlacking hj⟩
  have hbound : ∀ i, s.Requires i → i ≤ s.entries.length := fun i hi => Nat.le_of_lt hi.lt_length
  have ⟨i, hi, _⟩ := hlacking
  have hlast : IsGreatest {i | s.Requires i} (Nat.findGreatest s.Requires s.entries.length) :=
    ⟨Nat.findGreatest_spec (hbound i hi) hi, fun j hj => Nat.le_findGreatest (hbound j hj) hj⟩
  exact ⟨_, _, hfirst, hlast, hfirst.1.2, hlast.2 hfirst.1.1⟩

end Signature

namespace Check

variable {α : Type} {settings : Settings} {kind message explanation : String} {e : StoryError}

/-- The message of an error that the library makes starts with a capital. -/
theorem message_of_create {explanation : Option String} (hkind : kind ≠ "user")
    (h : StoryError.create kind message explanation settings = .ok e) : e.message = Case.capitalise message := by
  unfold StoryError.create at h
  split at h
  · exact nomatch h
  · split at h
    · exact nomatch h
    · obtain rfl := Except.ok.inj h
      rfl

/-- So does one that brings its own explanation. -/
theorem message_of_failWith (hkind : kind ≠ "user")
    (h : (Check.failWith kind message explanation : Check α) settings = .error (.story e)) :
    e.message = Case.capitalise message := by
  rcases bind_eq_error.mp h with h | ⟨e', he', h⟩
  · exact absurd h (create_ne_story e)
  · obtain rfl : e' = e := Failure.story.inj (Except.error.inj h)
    exact message_of_create hkind he'

end Check

namespace Dispatch

variable {σ : Type} {settings : Settings} {w w' : World σ} {c : Callee}

namespace Callee

open Signature (Requires Accepts FirstLacking LastRequired Short)
open Value (ErrorFree Plain)

/-- Plain arguments stand for themselves. -/
theorem spreadArguments_plain {args : List Value} (hplain : ∀ v ∈ args, Plain v) :
    spreadArguments args settings = .ok args := by
  induction args with
  | nil => rfl
  | cons arg args ih =>
    obtain ⟨⟨-, harg⟩, hargs⟩ := List.forall_mem_cons.mp hplain
    have hone : spreadOne arg settings = .ok [arg] := by
      cases arg with
      | spread v => exact absurd rfl (harg v)
      | _ => rfl
    rw [spreadArguments, Check.bind_of_ok hone, Check.bind_of_ok (ih hargs)]
    rfl

/-! ## Where the checks stop -/

/-- **The checks stop at the first required place without a value,** if each value that is there is accepted. -/
theorem checks_short {first : Nat} {args : List Value} (hfree : ∀ v ∈ args, ErrorFree v)
    (haccepted : c.signature.Accepts settings args) (hfirst : c.signature.FirstLacking args.length first) :
    ∃ e w', c.StopsAt settings args first (c.missing first e) ∧
      c.checkFrom 0 c.signature.fixed args settings w = (c.missing first e settings, w') := by
  obtain ⟨⟨hrequires, hnone⟩, hleast⟩ := hfirst
  have hlength : args.length ≤ c.signature.entries.length := Nat.le_trans hnone (Nat.le_of_lt hrequires.lt_length)
  -- the place is not clear itself, and the places before it are
  have hnot : ¬ c.signature.ClearAt settings args first := fun hclear =>
    Nat.not_lt.mpr hnone (hclear.required hrequires)
  have hbefore : ∀ i < first, c.signature.ClearAt settings args i := fun i hi =>
    haccepted.clearAt hfree hlength fun hrequired => by
      by_contra hlack
      exact Nat.not_le.mpr hi (hleast ⟨hrequired, Nat.not_lt.mp hlack⟩)
  rcases checks_end c settings args w with ⟨hclear, -⟩ | ⟨i, stop, w', hclear, hstops, hrun⟩
  · exact absurd (hclear first) hnot
  · obtain rfl : i = first := by
      rcases Nat.lt_trichotomy i first with hlt | heq | hgt
      · exact absurd (hbefore i hlt) hstops.not_clearAt
      · exact heq
      · exact absurd (hclear first hgt) hnot
    cases hstops with
    | @missing e hnone hrequires hasks => exact ⟨e, w', .missing hnone hrequires hasks, hrun⟩
    | error hv | raised hv | refused hv | surplus hv =>
      exact absurd (List.getElem?_eq_some_iff.mp hv).1 (Nat.not_lt.mpr hnone)

/-- **Values up to the last required place are enough,** if each is accepted. -/
theorem checks_enough {args : List Value} (hfree : ∀ v ∈ args, ErrorFree v)
    (haccepted : c.signature.Accepts settings args) (hlength : args.length ≤ c.signature.entries.length)
    (henough : ∀ i, c.signature.Requires i → i < args.length) :
    c.checkFrom 0 c.signature.fixed args settings w = (.ok (), w) :=
  checks_pass_iff.mpr ⟨rfl, fun i => haccepted.clearAt hfree hlength (henough i)⟩

/-! ## What is reported -/

/-- **What the story reads:** the macro needs so many more values. -/
def Reports (c : Callee) (settings : Settings) (n : Nat) (err : StoryError) : Prop :=
  err.kind = "datatype" ∧ ∃ text,
    Check.message "not_enough_values" [("label", .string c.label), ("count", .string (toString n)),
      ("plural", .string (if n > 1 then "s" else ""))] settings = .ok text ∧
    err.message = Case.capitalise text

/-- The error for a missing value says how many more are needed, which is how many entries there are from its place
on. -/
theorem reports_of_missing {index : Nat} {e : Entry} {err : StoryError}
    (h : c.missing (α := Unit) index e settings = .error (.story err)) :
    c.Reports settings (c.signature.entries.length - index) err := by
  refine ⟨kind_of_missing h, ?_⟩
  rcases Check.bind_eq_error.mp h with h | ⟨info, _, h⟩
  · exact absurd h (info_ne_story err)
  rcases Check.bind_eq_error.mp h with h | ⟨text, htext, h⟩
  · exact absurd h (Check.lift_ne_story _ err)
  · exact ⟨text, htext, Check.message_of_failWith (by decide) h⟩

/-! ## What is needed -/

/-- The numbers of values with which a call goes through that adds them to its arguments.  A spread value would stand
for any number, so none of them is one. -/
def Completions (c : Callee) (settings : Settings) (w : World σ) (args : List Value) : Set Nat :=
  {n | ∃ more, more.length = n ∧ (∀ v ∈ more, Plain v) ∧
    ∃ w', arguments c (args ++ more) settings w = (.ok (args ++ more), w')}

variable {args : List Value} {first last n : Nat} {err : StoryError}

/-- A call with plain arguments is what comes of checking them. -/
theorem arguments_of_plain (hplain : ∀ v ∈ args, Plain v) :
    arguments c args settings w =
      (c.checkFrom 0 c.signature.fixed args >>= fun _ => do
        Run.notice (passedLine c args)
        return args) settings w :=
  arguments_of_spread (fun v hv => (hplain v hv).1) (spreadArguments_plain hplain)

/-- Where values are too few, the story reads that as many more are needed as there are entries from the first place
that lacks one. -/
theorem reports_of_short (hplain : ∀ v ∈ args, Plain v) (haccepted : c.signature.Accepts settings args)
    (hfirst : c.signature.FirstLacking args.length first)
    (hcall : arguments c args settings w = (.error (.story err), w')) :
    c.Reports settings (c.signature.entries.length - first) err := by
  have hfree : ∀ v ∈ args, ErrorFree v := fun v hv => (hplain v hv).1
  obtain ⟨e, w₁, hstops, hcheck⟩ := checks_short (w := w) hfree haccepted hfirst
  rw [arguments_of_plain hplain] at hcall
  obtain ⟨failure, hmissing⟩ := hstops.exists_failure
  rw [hmissing] at hcheck
  rw [Run.bind_of_error hcheck] at hcall
  obtain rfl : failure = .story err := Except.error.inj (Prod.mk.inj hcall).1
  exact reports_of_missing hmissing

/-- **No fewer values are needed** than up to the last required place. -/
theorem needed_le (hlast : c.signature.LastRequired last) (h : n ∈ c.Completions settings w args) :
    last + 1 - args.length ≤ n := by
  obtain ⟨more, rfl, -, w', hpass⟩ := h
  obtain ⟨hadmits, hsome, -⟩ := arguments_ok hpass
  have hlt : last < (args ++ more).length := Signature.lt_of_requires hadmits.fits hsome hlast.1
  rw [List.length_append] at hlt
  omega

/-- **And no more,** if every entry accepts some value: one is picked for each place up to there. -/
theorem needed_mem (hplain : ∀ v ∈ args, Plain v)
    (htakes : ∀ e ∈ c.signature.entries, ∃ v, Plain v ∧ e.accepts v settings = .ok true)
    (haccepted : c.signature.Accepts settings args) (hlast : c.signature.LastRequired last)
    (hfew : args.length ≤ last) :
    last + 1 - args.length ∈ c.Completions settings w args := by
  have : Nonempty Value := ⟨.nothing⟩
  choose! give hgive using htakes
  have hlt : last < c.signature.entries.length := hlast.1.lt_length
  -- one value for each entry from the first without an argument to the last that requires one
  let more := ((c.signature.entries.drop args.length).take (last + 1 - args.length)).map give
  have hmore : ∀ v ∈ more, Plain v := by
    intro v hv
    obtain ⟨e, he, rfl⟩ := List.mem_map.mp hv
    exact (hgive e (List.mem_of_mem_drop (List.mem_of_mem_take he))).1
  have hlength : more.length = last + 1 - args.length := by
    rw [List.length_map, List.length_take, List.length_drop]
    omega
  have hall : ∀ v ∈ args ++ more, Plain v := List.forall_mem_append.mpr ⟨hplain, hmore⟩
  have hreach : (args ++ more).length = last + 1 := by
    rw [List.length_append, hlength]
    omega
  have hcheck : c.checkFrom 0 c.signature.fixed (args ++ more) settings w = (.ok (), w) := by
    refine checks_enough (fun v hv => (hall v hv).1) (haccepted.append (fun e he => (hgive e he).2) _) ?_ ?_
    · exact hreach ▸ hlt
    · intro i hi
      exact hreach ▸ Nat.lt_succ_of_le (hlast.2 hi)
  refine ⟨more, hlength, hmore, w.noted (passedLine c (args ++ more)), ?_⟩
  rw [arguments_of_plain hall, Run.bind_of_ok hcheck]
  rfl

end Callee

/-! ## When the number is right -/

/-- **How many more values a call is said to need, and how many it needs.**  Let the values of a call be accepted one by
one but too few, and let every entry accept some value.  Then the call is said to need as many more as there are entries
from the first required place without a value.  It needs as many as there are places up to the last required one.  The
numbers agree iff there are as many entries behind the last required place, none of which need a value, as there are
places that lack a value before the first required one. -/
theorem reported_isLeast_iff {args : List Value} {err : StoryError} (hplain : ∀ v ∈ args, v.Plain)
    (htakes : ∀ e ∈ c.signature.entries, ∃ v : Value, v.Plain ∧ e.accepts v settings = .ok true)
    (hshort : c.signature.Short settings args)
    (hcall : arguments c args settings w = (.error (.story err), w')) :
    ∃ first last, c.signature.FirstLacking args.length first ∧ c.signature.LastRequired last ∧
      c.Reports settings (c.signature.entries.length - first) err ∧
      IsLeast (c.Completions settings w args) (last + 1 - args.length) ∧
      (IsLeast (c.Completions settings w args) (c.signature.entries.length - first) ↔
        c.signature.entries.length - (last + 1) = first - args.length) := by
  obtain ⟨first, last, hfirst, hlast, hstart, hend⟩ := Signature.exists_places hshort.lacking
  have hfew : args.length ≤ last := Nat.le_trans hstart hend
  have hneeded : IsLeast (c.Completions settings w args) (last + 1 - args.length) :=
    ⟨Callee.needed_mem hplain htakes hshort.accepted hlast hfew, fun n hn => Callee.needed_le hlast hn⟩
  refine ⟨first, last, hfirst, hlast, Callee.reports_of_short hplain hshort.accepted hfirst hcall, hneeded, ?_⟩
  have hlt : last < c.signature.entries.length := hlast.1.lt_length
  constructor
  · intro hleast
    have heq : c.signature.entries.length - first = last + 1 - args.length := hleast.unique hneeded
    omega
  · intro heq
    have heq : c.signature.entries.length - first = last + 1 - args.length := by omega
    exact heq ▸ hneeded

/-- What cuts an array: it takes the array and two places. -/
def cutter : Callee := ⟨"subarray", ⟨[.array, .integer, .integer], none⟩⟩

/-- An array alone is two values too few. -/
def needsPlaces : StoryError where
  kind := "datatype"
  message := "The (subarray:) macro needs 2 more values."
  explanation := some "the (subarray:) macro must only be given an array, a whole number and a whole number, in that order"
  warning := false
  tag := none

/-- Where both places are missing, `subarray` is said to need two values, and needs them. -/
theorem cutter_needs_two :
    let settings : Settings := Settings.usual
    let w : World Unit := World.start [] ()
    let args : List Value := [.array []]
    (∀ v ∈ args, v.Plain) ∧
      (∀ e ∈ cutter.signature.entries, ∃ v : Value, v.Plain ∧ e.accepts v settings = .ok true) ∧
      cutter.signature.Short settings args ∧
      (∃ w', arguments cutter args settings w = (.error (.story needsPlaces), w')) ∧
      cutter.Reports settings 2 needsPlaces ∧ IsLeast (cutter.Completions settings w args) 2 := by
  intro settings w args
  have harray : Value.Plain (.array []) := ⟨Value.errorFree_array.mpr (List.forall_mem_nil _), nofun⟩
  have hone : Value.Plain (.number (.int 1)) := ⟨.other nofun nofun, nofun⟩
  have hplain : ∀ v ∈ args, v.Plain := List.forall_mem_singleton.mpr harray
  have htakes : ∀ e ∈ cutter.signature.entries, ∃ v : Value, v.Plain ∧ e.accepts v settings = .ok true := by
    have hinteger : ∃ v : Value, v.Plain ∧ Entry.integer.accepts v settings = .ok true :=
      ⟨_, hone, by decide +kernel⟩
    have hall : ∀ e ∈ [Entry.array, .integer, .integer], ∃ v : Value, v.Plain ∧ e.accepts v settings = .ok true :=
      List.forall_mem_cons.mpr ⟨⟨_, harray, rfl⟩,
        List.forall_mem_cons.mpr ⟨hinteger, List.forall_mem_singleton.mpr hinteger⟩⟩
    exact hall
  -- each of the three entries requires a value, and one is given
  have hneeds : ∀ i ≤ 2, cutter.signature.Requires i := by
    intro i hi
    obtain rfl | rfl | rfl : i = 0 ∨ i = 1 ∨ i = 2 := by omega
    all_goals exact Or.inl ⟨_, rfl, fun h => nomatch (Entry.acceptsAbsence_iff _).mpr h⟩
  have hends : ∀ i, cutter.signature.Requires i → i ≤ 2 := fun i hi => Nat.le_of_lt_succ hi.lt_length
  have hshort : cutter.signature.Short settings args := by
    refine ⟨fun i e v he hv => ?_, 1, hneeds 1 (by decide), Nat.le_refl 1⟩
    cases i with
    | zero =>
      obtain rfl := Option.some.inj he
      obtain rfl := Option.some.inj hv
      rfl
    | succ i => exact nomatch hv
  have hanswer : (arguments cutter args settings w).1 = .error (.story needsPlaces) := by decide +kernel
  have hcall : arguments cutter args settings w = (.error (.story needsPlaces), (arguments cutter args settings w).2) := by
    rw [← hanswer, Prod.mk.eta]
  obtain ⟨first, last, hfirst, hlast, hreports, hneeded, -⟩ := reported_isLeast_iff hplain htakes hshort hcall
  -- the first entry that misses a value and the last one are found by where they stand
  obtain rfl : first = 1 := hfirst.unique ⟨⟨hneeds 1 (by decide), Nat.le_refl 1⟩, fun i hi => hi.2⟩
  obtain rfl : last = 2 := hlast.unique ⟨hneeds 2 (by decide), hends⟩
  exact ⟨hplain, htakes, hshort, ⟨_, hcall⟩, hreports, hneeded⟩

/-- What `find` takes: a lambda, and any values behind it. -/
def finder : Callee := ⟨"find", ⟨[.lambda [.whereTrue]], some (.any, 0)⟩⟩

/-- What the story reads where `find` gets nothing. -/
def needsTwo : StoryError where
  kind := "datatype"
  message := "The (find:) macro needs 2 more values."
  explanation := some "the (find:) macro must only be given a \"where ...\" lambda and anything, in that order"
  warning := false
  tag := none

/-- **`find` is said to need one value too many** where it gets none: a lambda alone is enough for it. -/
theorem finder_asks_one_too_many :
    let settings : Settings := Settings.usual
    let w : World Unit := World.start [] ()
    (arguments finder [] settings w).1 = .error (.story needsTwo) ∧ finder.Reports settings 2 needsTwo ∧
      (∀ e ∈ finder.signature.entries, ∃ v : Value, v.Plain ∧ e.accepts v settings = .ok true) ∧
      ¬ IsLeast (finder.Completions settings w []) 2 := by
  intro settings w
  have hcall : (arguments finder [] settings w).1 = .error (.story needsTwo) := by decide +kernel
  let alone : Value := .lambda ⟨none, none, some "true", none, none, "", none⟩
  have halone : alone.Plain := ⟨.other nofun nofun, nofun⟩
  have hone : 1 ∈ finder.Completions settings w [] :=
    ⟨[alone], rfl, List.forall_mem_singleton.mpr halone, _, rfl⟩
  have htakes : ∀ e ∈ finder.signature.entries, ∃ v : Value, v.Plain ∧ e.accepts v settings = .ok true := by
    have hall : ∀ e ∈ [Entry.lambda [.whereTrue], .any], ∃ v : Value, v.Plain ∧ e.accepts v settings = .ok true :=
      List.forall_mem_cons.mpr ⟨⟨alone, halone, rfl⟩, List.forall_mem_singleton.mpr ⟨alone, halone, rfl⟩⟩
    exact hall
  have hreports : finder.Reports settings 2 needsTwo :=
    ⟨rfl, "the (find:) macro needs 2 more values.", by decide +kernel, by decide +kernel⟩
  refine ⟨hcall, hreports, htakes, fun hleast => ?_⟩
  have hle : 2 ≤ 1 := hleast.2 hone
  exact absurd hle (by decide)

end Dispatch

end StoryValues
