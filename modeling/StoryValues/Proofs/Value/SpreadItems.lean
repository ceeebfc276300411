import StoryValues.Proofs.Pattern.Discerning
import StoryValues.Proofs.Pattern.Recognition
import StoryValues.Proofs.Value.Extending
import StoryValues.Proofs.Value.Pieces

/-
  A SPREAD DATATYPE THAT STANDS ALONE IN AN ARRAY.

  It should stand for zero or more values of its type.  Being spread has two meanings, though, and one mark for
  both: among the items of an array it says how many of them there are, and among the parts of a pattern it says
  how often a part is read.  Each item is asked about with the mark still set.  A name does not mind.  A pattern
  does: it takes any item that it can read again and again, end to end.

  1. **The items are asked one by one** (`isMatch_alongSpread`).
  2. **Stretches** — `Step.stops`, the canonical span of a step, and `Datatype.stretch`: where a datatype can stop
     when it starts somewhere in a text.  It is the span of the step, whichever one is known to be
     (`Step.Reads.stops_iff`), so that a spread pattern reads chains of stretches (`accepts_spread_iff`).
  3. **The whole** (`isMatch_spread_spec`): names stand for zero or more values of their type; patterns stand for
     zero or more strings that are chains, and this is the same iff every chain is itself a stretch.  It is not
     for the sequence of one letter (`isMatch_spread_doubled`).
-/

namespace StoryValues

/-! ## Stretches -/

namespace Step

variable {text : List Char} {step : Step} {S : Span}

/-- Where a step can stop in a text, when it starts somewhere in it. -/
def stops (step : Step) (text : List Char) : Span := fun i j =>
  i ≤ j ∧ j ≤ text.length ∧
    (step (text.drop i) [] fun r c => if r.1.length = text.length - j then some c else none).isSome = true

/-- **The span of a step says where it can stop.** -/
theorem Reads.stops_iff (h : Reads text step S) {i j : Nat} (hi : i ≤ text.length) :
    step.stops text i j ↔ S i j := by
  -- what follows asks for nothing but the position, which the length of the rest gives away
  have hhere : j ≤ text.length → ((step (text.drop i) [] fun r c =>
      if r.1.length = text.length - j then some c else none).isSome = true ↔ ∃ m, S i m ∧ m = j) := by
    intro hj
    refine h.readsAt i hi [] _ (fun m => m = j) fun m hle _ hm c => ?_
    rw [Option.isSome_ite, List.length_drop]
    omega
  constructor
  · rintro ⟨_, hj, hstops⟩
    obtain ⟨_, hS, rfl⟩ := (hhere hj).mp hstops
    exact hS
  · intro hS
    obtain ⟨hij, hj⟩ := h.within hi hS
    exact ⟨hij, hj, (hhere hj).mpr ⟨j, hS, rfl⟩⟩

/-- Every step that reads spans of a text reads the stretches at the end of which it can stop. -/
theorem Reads.stops (h : Reads text step S) : Reads text step (step.stops text) :=
  h.congr fun _ _ hi => (h.stops_iff hi).symm

end Step

namespace Datatype

variable {settings : Settings} {d : Datatype}

/-- The stretches of a text that a datatype can read where they stand: what comes after a stretch may be looked
at, but is not read. -/
def stretch (d : Datatype) (text : List Char) : Span := (d.step false false 0).stops text

/-- A datatype without its mark reads its stretches. -/
theorem reads_stretch (d : Datatype) (text : List Char) : Step.Reads text (d.step false false 0) (d.stretch text) := by
  obtain ⟨S, hS⟩ := d.exists_reads false false 0 text
  exact hS.stops

/-- A spread pattern reads chains of what the pattern reads, one stretch directly behind another, and perhaps none. -/
theorem reads_spread (hpattern : d.isPattern = true) (hone : d.isSpread = false) (text : List Char) :
    Step.Reads text (d.spread.step false false 0) (d.stretch text).chain := by
  cases d with
  | named => exact nomatch hpattern
  | pattern shape parts folded spread =>
    obtain rfl : spread = false := hone
    have hstep : (pattern shape parts folded true).step false false 0 =
        ((pattern shape parts folded false).step false false 0).star := by
      unfold step
      rfl
    rw [Datatype.spread, hstep]
    exact (reads_stretch _ text).star

/-- Being spread changes nothing about how far a pattern can count. -/
theorem overflows_spread (d : Datatype) : d.spread.overflows = d.overflows := by cases d <;> rfl

/-- Being spread changes nothing about where a pattern may stand. -/
theorem isLookAhead_spread (d : Datatype) : d.spread.isLookAhead = d.isLookAhead := by
  cases d with
  | named => rfl
  | pattern shape => cases shape <;> rfl

/-- A pattern is still one when it is spread. -/
theorem isPattern_spread (d : Datatype) : d.spread.isPattern = d.isPattern := by cases d <;> rfl

/-- And it is spread then. -/
theorem isSpread_spread (d : Datatype) : d.spread.isSpread = true := by cases d <;> rfl

/-- What a pattern accepts is a string that it spans from end to end, if it can count so far. -/
theorem accepts_iff_of_reads (hpattern : d.isPattern = true) (hahead : d.isLookAhead = false)
    {S : List Char → Span} (hS : ∀ text, Step.Reads text (d.step false false 0) (S text)) {v : Value} :
    d.accepts v settings = .ok true ↔
      ∃ s, v = .string s ∧ d.overflows = false ∧ S s.toList 0 s.toList.length := by
  constructor
  · intro h
    cases d with
    | named => exact nomatch hpattern
    | pattern shape parts folded spread =>
      have hshape : shape ≠ .notBefore := by
        rintro rfl
        exact nomatch hahead
      cases v with
      | string s =>
        rw [Pattern.accepts_string hpattern hahead, Check.lift_eq_ok] at h
        -- a pattern that counts too far is a fault, so what it accepts tells that it does not
        cases hover : (pattern shape parts folded spread).overflows with
        | true =>
          rw [Pattern.readsAll_of_overflows hover] at h
          exact nomatch h
        | false =>
          rw [Pattern.readsAll_of_countable hover] at h
          exact ⟨s, rfl, rfl, (hS s.toList).whole.mp (Except.ok.inj h)⟩
      | _ =>
        rw [accepts_pattern hshape] at h
        exact nomatch h
  · rintro ⟨s, rfl, hover, hspan⟩
    rw [Pattern.accepts_string hpattern hahead, Pattern.readsAll_of_countable hover, (hS s.toList).whole.mpr hspan]
    rfl

/-- **What a spread pattern accepts**: a chain of stretches of the pattern.  So one string may be many repetitions,
where the mark was meant to count items. -/
theorem accepts_spread_iff (hpattern : d.isPattern = true) (hone : d.isSpread = false)
    (hahead : d.isLookAhead = false) {v : Value} : d.spread.accepts v settings = .ok true ↔
      ∃ s, v = .string s ∧ d.overflows = false ∧ (d.stretch s.toList).chain 0 s.toList.length := by
  rw [accepts_iff_of_reads ((isPattern_spread d).trans hpattern) ((isLookAhead_spread d).trans hahead)
    (reads_spread hpattern hone), overflows_spread]

end Datatype

/-! ## Items -/

namespace Value

variable {settings : Settings} {d : Datatype}

/-- **The items are asked one by one,** up to the first that is not accepted.  By induction on the items: the spread
datatype is the only element that is left for them. -/
theorem isMatch_alongSpread (hspread : d.isSpread = true) (xs : List Value) :
    isMatch (.array xs) (.array [.datatype d]) = xs.allM d.accepts := by
  have hd : (Value.datatype d).isSpreadType = true := hspread
  rw [isMatch_array, matchItems, if_pos (by rw [List.any_cons, hd, Bool.true_or])]
  induction xs with
  | nil =>
    rw [matchAlong, if_pos hd, matchAlong]
    rfl
  | cons x xs ih =>
    -- nothing takes the items if the datatype does not
    have hnone : matchAlong isSpreadType claims isMatch (x :: xs) [] = (pure false : Check Bool) := by
      rw [matchAlong]
      rfl
    rw [matchAlong, if_pos hd, hnone, pure_bind, if_neg Bool.false_ne_true, ih, List.allM]
    refine congrArg (d.accepts x >>= ·) (funext fun yes => ?_)
    cases yes <;> rfl

/-- So the array matches iff the datatype, spread as it is, accepts every item. -/
theorem isMatch_alongSpread_iff (hspread : d.isSpread = true) (xs : List Value) :
    isMatch (.array xs) (.array [.datatype d]) settings = .ok true ↔
      ∀ x ∈ xs, d.accepts x settings = .ok true := by
  rw [isMatch_alongSpread hspread]
  refine ⟨fun h => ?_, allM_of_yes⟩
  induction xs with
  | nil => exact List.forall_mem_nil _
  | cons x xs ih =>
    obtain ⟨yes, hx, hxs⟩ := Check.bind_eq_ok.mp h
    cases yes with
    | true => exact List.forall_mem_cons.mpr ⟨hx, ih hxs⟩
    | false => exact nomatch hxs

/-- **What a spread datatype takes in an array.**  Take a datatype that is not spread, and no bare look ahead.

* Where it is a name, an array matches the spread datatype iff the datatype accepts every item.
* Where it is a pattern, an array matches iff each item is a string that is a chain of stretches: the pattern
  reads one stretch of it after another, from end to end.
* That is to accept every item iff the pattern can read every chain at once. -/
theorem isMatch_spread_spec (hone : d.isSpread = false) (hahead : d.isLookAhead = false) :
    (d.isPattern = false → ∀ xs, isMatch (.array xs) (.array [.datatype d.spread]) settings = .ok true ↔
      ∀ x ∈ xs, d.accepts x settings = .ok true) ∧
    (d.isPattern = true → (∀ xs, isMatch (.array xs) (.array [.datatype d.spread]) settings = .ok true ↔
      ∀ x ∈ xs, ∃ s, x = .string s ∧ d.overflows = false ∧ (d.stretch s.toList).chain 0 s.toList.length) ∧
      ((∀ xs, isMatch (.array xs) (.array [.datatype d.spread]) settings = .ok true ↔
          ∀ x ∈ xs, d.accepts x settings = .ok true) ↔
        (d.overflows = false → ∀ s : String, (d.stretch s.toList).chain 0 s.toList.length →
          d.stretch s.toList 0 s.toList.length))) := by
  have hasked : ∀ xs, isMatch (.array xs) (.array [.datatype d.spread]) settings = .ok true ↔
      ∀ x ∈ xs, d.spread.accepts x settings = .ok true := isMatch_alongSpread_iff d.isSpread_spread
  refine ⟨fun hname xs => ?_, fun hpattern => ⟨fun xs => ?_, fun h hover s hchain => ?_, fun h xs => ?_⟩⟩
  · rw [hasked]
    cases d with
    | named => exact Iff.rfl
    | pattern => exact nomatch hname
  · rw [hasked]
    exact forall₂_congr fun _ _ => Datatype.accepts_spread_iff hpattern hone hahead
  · -- the array of the chain alone
    have hchained : d.spread.accepts (.string s) settings = .ok true :=
      (Datatype.accepts_spread_iff hpattern hone hahead).mpr ⟨s, rfl, hover, hchain⟩
    have haccepts := (h [.string s]).mp ((hasked _).mpr (List.forall_mem_singleton.mpr hchained)) _
      List.mem_cons_self
    obtain ⟨_, hs, _, hwhole⟩ := (Datatype.accepts_iff_of_reads hpattern hahead d.reads_stretch).mp haccepts
    cases hs
    exact hwhole
  · rw [hasked]
    refine forall₂_congr fun x _ => ?_
    rw [Datatype.accepts_spread_iff hpattern hone hahead,
      Datatype.accepts_iff_of_reads hpattern hahead d.reads_stretch]
    refine exists_congr fun s => and_congr_right fun _ => and_congr_right fun hover => ?_
    exact ⟨h hover s, Relation.ReflTransGen.single⟩

/-- The sequence of one letter. -/
def letterA : Datatype := .pattern .sequence [.text "a"] false false

/-- The numbers of an array, and one letter again and again. -/
theorem isMatch_spread_numbers :
    let settings : Settings := Settings.usual
    let d : Datatype := .named "number" false
    (d.isSpread = false ∧ d.isLookAhead = false ∧ d.isPattern = false ∧
      (isMatch (.array [.number (.int 1), .number (.int 2)]) (.array [.datatype d.spread]) settings = .ok true ↔
        ∀ x ∈ [Value.number (.int 1), .number (.int 2)], d.accepts x settings = .ok true)) ∧
    (letterA.isSpread = false ∧ letterA.isLookAhead = false ∧ letterA.isPattern = true ∧
      (isMatch (.array [.string "aa"]) (.array [.datatype letterA.spread]) settings = .ok true ↔
        ∀ x ∈ [Value.string "aa"], ∃ s, x = .string s ∧ letterA.overflows = false ∧
          (letterA.stretch s.toList).chain 0 s.toList.length)) :=
  ⟨⟨rfl, rfl, rfl, (isMatch_spread_spec rfl rfl).1 rfl _⟩, rfl, rfl, rfl, ((isMatch_spread_spec rfl rfl).2 rfl).1 _⟩

/-- **A letter twice is no letter,** and yet the array of it matches the spread letter; and so does the empty
string. -/
theorem isMatch_spread_doubled :
    let settings : Settings := Settings.usual
    Pattern.make .sequence [.string "a"] settings = .ok letterA ∧ letterA.isSpread = false ∧
      letterA.isLookAhead = false ∧ ∀ s ∈ ["aa", ""],
        isMatch (.array [.string s]) (.array [.datatype letterA.spread]) settings = .ok true ∧
          letterA.accepts (.string s) settings = .ok false := by
  intro settings
  have hstretch : letterA.stretch ['a', 'a'] 0 1 ∧ letterA.stretch ['a', 'a'] 1 2 :=
    ⟨⟨by decide, by decide, by decide⟩, by decide, by decide, by decide⟩
  have hchains : ∀ s ∈ ["aa", ""], (letterA.stretch s.toList).chain 0 s.toList.length := by
    refine List.forall_mem_cons.mpr ⟨?_, List.forall_mem_singleton.mpr .refl⟩
    exact .tail (.single hstretch.1) hstretch.2
  have hrefused : ∀ s ∈ ["aa", ""], letterA.accepts (.string s) settings = .ok false := by decide +kernel
  refine ⟨by decide +kernel, rfl, rfl, fun s hs => ⟨?_, hrefused s hs⟩⟩
  refine (isMatch_alongSpread_iff rfl _).mpr (List.forall_mem_singleton.mpr ?_)
  exact (Datatype.accepts_spread_iff rfl rfl rfl).mpr ⟨s, rfl, rfl, hchains s hs⟩

end Value

end StoryValues
