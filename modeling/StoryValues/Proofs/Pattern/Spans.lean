import StoryValues.Proofs.Pattern.Turns
import StoryValues.Pattern.Match

/-
  WHAT A PATTERN SAYS, read off its parts.

  A fragment **spans** `[i, j)` of a text when its author would say that it describes the text between
  these positions.  The definitions below take a pattern apart and speak of positions only: no order in
  which ways are tried, no captures, no bound on how often nothing may be read.

  1. **One span** — `Datatype.once`: a class of characters spans one of them, `string` spans anything, a
     sequence spans consecutive pieces, a choice what one of its fragments spans, a repetition any
     admitted number of pieces, and a look ahead nothing at all where its fragments span nothing.
  2. **Spread** — `Datatype.spans`: a chain of zero or more single spans.
  3. **The step of a datatype has these spans** (`Datatype.reads`), for every **plain** datatype: one
     that says something about text, in which letter case matters, and whose bounds can be counted by.
     The proof follows the datatype, with one combinator of steps for each shape.
-/

namespace StoryValues

open Step (literal Reads)

/-! ## Bounds -/

namespace Bounds

/-- Whether a number of turns lies between the bounds as they are written. -/
def Admits : Bounds → Nat → Prop
  | once, n => 1 ≤ n
  | atLeast min, n => min.le (.int n) = true
  | between min max, n => min.le (.int n) = true ∧ (Number.int n).le max = true

/-- Bounds that a matcher can count by: the fewest and the most turns are those that are admitted. -/
structure Countable (b : Bounds) : Prop where
  admits_iff : ∀ n, b.Admits n ↔ b.least ≤ n ∧ ∀ m, b.most = some m → n ≤ m
  least_le : ∀ m, b.most = some m → b.least ≤ m

end Bounds

/-! ## Spans -/

/-- The span of a line end: both its characters, or either one. -/
def lineEnd (text : List Char) : Span := fun i j =>
  literal text ['\r', '\n'] i j ∨ literal text ['\r'] i j ∨ literal text ['\n'] i j

/-- The span of a class of characters: one of them. -/
def oneOf (text : List Char) (test : Char → Bool) : Span :=
  fun i j => j = i + 1 ∧ ∃ x, text[i]? = some x ∧ test x = true

/-- The span of anything. -/
def anySpan (text : List Char) : Span := fun i j => i ≤ j ∧ j ≤ text.length

/-- A single span, or a chain of any number of them. -/
def Span.spread (more : Bool) (S : Span) : Span := if more = true then S.chain else S

/-- One span of a named datatype; names that say nothing about text have none. -/
def namedSpan (text : List Char) (name : String) : Span :=
  if name = "string" then anySpan text
  else if name = "newline" then lineEnd text
  else match classOf? false name with
    | some test => oneOf text test
    | none => fun _ _ => False

mutual

/-- One span of a datatype, spread or not. -/
def Datatype.once (text : List Char) : Datatype → Span
  | .named name _ => namedSpan text name
  | .pattern shape parts _ _ =>
    match shape with
    | .sequence | .insensitive => Fragment.inOrder text parts
    | .either => Fragment.oneAmong text parts
    | .optional => fun i j => i = j ∨ Fragment.inOrder text parts i j
    | .repeated bounds => fun i j => ∃ n, bounds.Admits n ∧ (Fragment.inOrder text parts).times n i j
    | .notBefore => fun i j => i = j ∧ ∀ k, i ≤ k → ¬ Fragment.inOrder text parts i k

/-- The span of a fragment. -/
def Fragment.spans (text : List Char) : Fragment → Span
  | .text s => literal text s.toList
  | .type d => (d.once text).spread d.isSpread
  | .typed d _ rest => (d.once text).spread (d.isSpread || rest)

/-- The span of fragments, one after another: consecutive pieces. -/
def Fragment.inOrder (text : List Char) : List Fragment → Span
  | [] => fun i j => i = j
  | f :: fs => (f.spans text).andThen (Fragment.inOrder text fs)

/-- The span of one of several fragments. -/
def Fragment.oneAmong (text : List Char) : List Fragment → Span
  | [] => fun _ _ => False
  | f :: fs => fun i j => f.spans text i j ∨ Fragment.oneAmong text fs i j

end

/-- The span of a datatype: a chain of single ones if it is spread. -/
def Datatype.spans (text : List Char) (d : Datatype) : Span := (d.once text).spread d.isSpread

/-! ## Plain datatypes -/

/-- Whether a named datatype says something about text. -/
def isTextName (name : String) : Bool := name == "string" || (pieceOf? false name).isSome

mutual

/-- A plain datatype: its names say something about text, and its patterns tell upper from lower case,
have something to choose from where they choose, and repeat between bounds to count by. -/
def Datatype.Plain : Datatype → Prop
  | .named name _ => isTextName name = true
  | .pattern shape parts folded _ =>
    folded = false ∧ (shape = .either → parts ≠ []) ∧ (∀ b, shape = .repeated b → b.Countable) ∧
      Fragment.AllPlain parts

/-- A fragment with a plain datatype, or none. -/
def Fragment.Plain : Fragment → Prop
  | .text _ => True
  | .type d => d.Plain
  | .typed d _ _ => d.Plain

/-- Fragments with plain datatypes. -/
def Fragment.AllPlain : List Fragment → Prop
  | [] => True
  | f :: fs => f.Plain ∧ Fragment.AllPlain fs

end

/-- Fragments are plain one by one. -/
theorem Fragment.allPlain_iff {fs : List Fragment} :
    Fragment.AllPlain fs ↔ ∀ f ∈ fs, f.Plain := by
  induction fs with
  | nil =>
    constructor
    · intro _ f hf
      exact absurd hf List.not_mem_nil
    · intro _
      exact trivial
  | cons f fs ih => rw [Fragment.AllPlain, ih, List.forall_mem_cons]

/-! ## Steps have these spans -/

variable {text : List Char}

/-- A spread step reads a chain: it is a repetition without bounds. -/
theorem reads_spread {step : Step} {S : Span} (h : Reads text step S) (more : Bool) :
    Reads text (if more = true then step.star else step) (S.spread more) := by
  cases more with
  | true => exact h.star
  | false => exact h

/-- A chain of anything is anything, which is why spreading it changes nothing. -/
theorem anySpan_spread (more : Bool) {i j : Nat} (hi : i ≤ text.length) :
    (anySpan text).spread more i j ↔ anySpan text i j := by
  cases more with
  | false => exact Iff.rfl
  | true =>
    constructor
    · intro h
      induction h with
      | refl => exact ⟨Nat.le_refl i, hi⟩
      | tail _ hkj ih => exact ⟨Nat.le_trans ih.1 hkj.1, hkj.2⟩
    · intro h
      exact Relation.ReflTransGen.single h

/-- The step of a name has the spans of that name, spread by itself or by the variable around it. -/
theorem reads_named {name : String} (hname : isTextName name = true) (spread more : Bool)
    (base : Nat) :
    Reads text ((Datatype.named name spread).step false more base)
      ((namedSpan text name).spread (spread || more)) := by
  unfold Datatype.step namedSpan
  by_cases hs : name = "string"
  · rw [if_pos hs, if_pos hs]
    exact Step.reads_anything.congr fun i j hi => (anySpan_spread _ hi).symm
  · -- any other name that says something about text is that of a line end or of a class
    have hpiece : (pieceOf? false name).isSome = true := by
      simpa [isTextName, hs] using hname
    rw [if_neg hs, if_neg hs]
    unfold pieceOf? at hpiece ⊢
    by_cases hn : name = "newline"
    · rw [if_pos hn, if_pos hn]
      exact reads_spread Step.reads_newline _
    · rw [if_neg hn] at hpiece
      rw [if_neg hn, if_neg hn]
      cases hc : classOf? false name with
      | some test => exact reads_spread (Step.reads_char test) _
      | none =>
        rw [hc] at hpiece
        exact absurd hpiece (by simp)

/-- Repetition between bounds has the spans that the bounds admit: what the matcher counts is what the numbers of the
author say. -/
theorem reads_bounds {body : Step} {S : Span} (h : Reads text body S) {b : Bounds}
    (hb : b.Countable) :
    Reads text (body.repeated b.least b.most) (fun i j => ∃ n, b.Admits n ∧ S.times n i j) := by
  refine (h.repeated hb.least_le).congr fun i j _ => ?_
  constructor
  · rintro ⟨n, hmin, hmax, hn⟩
    exact ⟨n, (hb.admits_iff n).mpr ⟨hmin, hmax⟩, hn⟩
  · rintro ⟨n, hadm, hn⟩
    obtain ⟨hmin, hmax⟩ := (hb.admits_iff n).mp hadm
    exact ⟨n, hmin, hmax, hn⟩

/-- Looking ahead has an empty span where nothing from there on is described.  A span goes forward, so it is enough to
look at later places. -/
theorem reads_notBefore {body : Step} {S : Span} (h : Reads text body S) :
    Reads text body.notBefore (fun i j => i = j ∧ ∀ k, i ≤ k → ¬ S i k) := by
  refine h.notBefore.congr fun i j hi => ?_
  constructor
  · rintro ⟨hij, hnone⟩
    exact ⟨hij, fun k _ => hnone k⟩
  · rintro ⟨hij, hnone⟩
    exact ⟨hij, fun k hk => hnone k (h.within hi hk).1 hk⟩

mutual

/-- **The step of a datatype has the spans of the datatype.**  By recursion on the datatype along with its fragments.
Captures, the order of ways and the rule against empty turns are gone on the right-hand side. -/
theorem Datatype.reads : (d : Datatype) → d.Plain → ∀ more base,
    Reads text (d.step false more base) ((d.once text).spread (d.isSpread || more))
  | .named name spread, h, more, base => by
    rw [Datatype.once]
    exact reads_named h spread more base
  | .pattern shape parts folded spread, h, more, base => by
    obtain ⟨rfl, heither, hcount, hparts⟩ := h
    -- what stands in the pattern is read as its fragments in order, but for a choice
    have hinside := Fragment.reads_inOrder parts hparts base
    unfold Datatype.step Datatype.once
    refine reads_spread ?_ _
    cases shape with
    | sequence => exact hinside
    | insensitive => exact hinside
    | either => exact Fragment.reads_oneAmong parts hparts (heither rfl) base
    | optional => exact hinside.optional
    | repeated b => exact reads_bounds hinside (hcount b rfl)
    | notBefore => exact reads_notBefore hinside

/-- The step of a fragment has the span of the fragment. -/
theorem Fragment.reads : (f : Fragment) → f.Plain → ∀ base,
    Reads text (f.step false base) (f.spans text)
  | .text s, _, base => by
    rw [Fragment.step, Fragment.spans]
    exact Step.reads_text s.toList
  | .type d, h, base => by
    rw [Fragment.step, Fragment.spans]
    have hd := Datatype.reads d h false base
    rwa [Bool.or_false] at hd
  | .typed d name rest, h, base => by
    rw [Fragment.step, Fragment.spans]
    exact (Datatype.reads d h rest (base + 1)).capture base

/-- Steps of fragments, one after another, have the span of the fragments in order. -/
theorem Fragment.reads_inOrder : (fs : List Fragment) → Fragment.AllPlain fs → ∀ base,
    Reads text (Fragment.steps false base fs) (Fragment.inOrder text fs)
  | [], _, base => by
    rw [Fragment.steps, Fragment.inOrder]
    exact Step.reads_done
  | f :: fs, h, base => by
    rw [Fragment.steps, Fragment.inOrder]
    exact (Fragment.reads f h.1 base).andThen (Fragment.reads_inOrder fs h.2 _)

/-- Steps of fragments to choose from have the span of one among the fragments.  There must be one: of none the step
reads the empty text, while none of them describes anything. -/
theorem Fragment.reads_oneAmong : (fs : List Fragment) → Fragment.AllPlain fs → fs ≠ [] → ∀ base,
    Reads text (Fragment.choices false base fs) (Fragment.oneAmong text fs)
  | [], _, hne, _ => absurd rfl hne
  | [f], h, _, base => by
    rw [Fragment.choices]
    refine (Fragment.reads f h.1 base).congr fun i j _ => ?_
    simp only [Fragment.oneAmong, or_false]
  | f :: g :: fs, h, _, base => by
    rw [Fragment.choices, Fragment.oneAmong]
    · exact (Fragment.reads f h.1 base).orElse
        (Fragment.reads_oneAmong (g :: fs) h.2 (List.cons_ne_nil g fs) _)
    · exact List.cons_ne_nil g fs

end

/-- **A plain datatype reads a whole text iff it spans it.**  A datatype that is spread is asked as a chain of its
single spans. -/
theorem Datatype.whole_iff {d : Datatype} (h : d.Plain) (s : String) :
    ((d.step false false 0).whole s.toList).isSome = true ↔ d.spans s.toList 0 s.toList.length := by
  have hd : Reads s.toList _ _ := d.reads h false 0
  rw [Bool.or_false] at hd
  exact hd.whole

end StoryValues
