import StoryValues.Pattern.Match
import StoryValues.Proofs.Pattern.Turns

/-
  WHAT A PATTERN CAN TELL APART.

  All that a pattern ever asks about a text is whether some character passes a test, and where the text
  ends.  So two texts of the same length whose characters pass the same tests, place by place, are the same
  to it.

  1. **The same span** — `Step.SameSpan`: a step has one span in both texts.  Each combinator of steps hands
     this on, and a test is where it comes from (`sameSpan_char`).  No bounds of a repetition have to be in
     order for that, since the turns look at nothing but the length of the text (`turning_of_length`).
  2. **The tests of a datatype** (`Datatype.charTests`) are those of its letters and of its classes.
  3. **The whole** (`Datatype.sameSpan`), by induction on the datatype; in particular the step of any
     datatype has a span in any text (`Datatype.exists_reads`).
-/

namespace StoryValues

namespace Step

variable {text text' : List Char} {step first second body : Step} {S : Span}

/-! ## The same span -/

/-- A step reads the same stretches of two texts. -/
def SameSpan (text text' : List Char) (step : Step) : Prop := ∃ S, Reads text step S ∧ Reads text' step S

/-- The step that reads nothing has its span in every text. -/
theorem sameSpan_done : SameSpan text text' done := ⟨_, reads_done, reads_done⟩

/-- So has the step that never goes on. -/
theorem sameSpan_never : SameSpan text text' never := ⟨_, reads_never, reads_never⟩

/-- **A test that says the same of both texts** is where they start to be alike.  Its span is written by what it says
at each place, which is all that it knows of the text. -/
theorem sameSpan_char {test : Char → Bool} (h : text.map test = text'.map test) :
    SameSpan text text' (char test) := by
  have hasked : ∀ s : List Char, Reads s (char test) fun i j => j = i + 1 ∧ (s.map test)[i]? = some true := by
    intro s
    refine (reads_char test).congr fun i j _ => and_congr_right fun _ => ?_
    rw [List.getElem?_map, Option.map_eq_some_iff]
  exact ⟨_, hasked text, h ▸ hasked text'⟩

/-- One step after another: the span of both is put together of theirs, in either text. -/
theorem SameSpan.andThen (h : SameSpan text text' first) (h' : SameSpan text text' second) :
    SameSpan text text' (Step.andThen first second) := by
  obtain ⟨S, hS, hS'⟩ := h
  obtain ⟨T, hT, hT'⟩ := h'
  exact ⟨_, hS.andThen hT, hS'.andThen hT'⟩

/-- Two steps to choose from have the spans of both. -/
theorem SameSpan.orElse (h : SameSpan text text' first) (h' : SameSpan text text' second) :
    SameSpan text text' (Step.orElse first second) := by
  obtain ⟨S, hS, hS'⟩ := h
  obtain ⟨T, hT, hT'⟩ := h'
  exact ⟨_, hS.orElse hT, hS'.orElse hT'⟩

/-- A capture has the span of its body. -/
theorem SameSpan.capture (h : SameSpan text text' body) (index : Nat) :
    SameSpan text text' (Step.capture index body) := by
  obtain ⟨S, hS, hS'⟩ := h
  exact ⟨S, hS.capture index, hS'.capture index⟩

/-- Looking ahead has a span that says where its body has none.  It is two-sided for this reason: of a step that reads
*less* of another text nothing follows for one that looks ahead. -/
theorem SameSpan.notBefore (h : SameSpan text text' body) : SameSpan text text' body.notBefore := by
  obtain ⟨S, hS, hS'⟩ := h
  exact ⟨_, hS.notBefore, hS'.notBefore⟩

/-- A literal text makes one test after another, so the texts must agree on each of them. -/
theorem sameSpan_text {tests : List (Char → Bool)} (h : ∀ test ∈ tests, text.map test = text'.map test) :
    SameSpan text text' (Step.text tests) := by
  induction tests with
  | nil => exact sameSpan_done
  | cons test tests ih =>
    obtain ⟨htest, htests⟩ := List.forall_mem_cons.mp h
    exact (sameSpan_char htest).andThen (ih htests)

section

variable (hlength : text.length = text'.length)
include hlength

/-- The step of any text knows a text by its length. -/
theorem sameSpan_anything : SameSpan text text' anything := by
  refine ⟨_, reads_anything, ?_⟩
  rw [hlength]
  exact reads_anything

/-- The turns of a repetition know a text by its length: what they remember is how much was left.  By induction on the
turns taken. -/
theorem turning_of_length {min : Nat} {max : Option Nat} {count : Nat} {last : Option Nat} {i j : Nat}
    (h : Turning text S min max count last i j) : Turning text' S min max count last i j := by
  induction h with
  | stop hmin => exact .stop hmin
  | owed hmin hik _ ih => exact .owed hmin hik ih
  | free hmin hallows hlast hik _ ih =>
    rw [hlength] at hlast ih
    exact .free hmin hallows hlast hik ih

/-- Repetition has the turns of its body for a span.  They are taken over as they are and not counted, so the bounds
need not be in order. -/
theorem SameSpan.repeated (h : SameSpan text text' body) (min : Nat) (max : Option Nat) :
    SameSpan text text' (Step.repeated body min max) := by
  obtain ⟨S, hS, hS'⟩ := h
  refine ⟨Turning text S min max 0 none, reads_turns hS 0 none, (reads_turns hS' 0 none).congr fun i j _ => ?_⟩
  exact ⟨turning_of_length hlength.symm, turning_of_length hlength⟩

/-- A spread step is a repetition without bounds. -/
theorem SameSpan.spread (h : SameSpan text text' body) (more : Bool) :
    SameSpan text text' (if more = true then body.star else body) := by
  cases more with
  | true => exact h.repeated hlength 0 none
  | false => exact h

end

end Step

/-! ## The tests of a datatype -/

mutual

/-- The tests that the step of a datatype makes of characters.  `fold` says that letter case does not matter
here. -/
def Datatype.charTests (fold : Bool) : Datatype → List (Char → Bool)
  | .named name _ =>
    if name = "newline" then [(· == '\r'), (· == '\n')] else (classOf? fold name).toList
  | .pattern _ parts folded _ => Fragment.charTestsIn (fold || folded) parts

/-- The tests that the step of a fragment makes. -/
def Fragment.charTests (fold : Bool) : Fragment → List (Char → Bool)
  | .text s => s.toList.map (letterTest fold)
  | .type d => d.charTests fold
  | .typed d _ _ => d.charTests fold

/-- The tests that the steps of fragments make. -/
def Fragment.charTestsIn (fold : Bool) : List Fragment → List (Char → Bool)
  | [] => []
  | f :: fs => f.charTests fold ++ Fragment.charTestsIn fold fs

end

/-! ## The whole -/

section

variable {text text' : List Char}

open Step (SameSpan)

/-- A name reads anything, or line ends, or characters of a class, or nothing at all.  What it tests are the line ends
and the class. -/
theorem sameSpan_named (hlength : text.length = text'.length) (name : String) (spread fold more : Bool) (base : Nat)
    (h : ∀ test ∈ (Datatype.named name spread).charTests fold, text.map test = text'.map test) :
    SameSpan text text' ((Datatype.named name spread).step fold more base) := by
  unfold Datatype.charTests at h
  unfold Datatype.step pieceOf?
  by_cases hs : name = "string"
  · rw [if_pos hs]
    exact Step.sameSpan_anything hlength
  rw [if_neg hs]
  by_cases hn : name = "newline"
  · rw [if_pos hn] at h ⊢
    obtain ⟨hr, h⟩ := List.forall_mem_cons.mp h
    have hl := List.forall_mem_singleton.mp h
    refine SameSpan.spread hlength ?_ _
    refine (Step.sameSpan_text ?_).orElse ((Step.sameSpan_char hr).orElse (Step.sameSpan_char hl))
    exact List.forall_mem_cons.mpr ⟨hr, List.forall_mem_singleton.mpr hl⟩
  · rw [if_neg hn] at h ⊢
    cases hc : classOf? fold name with
    | some test =>
      rw [hc] at h
      exact (Step.sameSpan_char (h test List.mem_cons_self)).spread hlength _
    | none => exact Step.sameSpan_never

mutual

/-- **Texts that pass the same tests of a datatype are the same to it.**  By recursion on the datatype along with its
fragments; each case hands the spans on by the combinator of its shape. -/
theorem Datatype.sameSpan (hlength : text.length = text'.length) : (d : Datatype) → ∀ fold more base,
    (∀ test ∈ d.charTests fold, text.map test = text'.map test) → SameSpan text text' (d.step fold more base)
  | .named name spread, fold, more, base, h => sameSpan_named hlength name spread fold more base h
  | .pattern shape parts folded spread, fold, more, base, h => by
    obtain ⟨hinside, hamong⟩ := Fragment.sameSpans hlength parts (fold || folded) base h
    unfold Datatype.step
    refine SameSpan.spread hlength ?_ _
    cases shape with
    | sequence => exact hinside
    | insensitive => exact hinside
    | either => exact hamong
    | optional => exact hinside.repeated hlength 0 (some 1)
    | repeated b => exact hinside.repeated hlength b.least b.most
    | notBefore => exact hinside.notBefore

/-- They are the same to a fragment, whose tests are those of its letters or of the datatype in it. -/
theorem Fragment.sameSpan (hlength : text.length = text'.length) : (f : Fragment) → ∀ fold base,
    (∀ test ∈ f.charTests fold, text.map test = text'.map test) → SameSpan text text' (f.step fold base)
  | .text _, _, _, h => Step.sameSpan_text h
  | .type d, fold, base, h => Datatype.sameSpan hlength d fold false base h
  | .typed d _ rest, fold, base, h => (Datatype.sameSpan hlength d fold rest (base + 1) h).capture base

/-- So they are to fragments in order, and to fragments to choose from.  Both are put together of the same steps,
hence one recursion. -/
theorem Fragment.sameSpans (hlength : text.length = text'.length) : (fs : List Fragment) → ∀ fold base,
    (∀ test ∈ Fragment.charTestsIn fold fs, text.map test = text'.map test) →
      SameSpan text text' (Fragment.steps fold base fs) ∧ SameSpan text text' (Fragment.choices fold base fs)
  | [], fold, base, h => ⟨Step.sameSpan_done, Step.sameSpan_done⟩
  | f :: fs, fold, base, h => by
    obtain ⟨hf, hfs⟩ := List.forall_mem_append.mp h
    have hfirst := Fragment.sameSpan hlength f fold base hf
    obtain ⟨hinside, hamong⟩ := Fragment.sameSpans hlength fs fold (base + f.captures) hfs
    refine ⟨hfirst.andThen hinside, ?_⟩
    cases fs with
    | nil => exact hfirst
    | cons g fs => exact hfirst.orElse hamong

end

/-- **A datatype reads both or neither of two texts that pass its tests alike.**  A limit of the pattern that stops it
stops it for both, since it does not depend on the text. -/
theorem Datatype.readsAll_of_charTests {d : Datatype} {s t : String} (hlength : s.toList.length = t.toList.length)
    (h : ∀ test ∈ d.charTests false, s.toList.map test = t.toList.map test) : d.readsAll s = d.readsAll t := by
  obtain ⟨S, hS, hS'⟩ := Datatype.sameSpan hlength d false false 0 h
  have hwhole : ((d.step false false 0).whole s.toList).isSome = ((d.step false false 0).whole t.toList).isSome := by
    rw [Bool.eq_iff_iff, hS.whole, hS'.whole, hlength]
  rw [readsAll, readsAll, fullMatch?, fullMatch?]
  split
  · rfl
  · exact congrArg Except.ok hwhole

end

/-- **The step of a datatype has a span** in every text, whatever the datatype: a text passes the same tests as
itself. -/
theorem Datatype.exists_reads (d : Datatype) (fold more : Bool) (base : Nat) (text : List Char) :
    ∃ S, Step.Reads text (d.step fold more base) S := by
  obtain ⟨S, hS, _⟩ : Step.SameSpan text text (d.step fold more base) :=
    Datatype.sameSpan rfl d fold more base fun _ _ => rfl
  exact ⟨S, hS⟩

end StoryValues
