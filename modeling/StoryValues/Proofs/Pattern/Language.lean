import Mathlib.Computability.Language
import StoryValues.Proofs.Pattern.Spans

/-
  THE LANGUAGE OF A DATATYPE.

  What a pattern without looks ahead reads at some place depends on nothing around that place.  So it has
  a **language**, the set of texts that it reads, with or without regard to letter case; and a language
  can be carried from the middle of a text, where a variable captured something, to that text alone,
  where somebody asks whether it is of the variable's type.

  1. **Languages** — `Datatype.language`: products for sequences, sums for choices, powers between bounds
     for repetitions.
  2. **Steps read languages** — `Step.Recognises`: in every text the span of the step is given by a
     language.  Sums, products and powers of languages are read by the combinators of steps.
  3. **Simple datatypes** — nothing spread, no rest variables, no looks ahead, bounds in order.  Their
     steps read their languages (`Datatype.recognises`), whatever the number of the first capture.
-/

namespace StoryValues

open Step (literal Reads)

/-! ## Languages -/

/-- The texts of one character of a class. -/
def single (test : Char → Bool) : Language Char := {u | ∃ x, u = [x] ∧ test x = true}

/-- The texts of one character after another, each of its class. -/
def lettered (tests : List (Char → Bool)) : Language Char := (tests.map single).prod

/-- The texts of an admitted number of words of a language. -/
def powersBetween (min : Nat) (max : Option Nat) (L : Language Char) : Language Char :=
  {u | ∃ n, min ≤ n ∧ (∀ m, max = some m → n ≤ m) ∧ u ∈ L ^ n}

/-- The line ends. -/
def lineEnds : Language Char :=
  lettered [(· == '\r'), (· == '\n')] + (single (· == '\r') + single (· == '\n'))

/-- The language of a named datatype; names that say nothing about text have no words. -/
def namedLanguage (fold : Bool) (name : String) : Language Char :=
  if name = "string" then ⊤
  else if name = "newline" then lineEnds
  else match classOf? fold name with
    | some test => single test
    | none => 0

mutual

/-- The texts that a datatype reads, spread not counted.  `fold` says that letter case does not matter
here. -/
def Datatype.language (fold : Bool) : Datatype → Language Char
  | .named name _ => namedLanguage fold name
  | .pattern shape parts folded _ =>
    match shape with
    | .sequence | .insensitive => Fragment.sequenceLanguage (fold || folded) parts
    | .either => Fragment.choiceLanguage (fold || folded) parts
    | .optional => 1 + Fragment.sequenceLanguage (fold || folded) parts
    | .repeated b => powersBetween b.least b.most (Fragment.sequenceLanguage (fold || folded) parts)
    | .notBefore => 0

/-- The texts that a fragment reads. -/
def Fragment.language (fold : Bool) : Fragment → Language Char
  | .text s => lettered (s.toList.map (letterTest fold))
  | .type d => d.language fold
  | .typed d _ _ => d.language fold

/-- The texts that fragments read one after another. -/
def Fragment.sequenceLanguage (fold : Bool) : List Fragment → Language Char
  | [] => 1
  | f :: fs => f.language fold * Fragment.sequenceLanguage fold fs

/-- The texts that one of several fragments reads; of none, the empty text. -/
def Fragment.choiceLanguage (fold : Bool) : List Fragment → Language Char
  | [] => 1
  | [f] => f.language fold
  | f :: fs => f.language fold + Fragment.choiceLanguage fold fs

end

/-! ## Spans of languages -/

/-- The stretches of a text that are words of a language. -/
def spanOf (text : List Char) (L : Language Char) : Span :=
  fun i j => i ≤ j ∧ j ≤ text.length ∧ slice text i j ∈ L

section Spans

variable {text : List Char} {L M : Language Char} {i j : Nat}

/-- Stretches that meet are one stretch.  Products of languages are read this way, with the meeting place as the
position between the two steps. -/
theorem slice_append_slice {k : Nat} (hik : i ≤ k) (hkj : k ≤ j) :
    slice text i k ++ slice text k j = slice text i j := by
  unfold slice
  have hdrop : text.drop k = (text.drop i).drop (k - i) := by
    rw [List.drop_drop, Nat.add_sub_cancel' hik]
  rw [hdrop, show j - i = (k - i) + (j - k) by omega, List.take_add]

/-- Where a stretch falls into two words, there is a place between them: as far behind the start as the first word is
long. -/
theorem slice_eq_append (hj : j ≤ text.length) {a b : List Char} (h : slice text i j = a ++ b)
    (hij : i ≤ j) :
    i + a.length ≤ j ∧ slice text i (i + a.length) = a ∧ slice text (i + a.length) j = b := by
  have hlength : j - i = a.length + b.length := by
    rw [← length_slice hj, h, List.length_append]
  have hfront : i + a.length ≤ j := by omega
  have hjoin : slice text i (i + a.length) ++ slice text (i + a.length) j = slice text i j :=
    slice_append_slice (Nat.le_add_right i a.length) hfront
  rw [h] at hjoin
  have hsame : (slice text i (i + a.length)).length = a.length := by
    rw [length_slice (Nat.le_trans hfront hj), Nat.add_sub_cancel_left]
  exact ⟨hfront, List.append_inj hjoin hsame⟩

/-- The language of the empty word is the stretch of nothing, which is anywhere in the text. -/
theorem spanOf_one (hi : i ≤ text.length) : spanOf text 1 i j ↔ i = j := by
  rw [← Step.literal_nil hi]
  exact Iff.rfl

/-- The stretches of a product are one stretch after another.  From left to right the meeting place is the end of the
first word; from right to left the two stretches are put together. -/
theorem spanOf_mul : spanOf text (L * M) i j ↔ (spanOf text L).andThen (spanOf text M) i j := by
  constructor
  · rintro ⟨hij, hj, hmem⟩
    obtain ⟨a, ha, b, hb, hab⟩ := Language.mem_mul.mp hmem
    obtain ⟨hfront, hleft, hright⟩ := slice_eq_append hj hab.symm hij
    refine ⟨i + a.length, ⟨Nat.le_add_right i _, Nat.le_trans hfront hj, ?_⟩, ⟨hfront, hj, ?_⟩⟩
    · rw [hleft]
      exact ha
    · rw [hright]
      exact hb
  · rintro ⟨k, ⟨hik, _, hL⟩, ⟨hkj, hj, hM⟩⟩
    exact ⟨Nat.le_trans hik hkj, hj,
      Language.mem_mul.mpr ⟨_, hL, _, hM, slice_append_slice hik hkj⟩⟩

/-- The stretches of a sum are those of either language. -/
theorem spanOf_add : spanOf text (L + M) i j ↔ spanOf text L i j ∨ spanOf text M i j := by
  unfold spanOf
  rw [Language.mem_add]
  constructor
  · rintro ⟨hij, hj, h | h⟩
    · exact Or.inl ⟨hij, hj, h⟩
    · exact Or.inr ⟨hij, hj, h⟩
  · rintro (⟨hij, hj, h⟩ | ⟨hij, hj, h⟩)
    · exact ⟨hij, hj, Or.inl h⟩
    · exact ⟨hij, hj, Or.inr h⟩

/-- The stretches of a power are that many stretches one after another, by induction on the exponent with `spanOf_mul`
for the step. -/
theorem spanOf_pow (n : Nat) (hi : i ≤ text.length) :
    spanOf text (L ^ n) i j ↔ (spanOf text L).times n i j := by
  induction n generalizing i with
  | zero =>
    rw [pow_zero]
    exact spanOf_one hi
  | succ n ih =>
    rw [pow_succ', spanOf_mul]
    constructor
    · rintro ⟨k, hL, hrest⟩
      exact ⟨k, hL, (ih hL.2.1).mp hrest⟩
    · rintro ⟨k, hL, hrest⟩
      exact ⟨k, hL, (ih hL.2.1).mpr hrest⟩

/-- The stretches of an admitted number of words are an admitted number of stretches: `spanOf_pow` for each number
that the bounds allow. -/
theorem spanOf_powersBetween {min : Nat} {max : Option Nat} (hi : i ≤ text.length) :
    spanOf text (powersBetween min max L) i j ↔
      ∃ n, min ≤ n ∧ (∀ m, max = some m → n ≤ m) ∧ (spanOf text L).times n i j := by
  constructor
  · rintro ⟨hij, hj, n, hmin, hmax, hmem⟩
    exact ⟨n, hmin, hmax, (spanOf_pow n hi).mp ⟨hij, hj, hmem⟩⟩
  · rintro ⟨n, hmin, hmax, hn⟩
    obtain ⟨hij, hj, hmem⟩ := (spanOf_pow n hi).mpr hn
    exact ⟨hij, hj, n, hmin, hmax, hmem⟩

/-- The stretches of one character of a class are the places of such a character. -/
theorem spanOf_single {test : Char → Bool} :
    spanOf text (single test) i j ↔ j = i + 1 ∧ ∃ x, text[i]? = some x ∧ test x = true := by
  constructor
  · rintro ⟨hij, hj, x, hx, htest⟩
    have hlength : j - i = 1 := by rw [← length_slice hj, hx, List.length_singleton]
    have hnext : literal text [x] i j := ⟨hij, hj, hx⟩
    exact ⟨by omega, x, (Step.literal_cons.mp hnext).1, htest⟩
  · rintro ⟨rfl, x, hx, htest⟩
    have hlt := (List.getElem?_eq_some_iff.mp hx).1
    obtain ⟨hij, hj, hslice⟩ : literal text [x] i (i + 1) :=
      Step.literal_cons.mpr ⟨hx, (Step.literal_nil hlt).mpr rfl⟩
    exact ⟨hij, hj, x, hslice, htest⟩

end Spans

/-! ## Steps read languages -/

namespace Step

/-- In every text the step reads the words of the language, and stops wherever one of them ends. -/
def Recognises (step : Step) (L : Language Char) : Prop := ∀ text, Reads text step (spanOf text L)

variable {first second body : Step} {L M : Language Char}

/-- Alone, a text is read whole iff it is a word: the stretch from its front to its end is the text itself. -/
theorem Recognises.whole_iff (h : first.Recognises L) (u : List Char) :
    (first.whole u).isSome = true ↔ u ∈ L := by
  have hall : slice u 0 u.length = u := by simp [slice]
  rw [(h u).whole]
  exact ⟨fun ⟨_, _, hmem⟩ => hall ▸ hmem, fun hu => ⟨Nat.zero_le _, Nat.le_refl _, hall.symm ▸ hu⟩⟩

/-- The step that reads nothing reads the empty word. -/
theorem recognises_done : done.Recognises 1 :=
  fun _ => reads_done.congr fun _ _ hi => (spanOf_one hi).symm

/-- The step of a character reads the words of one character of its class. -/
theorem recognises_char (test : Char → Bool) : (char test).Recognises (single test) :=
  fun _ => (reads_char test).congr fun _ _ _ => spanOf_single.symm

/-- One step after another reads the product of their languages.  Here and below the span of the combined step
(`Reads`) is rewritten as the span of the combined language. -/
theorem Recognises.andThen (hL : first.Recognises L) (hM : second.Recognises M) :
    (Step.andThen first second).Recognises (L * M) :=
  fun text => ((hL text).andThen (hM text)).congr fun _ _ _ => spanOf_mul.symm

/-- Two steps to choose from read the sum of their languages.  The order of the two decides what is captured, but not
what is read. -/
theorem Recognises.orElse (hL : first.Recognises L) (hM : second.Recognises M) :
    (Step.orElse first second).Recognises (L + M) :=
  fun text => ((hL text).orElse (hM text)).congr fun _ _ _ => spanOf_add.symm

/-- A capture reads what its body reads. -/
theorem Recognises.capture (h : body.Recognises L) (index : Nat) :
    (Step.capture index body).Recognises L := fun text => (h text).capture index

/-- A repeated step reads the powers between its bounds.  The bounds must be in order, as building a pattern sees to:
otherwise the step reads at least the minimum and the language is empty. -/
theorem Recognises.repeated (h : body.Recognises L) {min : Nat} {max : Option Nat}
    (hmax : ∀ m, max = some m → min ≤ m) :
    (Step.repeated body min max).Recognises (powersBetween min max L) :=
  fun text => ((h text).repeated hmax).congr fun _ _ hi => (spanOf_powersBetween hi).symm

/-- An optional step reads the empty word and what its body reads. -/
theorem Recognises.optional (h : body.Recognises L) : (Step.optional body).Recognises (1 + L) :=
  fun text => (h text).optional.congr fun i j hi => by
    rw [spanOf_add, spanOf_one hi]

/-- The step of any text reads every word, line ends among them. -/
theorem recognises_anything : anything.Recognises ⊤ :=
  fun _ => reads_anything.congr fun _ _ _ => ⟨fun h => ⟨h.1, h.2, trivial⟩, fun h => ⟨h.1, h.2.1⟩⟩

/-- A literal text reads the words whose characters are each of their class, by induction on the text.  With regard to
letter case a class is one character, without regard to it the characters that fold alike. -/
theorem recognises_text : ∀ tests : List (Char → Bool), (Step.text tests).Recognises (lettered tests)
  | [] => recognises_done
  | test :: tests => by
    have hrest := (recognises_char test).andThen (recognises_text tests)
    rwa [lettered, ← List.prod_cons, ← List.map_cons] at hrest

/-- A line end is read as both its characters or as either one, and these are the words of `lineEnds`. -/
theorem recognises_newline : newline.Recognises lineEnds :=
  (recognises_text _).orElse ((recognises_char _).orElse (recognises_char _))

end Step

/-! ## Simple datatypes -/

mutual

/-- A simple datatype: its names say something about text, nothing in it is spread or only looks ahead,
and its repetitions have bounds in order. -/
def Datatype.Simple : Datatype → Prop
  | .named name spread => isTextName name = true ∧ spread = false
  | .pattern shape parts _ spread =>
    spread = false ∧ shape ≠ .notBefore ∧
      (∀ b, shape = .repeated b → ∀ m, b.most = some m → b.least ≤ m) ∧ Fragment.AllSimple parts

/-- A fragment with a simple datatype, or none, and no rest variable. -/
def Fragment.Simple : Fragment → Prop
  | .text _ => True
  | .type d => d.Simple
  | .typed d _ rest => rest = false ∧ d.Simple

/-- Simple fragments. -/
def Fragment.AllSimple : List Fragment → Prop
  | [] => True
  | f :: fs => f.Simple ∧ Fragment.AllSimple fs

end

/-- Simple fragments are simple one by one.  The recursive form goes with the mutual recursions, this one with facts
about members. -/
theorem Fragment.allSimple_iff {fs : List Fragment} :
    Fragment.AllSimple fs ↔ ∀ f ∈ fs, f.Simple := by
  induction fs with
  | nil =>
    constructor
    · intro _ f hf
      exact absurd hf List.not_mem_nil
    · intro _
      exact trivial
  | cons f fs ih => rw [Fragment.AllSimple, ih, List.forall_mem_cons]

/-- Folding letter case makes classes larger and no more of them: a name that says something about text says something
whether or not letter case matters. -/
theorem pieceOf?_isSome {name : String} (h : (pieceOf? false name).isSome = true) (fold : Bool) :
    (pieceOf? fold name).isSome = true := by
  unfold pieceOf? at h ⊢
  split
  · rfl
  · next hn =>
    rw [if_neg hn, Option.isSome_map] at h
    rw [Option.isSome_map]
    unfold classOf? at h ⊢
    split <;> simp_all

/-- A name that says something about text reads anything, or a line end, or one character of a class. -/
theorem named_cases {motive : Step → Language Char → Prop} {name : String} (hname : isTextName name = true)
    (fold : Bool) (base : Nat) (anything : motive Step.anything ⊤) (newline : motive Step.newline lineEnds)
    (char : ∀ test, motive (Step.char test) (single test)) :
    motive ((Datatype.named name false).step fold false base) (namedLanguage fold name) := by
  unfold Datatype.step namedLanguage
  by_cases hs : name = "string"
  · rw [if_pos hs, if_pos hs]
    exact anything
  · have hpiece : (pieceOf? fold name).isSome = true :=
      pieceOf?_isSome (by simpa [isTextName, hs] using hname) fold
    rw [if_neg hs, if_neg hs]
    unfold pieceOf? at hpiece ⊢
    by_cases hn : name = "newline"
    · rw [if_pos hn, if_pos hn]
      exact newline
    · rw [if_neg hn, Option.isSome_map] at hpiece
      rw [if_neg hn, if_neg hn]
      obtain ⟨test, htest⟩ := Option.isSome_iff_exists.mp hpiece
      rw [htest]
      exact char test

/-- The step of a name reads its language: any text, a line end, or one character of the class of the name
(`named_cases`). -/
theorem recognises_named {name : String} (hname : isTextName name = true) (fold : Bool) (base : Nat) :
    ((Datatype.named name false).step fold false base).Recognises (namedLanguage fold name) :=
  named_cases hname fold base Step.recognises_anything Step.recognises_newline Step.recognises_char

mutual

/-- **The step of a simple datatype reads its language.**  By recursion on the datatype along with its fragments; each
case is the combinator of the shape, and no case looks at what is around. -/
theorem Datatype.recognises : (d : Datatype) → d.Simple → ∀ fold base,
    (d.step fold false base).Recognises (d.language fold)
  | .named name spread, h, fold, base => by
    obtain ⟨hname, rfl⟩ := h
    rw [Datatype.language]
    exact recognises_named hname fold base
  | .pattern shape parts folded spread, h, fold, base => by
    obtain ⟨rfl, hahead, hbounds, hparts⟩ := h
    have hinside := Fragment.recognises_sequence parts hparts (fold || folded) base
    unfold Datatype.step Datatype.language
    cases shape with
    | sequence => exact hinside
    | insensitive => exact hinside
    | either => exact Fragment.recognises_choice parts hparts (fold || folded) base
    | optional => exact hinside.optional
    | repeated b => exact hinside.repeated (hbounds b rfl)
    | notBefore => exact absurd rfl hahead

/-- The step of a simple fragment reads its language.  A typed variable reads what its type reads, and captures it,
which `Recognises.capture` says is the same. -/
theorem Fragment.recognises : (f : Fragment) → f.Simple → ∀ fold base,
    (f.step fold base).Recognises (f.language fold)
  | .text s, _, fold, base => by
    rw [Fragment.step, Fragment.language]
    exact Step.recognises_text _
  | .type d, h, fold, base => by
    rw [Fragment.step, Fragment.language]
    exact Datatype.recognises d h fold base
  | .typed d name rest, h, fold, base => by
    obtain ⟨rfl, h⟩ := h
    rw [Fragment.step, Fragment.language]
    exact (Datatype.recognises d h fold (base + 1)).capture base

/-- Steps of simple fragments, one after another, read the product of their languages.  The numbers of the captures go
on from fragment to fragment, but no language depends on them. -/
theorem Fragment.recognises_sequence : (fs : List Fragment) → Fragment.AllSimple fs → ∀ fold base,
    (Fragment.steps fold base fs).Recognises (Fragment.sequenceLanguage fold fs)
  | [], _, fold, base => by
    rw [Fragment.steps, Fragment.sequenceLanguage]
    exact Step.recognises_done
  | f :: fs, h, fold, base => by
    rw [Fragment.steps, Fragment.sequenceLanguage]
    exact (Fragment.recognises f h.1 fold base).andThen (Fragment.recognises_sequence fs h.2 fold _)

/-- Steps of simple fragments to choose from read the sum of their languages; a choice without fragments reads the
empty text, as the step does. -/
theorem Fragment.recognises_choice : (fs : List Fragment) → Fragment.AllSimple fs → ∀ fold base,
    (Fragment.choices fold base fs).Recognises (Fragment.choiceLanguage fold fs)
  | [], _, fold, base => by
    rw [Fragment.choices, Fragment.choiceLanguage]
    exact Step.recognises_done
  | [f], h, fold, base => by
    rw [Fragment.choices, Fragment.choiceLanguage]
    exact Fragment.recognises f h.1 fold base
  | f :: g :: fs, h, fold, base => by
    rw [Fragment.choices, Fragment.choiceLanguage]
    · exact (Fragment.recognises f h.1 fold base).orElse
        (Fragment.recognises_choice (g :: fs) h.2 fold _)
    · exact List.cons_ne_nil g fs
    · exact List.cons_ne_nil g fs

end

end StoryValues
