import Mathlib.Logic.Relation
import StoryValues.Pattern.Step

/-
  WHAT A STEP READS, without continuations.

  A step is handed what is to follow and asks it, one way of reading after another, whether it can go
  on; the answer carries captures.  Whether there is an answer at all depends on much less: on the
  positions of the text at which the step may stop.  So a step *means* a relation of positions, its
  **span**, and this file finds the span of every step.

  1. **Meaning** — `Reads text step S`: whatever follows, the step succeeds from position `i` iff what
     follows succeeds from some `j` with `S i j`.  What follows may look at captures only to hand them
     on, which is why it is described by a predicate of positions.
  2. **Combinators** — done, one character, one step after another, one or another, captures, looking
     ahead: each has the span that its name says.
  3. **Literal text** — a step that reads the characters of a text one by one spans `[i, j)` iff the
     text between `i` and `j` is that text.

  Repetition has a file of its own.
-/

namespace StoryValues

/-- A relation between the position where reading starts and one where it stops. -/
abbrev Span := Nat → Nat → Prop

namespace Span

/-- One span, then another that starts where the first one stops. -/
def andThen (S T : Span) : Span := fun i j => ∃ k, S i k ∧ T k j

/-- A span that is as long as it takes: `n` of them, one after another. -/
def times (S : Span) : Nat → Span
  | 0 => fun i j => i = j
  | n + 1 => S.andThen (S.times n)

/-- Zero or more spans, one after another. -/
def chain (S : Span) : Span := Relation.ReflTransGen S

/-- A chain is some number of spans.  Both ways by induction, on the chain and on the number. -/
theorem chain_iff_times {S : Span} {i j : Nat} : S.chain i j ↔ ∃ n, S.times n i j := by
  constructor
  · intro h
    induction h using Relation.ReflTransGen.head_induction_on with
    | refl => exact ⟨0, rfl⟩
    | head hik _ ih =>
      obtain ⟨n, hn⟩ := ih
      exact ⟨n + 1, _, hik, hn⟩
  · rintro ⟨n, hn⟩
    induction n generalizing i with
    | zero => exact hn ▸ Relation.ReflTransGen.refl
    | succ n ih =>
      obtain ⟨k, hik, hkj⟩ := hn
      exact Relation.ReflTransGen.head hik (ih hkj)

end Span

/-- The text between two positions. -/
def slice (text : List Char) (i j : Nat) : List Char := (text.drop i).take (j - i)

/-- A stretch is as long as its places are apart, when it ends inside the text. -/
theorem length_slice {text : List Char} {i j : Nat} (hj : j ≤ text.length) :
    (slice text i j).length = j - i := by
  unfold slice
  rw [List.length_take, List.length_drop]
  omega

/-- A stretch that is not empty starts with the character at its first place.  Literal texts are read this way, one
character at a time. -/
theorem slice_eq_cons {text : List Char} {i j : Nat} (hij : i < j) (hi : i < text.length) :
    slice text i j = text[i] :: slice text (i + 1) j := by
  unfold slice
  rw [List.drop_eq_getElem_cons hi, show j - i = (j - (i + 1)) + 1 by omega, List.take_succ_cons]

namespace Step

variable {text : List Char}

/-! ## Meaning -/

/-- A span that starts inside the text goes forward and stays inside. -/
def Within (text : List Char) (S : Span) : Prop :=
  ∀ ⦃i j⦄, i ≤ text.length → S i j → i ≤ j ∧ j ≤ text.length

/-- From position `i`, the step succeeds iff what follows succeeds where a span from `i` stops.  What
follows is any continuation whose success, whatever the captures, is the predicate `p`. -/
def ReadsAt (text : List Char) (step : Step) (S : Span) (i : Nat) : Prop :=
  ∀ (c : Captures) (k : Rest (text.drop i) → Captures → Option Captures) (p : Nat → Prop),
    (∀ j (h : (text.drop j).length ≤ (text.drop i).length), i ≤ j → j ≤ text.length →
      ∀ c', (k ⟨text.drop j, h⟩ c').isSome = true ↔ p j) →
    ((step (text.drop i) c k).isSome = true ↔ ∃ j, S i j ∧ p j)

/-- **The meaning of a step** in a text: a span that stays in the text and decides success from every
position. -/
structure Reads (text : List Char) (step : Step) (S : Span) : Prop where
  within : Within text S
  readsAt : ∀ i, i ≤ text.length → ReadsAt text step S i

/-- What is left at a later place is no longer than at an earlier one.  Continuations are handed what is left together
with this bound. -/
theorem length_drop_le {i j : Nat} (h : i ≤ j) : (text.drop j).length ≤ (text.drop i).length := by
  rw [List.length_drop, List.length_drop]
  omega

/-- Spans that agree inside the text are the same meaning, since a step is never asked about a place outside it. -/
theorem Reads.congr {step : Step} {S T : Span} (h : Reads text step S)
    (hST : ∀ i j, i ≤ text.length → (S i j ↔ T i j)) : Reads text step T := by
  refine ⟨fun i j hi hT => h.within hi ((hST i j hi).mpr hT), fun i hi c k p hk => ?_⟩
  rw [h.readsAt i hi c k p hk]
  constructor
  · rintro ⟨j, hS, hp⟩
    exact ⟨j, (hST i j hi).mp hS, hp⟩
  · rintro ⟨j, hT, hp⟩
    exact ⟨j, (hST i j hi).mpr hT, hp⟩

/-- A step reads a whole text iff a span leads from its front to its end.  What follows is the continuation that
accepts only where nothing is left. -/
theorem Reads.whole {step : Step} {S : Span} (h : Reads text step S) :
    (step.whole text).isSome = true ↔ S 0 text.length := by
  -- what follows asks for nothing but the end of the text
  have hk : ∀ j (hl : (text.drop j).length ≤ (text.drop 0).length), 0 ≤ j → j ≤ text.length →
      ∀ c' : Captures, (if text.drop j = [] then some c' else none).isSome = true ↔
        j = text.length := by
    intro j _ _ hj c'
    by_cases hnil : text.drop j = []
    · rw [if_pos hnil]
      exact ⟨fun _ => Nat.le_antisymm hj (List.drop_eq_nil_iff.mp hnil), fun _ => rfl⟩
    · rw [if_neg hnil]
      refine ⟨fun h => absurd h (by simp), fun he => ?_⟩
      exact absurd (List.drop_eq_nil_iff.mpr (Nat.le_of_eq he.symm)) hnil
  have hw := h.readsAt 0 (Nat.zero_le _) [] (fun r c => if r.1 = [] then some c else none)
    (fun j => j = text.length) hk
  unfold Step.whole
  rw [List.drop_zero] at hw
  rw [hw]
  constructor
  · rintro ⟨j, hS, rfl⟩
    exact hS
  · intro hS
    exact ⟨text.length, hS, rfl⟩

/-! ## Combinators -/

/-- The step that reads nothing stops where it starts. -/
theorem reads_done : Reads text done (fun i j => i = j) := by
  refine ⟨fun i j hi hij => ⟨Nat.le_of_eq hij, hij ▸ hi⟩, fun i hi c k p hk => ?_⟩
  show (k ⟨text.drop i, Nat.le_refl _⟩ c).isSome = true ↔ _
  rw [hk i (Nat.le_refl _) (Nat.le_refl i) hi c]
  constructor
  · intro hp
    exact ⟨i, rfl, hp⟩
  · rintro ⟨j, rfl, hp⟩
    exact hp

/-- The step of what says nothing about text stops nowhere. -/
theorem reads_never : Reads text never (fun _ _ => False) := by
  refine ⟨nofun, fun i hi c k p _ => ⟨nofun, ?_⟩⟩
  rintro ⟨_, hspan, _⟩
  exact hspan.elim

/-- A step of one character, where there is a first one: it goes on behind the character if the test takes it.  Stated
for a text that is *equal* to a cons, so that it can be used of what is left at a place. -/
theorem char_of_cons {test : Char → Bool} {x : Char} {xs s : List Char} (hs : s = x :: xs)
    (hle : xs.length ≤ s.length) (c : Captures) (k : Rest s → Captures → Option Captures) :
    char test s c k = if test x = true then k ⟨xs, hle⟩ c else none := by
  subst hs
  rfl

/-- Where nothing is left, a step of one character fails. -/
theorem char_of_nil {test : Char → Bool} {s : List Char} (hs : s = []) (c : Captures)
    (k : Rest s → Captures → Option Captures) : char test s c k = none := by
  subst hs
  rfl

/-- The step of one character stops one place further, where the character there passes the test. -/
theorem reads_char (test : Char → Bool) :
    Reads text (char test) (fun i j => j = i + 1 ∧ ∃ x, text[i]? = some x ∧ test x = true) := by
  refine ⟨?_, fun i hi c k p hk => ?_⟩
  · rintro i j _ ⟨rfl, x, hx, _⟩
    have hlt := (List.getElem?_eq_some_iff.mp hx).1
    exact ⟨Nat.le_succ i, hlt⟩
  · rcases Nat.lt_or_ge i text.length with hlt | hge
    · -- there is a character at this place, and it passes or not
      have hx : text[i]? = some text[i] := List.getElem?_eq_getElem hlt
      have hle : (text.drop (i + 1)).length ≤ (text.drop i).length := length_drop_le (Nat.le_succ i)
      have hnext := hk (i + 1) hle (Nat.le_succ i) hlt c
      rw [char_of_cons (List.drop_eq_getElem_cons hlt) hle]
      by_cases ht : test text[i] = true
      · rw [if_pos ht, hnext]
        constructor
        · intro hp
          exact ⟨i + 1, ⟨rfl, text[i], hx, ht⟩, hp⟩
        · rintro ⟨j, ⟨rfl, _⟩, hp⟩
          exact hp
      · rw [if_neg ht]
        constructor
        · intro h
          exact absurd h (by simp)
        · rintro ⟨j, ⟨_, x, hxx, htx⟩, _⟩
          rw [hx, Option.some.injEq] at hxx
          exact absurd (hxx ▸ htx) ht
    · rw [char_of_nil (List.drop_eq_nil_iff.mpr hge)]
      constructor
      · intro h
        exact absurd h (by simp)
      · rintro ⟨j, ⟨_, x, hx, _⟩, _⟩
        exact absurd (List.getElem?_eq_some_iff.mp hx).1 (by omega)

/-- One step after another: the second one reads where a span of the first one stops.  The continuation of the first
step is the second step with the continuation of both. -/
theorem Reads.andThen {first second : Step} {S T : Span} (hS : Reads text first S)
    (hT : Reads text second T) : Reads text (Step.andThen first second) (S.andThen T) := by
  refine ⟨?_, fun i hi c k p hk => ?_⟩
  · rintro i j hi ⟨m, him, hmj⟩
    have h1 := hS.within hi him
    have h2 := hT.within h1.2 hmj
    exact ⟨Nat.le_trans h1.1 h2.1, h2.2⟩
  · -- what follows the first step is the second step and all that follows it
    have hrest : ∀ m (h : (text.drop m).length ≤ (text.drop i).length), i ≤ m → m ≤ text.length →
        ∀ c' : Captures, (second (text.drop m) c' fun r c => k ⟨r.1, Nat.le_trans r.2 h⟩ c).isSome
          = true ↔ ∃ j, T m j ∧ p j := by
      intro m h him hm c'
      exact hT.readsAt m hm c' _ p fun j hj hmj hjl c'' =>
        hk j (Nat.le_trans hj h) (Nat.le_trans him hmj) hjl c''
    show (first (text.drop i) c fun r c => second r.1 c fun r' c => k ⟨r'.1, _⟩ c).isSome = true ↔ _
    rw [hS.readsAt i hi c _ (fun m => ∃ j, T m j ∧ p j) hrest]
    constructor
    · rintro ⟨m, him, j, hmj, hp⟩
      exact ⟨j, ⟨m, him, hmj⟩, hp⟩
    · rintro ⟨j, ⟨m, him, hmj⟩, hp⟩
      exact ⟨m, him, j, hmj, hp⟩

/-- Of two answers, the second one counts only where the first one is none; but whether there is an answer at all does
not depend on the order. -/
theorem isSome_firstOf (a b : Option Captures) :
    (match a with | some found => some found | none => b).isSome = true ↔
      a.isSome = true ∨ b.isSome = true := by
  cases a <;> simp

/-- Either step: the spans of both.  Backtracking into the second step happens for any continuation, which is why
`ReadsAt` is asked of all continuations. -/
theorem Reads.orElse {first second : Step} {S T : Span} (hS : Reads text first S)
    (hT : Reads text second T) :
    Reads text (Step.orElse first second) (fun i j => S i j ∨ T i j) := by
  refine ⟨?_, fun i hi c k p hk => ?_⟩
  · rintro i j hi (h | h)
    · exact hS.within hi h
    · exact hT.within hi h
  · show (match first (text.drop i) c k with
      | some found => some found
      | none => second (text.drop i) c k).isSome = true ↔ _
    rw [isSome_firstOf, hS.readsAt i hi c k p hk, hT.readsAt i hi c k p hk]
    constructor
    · rintro (⟨j, h, hp⟩ | ⟨j, h, hp⟩)
      · exact ⟨j, Or.inl h, hp⟩
      · exact ⟨j, Or.inr h, hp⟩
    · rintro ⟨j, h | h, hp⟩
      · exact Or.inl ⟨j, h, hp⟩
      · exact Or.inr ⟨j, h, hp⟩

/-- A capture is seen by nobody who asks only whether there is an answer: it changes the captures that are handed on,
and `ReadsAt` is asked for all of them. -/
theorem Reads.capture {body : Step} {S : Span} (h : Reads text body S) (index : Nat) :
    Reads text (Step.capture index body) S :=
  ⟨h.within, fun i hi c _ p hk => h.readsAt i hi c _ p fun j hj hij hjl _ => hk j hj hij hjl _⟩

/-- Looking ahead reads nothing, and goes on where no span of its body starts.  The body is asked with the
continuation that accepts at once. -/
theorem Reads.notBefore {body : Step} {S : Span} (h : Reads text body S) :
    Reads text (Step.notBefore body) (fun i j => i = j ∧ ∀ k, ¬ S i k) := by
  refine ⟨fun i j hi hij => ⟨Nat.le_of_eq hij.1, hij.1 ▸ hi⟩, fun i hi c k _ hk => ?_⟩
  -- the body is asked with nothing to follow, so it succeeds wherever it may stop
  have hbody : (body (text.drop i) c fun _ c => some c).isSome = true ↔ ∃ j, S i j ∧ True :=
    h.readsAt i hi c _ (fun _ => True) fun _ _ _ _ _ => ⟨fun _ => trivial, fun _ => rfl⟩
  have hhere := hk i (Nat.le_refl _) (Nat.le_refl i) hi c
  show (match body (text.drop i) c fun _ c => some c with
    | some _ => none
    | none => k ⟨text.drop i, Nat.le_refl _⟩ c).isSome = true ↔ _
  cases hb : body (text.drop i) c fun _ c => some c with
  | some found =>
    rw [hb] at hbody
    obtain ⟨m, hm, _⟩ := hbody.mp rfl
    constructor
    · intro hn
      exact absurd hn (by simp)
    · rintro ⟨j, ⟨_, hnone⟩, _⟩
      exact absurd hm (hnone m)
  | none =>
    rw [hb] at hbody
    have hnone : ∀ m, ¬ S i m := fun m hm => absurd (hbody.mpr ⟨m, hm, trivial⟩) (by simp)
    show (k ⟨text.drop i, Nat.le_refl _⟩ c).isSome = true ↔ _
    rw [hhere]
    constructor
    · intro hp
      exact ⟨i, ⟨rfl, hnone⟩, hp⟩
    · rintro ⟨j, ⟨rfl, _⟩, hp⟩
      exact hp

/-- Reading any text where nothing is left is going on. -/
theorem anything_of_nil {s : List Char} (hs : s = []) (c : Captures)
    (k : Rest s → Captures → Option Captures) :
    (anything s c k).isSome = true ↔ (k ⟨s, Nat.le_refl _⟩ c).isSome = true := by
  subst hs
  rw [anything]
  cases k ⟨[], Nat.le_refl _⟩ c <;> simp

/-- Reading any text, where there is a first character, is to go on here or to read any text behind that character.
Which of the two is tried first is not seen, since only the presence of an answer is asked for. -/
theorem anything_of_cons {x : Char} {xs s : List Char} (hs : s = x :: xs)
    (hle : xs.length ≤ s.length) (c : Captures) (k : Rest s → Captures → Option Captures) :
    (anything s c k).isSome = true ↔ (k ⟨s, Nat.le_refl _⟩ c).isSome = true ∨
      (anything xs c fun r c => k ⟨r.1, Nat.le_trans r.2 hle⟩ c).isSome = true := by
  subst hs
  rw [anything]
  exact isSome_firstOf _ _

/-- Reading as little as will do still may read any amount.  By induction on what is left of the text, with the two
equations above for its cases. -/
theorem reads_anything : Reads text anything (fun i j => i ≤ j ∧ j ≤ text.length) := by
  refine ⟨fun i j _ h => h, fun i hi => ?_⟩
  -- induction on what is left of the text: one more character is read only after stopping has failed
  induction hn : text.length - i generalizing i with
  | zero =>
    intro c k p hk
    rw [anything_of_nil (List.drop_eq_nil_iff.mpr (by omega)), hk i (Nat.le_refl _) (Nat.le_refl i) hi c]
    constructor
    · intro hp
      exact ⟨i, ⟨Nat.le_refl i, hi⟩, hp⟩
    · rintro ⟨j, ⟨hij, hj⟩, hp⟩
      have hji : j = i := by omega
      exact hji ▸ hp
  | succ n ih =>
    intro c k p hk
    have hlt : i < text.length := by omega
    have hle : (text.drop (i + 1)).length ≤ (text.drop i).length := length_drop_le (Nat.le_succ i)
    have hnext := ih (i + 1) hlt (by omega) c
      (fun r c => k ⟨r.1, Nat.le_trans r.2 hle⟩ c) p
      fun j hj hij hjl c' => hk j (Nat.le_trans hj hle) (Nat.le_of_succ_le hij) hjl c'
    rw [anything_of_cons (List.drop_eq_getElem_cons hlt) hle,
      hk i (Nat.le_refl _) (Nat.le_refl i) hi c, hnext]
    constructor
    · rintro (hp | ⟨j, ⟨hij, hj⟩, hp⟩)
      · exact ⟨i, ⟨Nat.le_refl i, hi⟩, hp⟩
      · exact ⟨j, ⟨Nat.le_of_succ_le hij, hj⟩, hp⟩
    · rintro ⟨j, ⟨hij, hj⟩, hp⟩
      rcases Nat.lt_or_eq_of_le hij with h | h
      · exact Or.inr ⟨j, ⟨h, hj⟩, hp⟩
      · exact Or.inl (h ▸ hp)

/-! ## Literal text -/

/-- The span of a literal text. -/
def literal (text lit : List Char) : Span :=
  fun i j => i ≤ j ∧ j ≤ text.length ∧ slice text i j = lit

/-- The empty text is read by standing still. -/
theorem literal_nil {i j : Nat} (hi : i ≤ text.length) : literal text [] i j ↔ i = j := by
  constructor
  · rintro ⟨hij, hj, hs⟩
    have hl := length_slice (i := i) hj
    rw [hs, List.length_nil] at hl
    omega
  · rintro rfl
    refine ⟨Nat.le_refl i, hi, ?_⟩
    exact List.length_eq_zero_iff.mp (by rw [length_slice hi, Nat.sub_self])

/-- A literal text is read one character at a time: the first character is at the first place and the others follow
it. -/
theorem literal_cons {x : Char} {lit : List Char} {i j : Nat} :
    literal text (x :: lit) i j ↔ text[i]? = some x ∧ literal text lit (i + 1) j := by
  constructor
  · rintro ⟨hij, hj, hs⟩
    have hl := length_slice (i := i) hj
    rw [hs, List.length_cons] at hl
    have hi : i < text.length := by omega
    rw [slice_eq_cons (by omega) hi, List.cons.injEq] at hs
    exact ⟨List.getElem?_eq_some_iff.mpr ⟨hi, hs.1⟩, by omega, hj, hs.2⟩
  · rintro ⟨hx, hij, hj, hs⟩
    obtain ⟨hi, hxi⟩ := List.getElem?_eq_some_iff.mp hx
    refine ⟨by omega, hj, ?_⟩
    rw [slice_eq_cons (by omega) hi, hxi, hs]

/-- A text is read as itself, by induction on it: a character (`reads_char`), and then the others (`Reads.andThen`). -/
theorem reads_text (lit : List Char) :
    Reads text (Step.text (lit.map fun c x => x == c)) (literal text lit) := by
  induction lit with
  | nil => exact reads_done.congr fun i j hi => (literal_nil hi).symm
  | cons x lit ih =>
    refine ((reads_char (· == x)).andThen ih).congr fun i j _ => ?_
    rw [literal_cons]
    constructor
    · rintro ⟨_, ⟨rfl, y, hy, hyx⟩, hrest⟩
      exact ⟨beq_iff_eq.mp hyx ▸ hy, hrest⟩
    · rintro ⟨hx, hrest⟩
      exact ⟨i + 1, ⟨rfl, x, hx, beq_self_eq_true x⟩, hrest⟩

/-- A line end is read as both its characters or as either one.  The order in which the step tries them is not seen in
the span. -/
theorem reads_newline : Reads text Step.newline (fun i j =>
    literal text ['\r', '\n'] i j ∨ literal text ['\r'] i j ∨ literal text ['\n'] i j) := by
  have hone : ∀ x : Char, Reads text (char (· == x)) (literal text [x]) := by
    intro x
    refine (reads_char (· == x)).congr fun i j hi => ?_
    rw [literal_cons]
    constructor
    · rintro ⟨rfl, y, hy, hyx⟩
      have hlt := (List.getElem?_eq_some_iff.mp hy).1
      exact ⟨beq_iff_eq.mp hyx ▸ hy, (literal_nil hlt).mpr rfl⟩
    · rintro ⟨hx, hrest⟩
      have hlt := (List.getElem?_eq_some_iff.mp hx).1
      exact ⟨((literal_nil hlt).mp hrest).symm, x, hx, beq_self_eq_true x⟩
  exact (reads_text ['\r', '\n']).orElse ((hone '\r').orElse (hone '\n'))

end Step

end StoryValues
