import StoryValues.Text.Case

/-
  STEPS read text from the front.  A step is given the text, what has been captured so far, and what
  is to follow; it hands on the rest of the text and the captures, one way after another, until what
  follows succeeds.  So the order in which a step tries its ways decides which of them is taken.

  1. **Every step shortens or keeps the text** (`Rest`), which is why repetition ends: a repeated
     step that reads nothing is not tried again.
  2. **Captures.**  A step that fails leaves no captures behind; a capture inside a repetition holds
     what its last turn read.
-/

namespace StoryValues

/-- What was captured, by number, the latest first. -/
abbrev Captures := List (Nat × List Char)

/-- What may remain of a text. -/
abbrev Rest (s : List Char) := { r : List Char // r.length ≤ s.length }

/-- A way to read text: the text, the captures, and what follows. -/
abbrev Step := (s : List Char) → Captures → (Rest s → Captures → Option Captures) → Option Captures

namespace Step

/-- Reads nothing. -/
def done : Step := fun s c k => k ⟨s, Nat.le_refl _⟩ c

/-- Reads no text at all, not even the empty one. -/
def never : Step := fun _ _ _ => none

/-- Reads one character of a class. -/
def char (test : Char → Bool) : Step := fun s c k =>
  match s with
  | [] => none
  | x :: xs => if test x then k ⟨xs, by simp⟩ c else none

/-- One step, then another. -/
def andThen (first second : Step) : Step := fun s c k =>
  first s c fun r c => second r.1 c fun r' c => k ⟨r'.1, Nat.le_trans r'.2 r.2⟩ c

/-- One step or, where that leads nowhere, another. -/
def orElse (first second : Step) : Step := fun s c k =>
  match first s c k with
  | some found => some found
  | none => second s c k

/-- Reads the characters of a text, each one by its class. -/
def text (tests : List (Char → Bool)) : Step :=
  tests.foldr (fun test rest => andThen (char test) rest) done

/-- Reads one line end: a carriage return with its line feed, or either alone. -/
def newline : Step :=
  orElse (text [(· == '\r'), (· == '\n')]) (orElse (char (· == '\r')) (char (· == '\n')))

/-- Reads as little as will do, one character more each time. -/
def anything : Step := fun s c k =>
  match k ⟨s, Nat.le_refl _⟩ c with
  | some found => some found
  | none => match s with
    | [] => none
    | _ :: xs => anything xs c fun r c => k ⟨r.1, Nat.le_succ_of_le r.2⟩ c

/-- Whether another turn is allowed after `count` of them. -/
def allows (max : Option Nat) (count : Nat) : Bool := max.all (count < ·)

/-- Repeats a step, as often as it can within the bounds, after `count` turns.  `last` is the length
of the text at the latest free turn: a turn that starts where the latest one did is not taken. -/
def turns (body : Step) (min : Nat) (max : Option Nat) (count : Nat) (last : Option Nat) : Step :=
  fun s c k =>
    if count < min then
      body s c fun r c =>
        turns body min max (count + 1) last r.1 c fun r' c => k ⟨r'.1, Nat.le_trans r'.2 r.2⟩ c
    else if allows max count && last != some s.length then
      match body s c fun r c =>
        turns body min max (count + 1) (some s.length) r.1 c
          fun r' c => k ⟨r'.1, Nat.le_trans r'.2 r.2⟩ c with
      | some found => some found
      | none => k ⟨s, Nat.le_refl _⟩ c
    else k ⟨s, Nat.le_refl _⟩ c
termination_by s => (min - count, s.length, if last = some s.length then 0 else 1)
decreasing_by
  · exact Prod.Lex.left _ _ (by omega)
  · rename_i h _ r _
    have := r.2
    have hmin : min - (count + 1) = min - count := by omega
    rw [hmin]
    apply Prod.Lex.right
    by_cases heq : r.1.length = s.length
    · have hlast : last ≠ some s.length := by simp_all
      exact Prod.lex_def.2 (Or.inr ⟨heq, by simp [heq, hlast]⟩)
    · exact Prod.Lex.left _ _ (by omega)

/-- Repeats a step between two counts, or without an upper one. -/
def repeated (body : Step) (min : Nat) (max : Option Nat) : Step := turns body min max 0 none

/-- Any number of turns. -/
def star (body : Step) : Step := repeated body 0 none

/-- A step, or nothing. -/
def optional (body : Step) : Step := repeated body 0 (some 1)

/-- Captures what a step reads. -/
def capture (index : Nat) (body : Step) : Step := fun s c k =>
  body s c fun r c => k r ((index, s.take (s.length - r.1.length)) :: c)

/-- Reads nothing, where a step could not go on from here. -/
def notBefore (body : Step) : Step := fun s c k =>
  match body s c fun _ c => some c with
  | some _ => none
  | none => k ⟨s, Nat.le_refl _⟩ c

/-- Reads a whole text, and gives the captures. -/
def whole (step : Step) (s : List Char) : Option Captures :=
  step s [] fun r c => if r.1 = [] then some c else none

end Step

end StoryValues
