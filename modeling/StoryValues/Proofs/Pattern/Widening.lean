import StoryValues.Pattern.Destructure
import StoryValues.Proofs.Datatype.Asking
import StoryValues.Proofs.Pattern.Recognition
import StoryValues.Proofs.Text.Case

/-
  LEAVING LETTER CASE OUT OF ACCOUNT ONLY WIDENS A PATTERN, and both ways to do it agree.

  A pattern can be remade, or it can be put into another one; either way its step is taken folded, with all
  that is in it.  Folding enlarges classes and literal letters.  Everything else is put together from these,
  and whatever puts steps together keeps what they read, but for one that only looks ahead: it reads where
  the others do not.

  1. **Widened** (`Step.WidenedBy`): wherever a step may stop, another one may stop too.  Each combinator
     keeps this; repetition does by induction on its turns, since its rule against empty turns looks at
     positions only.
  2. **Folding widens the step of every datatype that never looks ahead** (`Datatype.widened`), by induction
     on the datatype, for whatever is folded in it already.
  3. **The two ways** lead to one step (`Datatype.step_folded`, `Datatype.step_insensitive`).
-/

namespace StoryValues

namespace Step

variable {text : List Char} {first second first' second' body wide : Step}

/-! ## Widened steps -/

/-- In a text, wherever the first step may stop the second one may stop too. -/
def WidenedBy (text : List Char) (first second : Step) : Prop :=
  ∃ S T, Reads text first S ∧ Reads text second T ∧ ∀ i j, i ≤ text.length → S i j → T i j

/-- A step with a span is widened by itself.  The span has to be given, since being widened says that both steps have
one. -/
theorem WidenedBy.refl {S : Span} (h : Reads text first S) : WidenedBy text first first :=
  ⟨S, S, h, h, fun _ _ _ hS => hS⟩

/-- A test of one character is widened by one that takes all that it takes. -/
theorem widenedBy_char {test wide : Char → Bool} (h : ∀ x, test x = true → wide x = true) :
    WidenedBy text (char test) (char wide) := by
  refine ⟨_, _, reads_char test, reads_char wide, ?_⟩
  rintro i j _ ⟨hj, x, hx, htest⟩
  exact ⟨hj, x, hx, h x htest⟩

/-- One step after another.  The second step is asked where the first one stopped, which is inside the text. -/
theorem WidenedBy.andThen (h : WidenedBy text first second) (h' : WidenedBy text first' second') :
    WidenedBy text (Step.andThen first first') (Step.andThen second second') := by
  obtain ⟨S, T, hS, hT, hST⟩ := h
  obtain ⟨S', T', hS', hT', hST'⟩ := h'
  refine ⟨_, _, hS.andThen hS', hT.andThen hT', ?_⟩
  rintro i j hi ⟨k, hik, hkj⟩
  exact ⟨k, hST i k hi hik, hST' k j (hS.within hi hik).2 hkj⟩

/-- Two steps to choose from, each with its own wider step. -/
theorem WidenedBy.orElse (h : WidenedBy text first second) (h' : WidenedBy text first' second') :
    WidenedBy text (Step.orElse first first') (Step.orElse second second') := by
  obtain ⟨S, T, hS, hT, hST⟩ := h
  obtain ⟨S', T', hS', hT', hST'⟩ := h'
  exact ⟨_, _, hS.orElse hS', hT.orElse hT', fun i j hi => Or.imp (hST i j hi) (hST' i j hi)⟩

/-- A capture around a step that is widened. -/
theorem WidenedBy.capture (h : WidenedBy text body wide) (index : Nat) :
    WidenedBy text (Step.capture index body) (Step.capture index wide) := by
  obtain ⟨S, T, hS, hT, hST⟩ := h
  exact ⟨S, T, hS.capture index, hT.capture index, hST⟩

/-- Turns taken with one span can be taken with a wider one.  By induction on the turns; the rule against empty turns
looks at places only, and these are the same. -/
theorem Turning.imp {S T : Span} (hS : Within text S) (hST : ∀ i j, i ≤ text.length → S i j → T i j)
    {min : Nat} {max : Option Nat} {count : Nat} {last : Option Nat} {i j : Nat} (hi : i ≤ text.length)
    (h : Turning text S min max count last i j) : Turning text T min max count last i j := by
  induction h with
  | stop hc => exact .stop hc
  | owed hc hik _ ih => exact .owed hc (hST _ _ hi hik) (ih (hS hi hik).2)
  | free hc ha hl hik _ ih => exact .free hc ha hl (hST _ _ hi hik) (ih (hS hi hik).2)

/-- Repetition of a step that is widened, with the same bounds. -/
theorem WidenedBy.repeated (h : WidenedBy text body wide) (min : Nat) (max : Option Nat) :
    WidenedBy text (Step.repeated body min max) (Step.repeated wide min max) := by
  obtain ⟨S, T, hS, hT, hST⟩ := h
  exact ⟨_, _, reads_turns hS 0 none, reads_turns hT 0 none, fun i j hi => Turning.imp hS.within hST hi⟩

/-- Spreading keeps what is widened. -/
theorem WidenedBy.spread (h : WidenedBy text body wide) (more : Bool) :
    WidenedBy text (if more = true then body.star else body) (if more = true then wide.star else wide) := by
  cases more with
  | true => exact h.repeated 0 none
  | false => exact h

/-- What the first step reads from end to end the second one does too. -/
theorem WidenedBy.whole (h : WidenedBy text first second) (hfirst : (first.whole text).isSome = true) :
    (second.whole text).isSome = true := by
  obtain ⟨S, T, hS, hT, hST⟩ := h
  exact hT.whole.mpr (hST 0 _ (Nat.zero_le _) (hS.whole.mp hfirst))

end Step

/-! ## Letters and classes -/

/-- A letter stands for itself, whether letter case matters or not: it is one of its own variants. -/
theorem letterTest_folded {fold : Bool} {c x : Char} (h : letterTest fold c x = true) :
    letterTest true c x = true := by
  cases fold with
  | true => exact h
  | false =>
    rw [beq_iff_eq.mp (show (x == c) = true from h)]
    exact List.contains_iff_mem.mpr (Case.mem_variants c)

/-- A class folded holds what it holds as it is; no class comes or goes. -/
theorem classOf?_folded (fold : Bool) (name : String) :
    (classOf? fold name = none ∧ classOf? true name = none) ∨
    ∃ test wide, classOf? fold name = some test ∧ classOf? true name = some wide ∧
      ∀ x, test x = true → wide x = true := by
  unfold classOf?
  split
  -- only the classes of upper and lower letters change
  case h_4 =>
    refine Or.inr ⟨_, _, rfl, rfl, fun x hx => ?_⟩
    cases fold with
    | true => exact hx
    | false => exact Case.isCased_of_isUppercase hx
  case h_5 =>
    refine Or.inr ⟨_, _, rfl, rfl, fun x hx => ?_⟩
    cases fold with
    | true => exact hx
    | false => exact Case.isCased_of_isLowercase hx
  case h_7 => exact Or.inl ⟨rfl, rfl⟩
  all_goals exact Or.inr ⟨_, _, rfl, rfl, fun _ hx => hx⟩

/-! ## Folding -/

mutual

/-- A datatype in which nothing looks ahead, at any depth. -/
def Datatype.NeverAhead : Datatype → Prop
  | .named .. => True
  | .pattern shape parts _ _ => shape ≠ .notBefore ∧ Fragment.AllNeverAhead parts

/-- The same for a fragment. -/
def Fragment.NeverAhead : Fragment → Prop
  | .text _ => True
  | .type d => d.NeverAhead
  | .typed d _ _ => d.NeverAhead

/-- The same for several fragments. -/
def Fragment.AllNeverAhead : List Fragment → Prop
  | [] => True
  | f :: fs => f.NeverAhead ∧ Fragment.AllNeverAhead fs

end

section Widening

variable {text : List Char}

open Step (WidenedBy)

/-- A literal text is widened letter by letter, by recursion on it. -/
theorem widened_letters (fold : Bool) : ∀ cs : List Char,
    WidenedBy text (Step.text (cs.map (letterTest fold))) (Step.text (cs.map (letterTest true)))
  | [] => .refl Step.reads_done
  | _ :: cs => (Step.widenedBy_char fun _ => letterTest_folded).andThen (widened_letters fold cs)

/-- A name is widened by what it is folded: any text and line ends stay as they are, a class may grow, and what says
nothing about text still says nothing. -/
theorem widened_named (name : String) (spread fold more : Bool) (base : Nat) :
    WidenedBy text ((Datatype.named name spread).step fold more base)
      ((Datatype.named name spread).step true more base) := by
  unfold Datatype.step pieceOf?
  by_cases hstring : name = "string"
  · rw [if_pos hstring, if_pos hstring]
    exact .refl Step.reads_anything
  · rw [if_neg hstring, if_neg hstring]
    by_cases hnewline : name = "newline"
    · rw [if_pos hnewline, if_pos hnewline]
      exact (WidenedBy.refl Step.reads_newline).spread _
    · rw [if_neg hnewline, if_neg hnewline]
      rcases classOf?_folded fold name with ⟨hnone, hnone'⟩ | ⟨test, wide, htest, hwide, himp⟩
      · rw [hnone, hnone']
        exact .refl Step.reads_never
      · rw [htest, hwide]
        exact (Step.widenedBy_char himp).spread _

mutual

/-- **Folding widens the step of a datatype in which nothing looks ahead.**  By recursion on the datatype along with
its fragments, for any folding that is in force already.  A step that looks ahead would turn the inclusion round,
which is why there is no case for it. -/
theorem Datatype.widened : (d : Datatype) → d.NeverAhead → ∀ fold more base,
    WidenedBy text (d.step fold more base) (d.step true more base)
  | .named name spread, _, fold, more, base => widened_named name spread fold more base
  | .pattern shape parts folded spread, h, fold, more, base => by
    obtain ⟨hahead, hparts⟩ := h
    have hinside := Fragment.widened_steps parts hparts (fold || folded) base
    unfold Datatype.step
    rw [Bool.true_or]
    refine WidenedBy.spread ?_ _
    cases shape with
    | sequence => exact hinside
    | insensitive => exact hinside
    | either => exact Fragment.widened_choices parts hparts (fold || folded) base
    | optional => exact hinside.repeated 0 (some 1)
    | repeated b => exact hinside.repeated b.least b.most
    | notBefore => exact absurd rfl hahead

/-- Folding widens the step of a fragment: its letters, its datatype, or the capture around that. -/
theorem Fragment.widened : (f : Fragment) → f.NeverAhead → ∀ fold base,
    WidenedBy text (f.step fold base) (f.step true base)
  | .text s, _, fold, base => by
    rw [Fragment.step, Fragment.step]
    exact widened_letters fold s.toList
  | .type d, h, fold, base => by
    rw [Fragment.step, Fragment.step]
    exact Datatype.widened d h fold false base
  | .typed d name rest, h, fold, base => by
    rw [Fragment.step, Fragment.step]
    exact (Datatype.widened d h fold rest (base + 1)).capture base

/-- Folding widens the steps of fragments one after another. -/
theorem Fragment.widened_steps : (fs : List Fragment) → Fragment.AllNeverAhead fs → ∀ fold base,
    WidenedBy text (Fragment.steps fold base fs) (Fragment.steps true base fs)
  | [], _, fold, base => by
    rw [Fragment.steps, Fragment.steps]
    exact .refl Step.reads_done
  | f :: fs, h, fold, base => by
    rw [Fragment.steps, Fragment.steps]
    exact (Fragment.widened f h.1 fold base).andThen (Fragment.widened_steps fs h.2 fold _)

/-- And of fragments to choose from.  A last fragment stands alone there, so the recursion has a case for one
fragment. -/
theorem Fragment.widened_choices : (fs : List Fragment) → Fragment.AllNeverAhead fs → ∀ fold base,
    WidenedBy text (Fragment.choices fold base fs) (Fragment.choices true base fs)
  | [], _, fold, base => by
    rw [Fragment.choices, Fragment.choices]
    exact .refl Step.reads_done
  | [f], h, fold, base => by
    rw [Fragment.choices, Fragment.choices]
    exact Fragment.widened f h.1 fold base
  | f :: g :: fs, h, fold, base =>
    (Fragment.widened f h.1 fold base).orElse (Fragment.widened_choices (g :: fs) h.2 fold _)

end

end Widening

/-! ## The two ways -/

namespace Datatype

variable {d : Datatype}

/-- A remade pattern takes its own step, folded: remaking sets the mark of the pattern and leaves its fragments alone.
-/
theorem step_insensitive (h : d.isPattern = true) (more : Bool) (base : Nat) :
    d.insensitive.step false more base = d.step true more base := by
  cases d with
  | named name spread => exact absurd h (by simp [isPattern])
  | pattern shape parts folded spread => rfl

/-- So does the pattern around it that leaves letter case out of account, and this by definition. -/
theorem step_folded (d : Datatype) (base : Nat) : d.folded.step false false base = d.step true false base := rfl

/-- Remaking a pattern without letter cases changes none of its bounds. -/
theorem overflows_insensitive (d : Datatype) : d.insensitive.overflows = d.overflows := by
  cases d <;> rfl

/-- Putting a pattern into one without letter cases changes none of its bounds.  So whatever stops the pattern itself
stops both. -/
theorem overflows_folded (d : Datatype) : d.folded.overflows = d.overflows := by
  simp [folded, overflows, Fragment.overflowsIn, Fragment.overflows]

/-- A remade pattern is a pattern, and a datatype of another kind stays one. -/
theorem isPattern_insensitive (d : Datatype) : d.insensitive.isPattern = d.isPattern := by
  cases d <;> rfl

/-- A remade pattern looks ahead iff the pattern did. -/
theorem isLookAhead_insensitive (d : Datatype) : d.insensitive.isLookAhead = d.isLookAhead := by
  cases d with
  | named name spread => rfl
  | pattern shape parts folded spread => cases shape <;> rfl

/-- A datatype in which nothing looks ahead does not do so itself. -/
theorem NeverAhead.isLookAhead (h : d.NeverAhead) : d.isLookAhead = false := by
  cases d with
  | named name spread => rfl
  | pattern shape parts folded spread =>
    cases shape with
    | notBefore => exact absurd rfl h.1
    | _ => rfl

/-- **What a pattern accepts it accepts remade,** if nothing in it looks ahead.  The limits of the pattern are met or
not for both; where they are met, both read by their steps, and the one widens the other. -/
theorem accepts_insensitive {settings : Settings} {s : String} (hpattern : d.isPattern = true)
    (hahead : d.NeverAhead) (h : d.accepts (.string s) settings = .ok true) :
    d.insensitive.accepts (.string s) settings = .ok true := by
  have hlook := hahead.isLookAhead
  rw [Pattern.accepts_string hpattern hlook] at h
  rw [Pattern.accepts_string (by rw [isPattern_insensitive, hpattern])
    (by rw [isLookAhead_insensitive, hlook])]
  cases hover : d.overflows with
  | true =>
    rw [Pattern.readsAll_of_overflows hover] at h
    exact nomatch h
  | false =>
    rw [Pattern.readsAll_of_countable hover] at h
    rw [Pattern.readsAll_of_countable (by rw [overflows_insensitive, hover]), step_insensitive hpattern]
    have hread : ((d.step false false 0).whole s.toList).isSome = true := Except.ok.inj h
    exact congrArg Except.ok ((d.widened hahead false false 0).whole hread)

/-- **Remade, a pattern accepts what it accepts inside another one** that leaves letter case out of account: on
strings both take one step and have the same limits, and other values neither of them accepts. -/
theorem accepts_folded (hpattern : d.isPattern = true) (hlook : d.isLookAhead = false) :
    d.folded.accepts = d.insensitive.accepts := by
  cases d with
  | named name spread => exact absurd hpattern (by simp [isPattern])
  | pattern shape parts folded spread =>
    have hshape : shape ≠ .notBefore := by
      rintro rfl
      exact Bool.false_ne_true hlook.symm
    have hreads : ∀ s, (pattern shape parts folded spread).folded.readsAll s =
        (pattern shape parts folded spread).insensitive.readsAll s := by
      intro s
      rw [readsAll, readsAll, fullMatch?, fullMatch?, overflows_folded, overflows_insensitive, step_folded,
        step_insensitive rfl]
    funext v
    rw [Datatype.folded, insensitive, accepts_pattern (by decide), accepts_pattern hshape]
    cases v with
    | string s => exact congrArg Check.lift (hreads s)
    | _ => rfl

end Datatype

namespace Pattern

/-- **Leaving letter case out of account only widens a pattern, and both ways to do it agree.**  A pattern in
which nothing looks ahead accepts every string remade that it accepts as it is.  Any pattern that can be asked
on its own may be put into one that leaves letter case out of account, and this one accepts the same values as
the pattern remade. -/
theorem insensitive_widens {d : Datatype} (hpattern : d.isPattern = true) (settings : Settings) :
    (d.NeverAhead → ∀ s : String, d.accepts (.string s) settings = .ok true →
      d.insensitive.accepts (.string s) settings = .ok true) ∧
    (d.isLookAhead = false → ∃ e, make .insensitive [.datatype d] settings = .ok e ∧
      ∀ v, e.accepts v settings = d.insensitive.accepts v settings) := by
  refine ⟨fun hahead s h => Datatype.accepts_insensitive hpattern hahead h, fun hlook => ?_⟩
  refine ⟨d.folded, ?_, fun v => by rw [Datatype.accepts_folded hpattern hlook]⟩
  cases d with
  | named name spread => exact absurd hpattern (by simp [Datatype.isPattern])
  | pattern shape parts folded spread => rfl

/-- A letter s and a full stop, a capital letter or an ö for a variable, and a letter e of which the case is left
out of account already. -/
def signed : Datatype :=
  .pattern .sequence
    [.text "s.",
      .typed (.pattern .either [.type (.named "uppercase" false), .text "ö"] false false) "letter" false,
      .type (.pattern .insensitive [.text "e"] true false)] false false

/-- As it is it reads a capital E in the last place only; in both other ways it reads all letters in either
case. -/
theorem insensitive_widens_signed :
    let settings : Settings := Settings.usual
    signed.accepts (.string "s.AE") settings = .ok true ∧
      signed.insensitive.accepts (.string "s.AE") settings = .ok true ∧
      signed.accepts (.string "S.ÖE") settings = .ok false ∧
      ∃ e, make .insensitive [.datatype signed] settings = .ok e ∧
        e.accepts (.string "S.ÖE") settings = .ok true := by
  intro settings
  have haccepts : signed.accepts (.string "s.AE") settings = .ok true := by decide +kernel
  obtain ⟨hwiden, hways⟩ := insensitive_widens (d := signed) rfl settings
  obtain ⟨e, hmake, he⟩ := hways rfl
  refine ⟨haccepts, hwiden ?_ _ haccepts, by decide +kernel, e, hmake, ?_⟩
  · exact ⟨by decide, trivial, ⟨by decide, trivial, trivial, trivial⟩, ⟨by decide, trivial, trivial⟩, trivial⟩
  · rw [he]
    decide +kernel

end Pattern

end StoryValues
