import StoryValues.Proofs.Pattern.Reads

/-
  REPETITION reads a number of turns between its bounds, no more and no less.

  The step that repeats (`Step.turns`) counts its turns, takes the ones it must, and then as many as
  it can; a turn that starts where the latest free one did is not taken.  The rule is there to make
  the step end.  That it loses nothing is what has to be shown.

  1. **The turns as they are taken** — `Turning`: the step read as a relation, rule by rule.  It is the
     span of the step (`reads_turns`), by induction on the turns still owed and the text still left.
  2. **The turns as they are counted** — `Counted`: some number of spans, one after another, that
     brings the count between the bounds.  Every turning is counted (`counted_of_turning`).
  3. **Nothing is lost** (`turning_of_counted`).  Of the spans beyond the owed ones, those that read
     nothing can be left out: the count stays above the lower bound and does not rise above the upper
     one.  Those that are left shorten the text, so the rule never forbids them.
-/

namespace StoryValues

namespace Step

variable {text : List Char} {S : Span} {min : Nat} {max : Option Nat}

/-! ## The turns as they are taken -/

/-- How repetition goes on from a position, after `count` turns, with `last` for the length of the text
at the latest free turn. -/
inductive Turning (text : List Char) (S : Span) (min : Nat) (max : Option Nat) :
    Nat → Option Nat → Span
  | stop {count last i} : min ≤ count → Turning text S min max count last i i
  | owed {count last i k j} : count < min → S i k → Turning text S min max (count + 1) last k j →
      Turning text S min max count last i j
  | free {count last i k j} : min ≤ count → allows max count = true →
      last ≠ some (text.length - i) → S i k →
      Turning text S min max (count + 1) (some (text.length - i)) k j →
      Turning text S min max count last i j

/-- Turns stay in the text and go forward, since each of them does.  By induction on the turns taken. -/
theorem within_turning (hS : Within text S) {count : Nat} {last : Option Nat} :
    Within text (Turning text S min max count last) := by
  intro i j hi h
  induction h with
  | stop _ => exact ⟨Nat.le_refl _, hi⟩
  | owed _ hik _ ih =>
    have hk := hS hi hik
    have hj := ih hk.2
    exact ⟨Nat.le_trans hk.1 hj.1, hj.2⟩
  | free _ _ _ hik _ ih =>
    have hk := hS hi hik
    have hj := ih hk.2
    exact ⟨Nat.le_trans hk.1 hj.1, hj.2⟩

/-- A turn that is owed is taken whatever happened before: the body, and then the step again with one more counted.
Owed turns are not remembered as free ones. -/
theorem turns_owed {body : Step} {count : Nat} {last : Option Nat} (hc : count < min) (s : List Char)
    (c : Captures) (k : Rest s → Captures → Option Captures) :
    turns body min max count last s c k = body s c fun r c =>
      turns body min max (count + 1) last r.1 c fun r' c => k ⟨r'.1, Nat.le_trans r'.2 r.2⟩ c := by
  rw [turns, if_pos hc]

/-- A turn that may be taken and does not start where the latest free one did: the body and the step again, or else
what follows. -/
theorem turns_free {body : Step} {count : Nat} {last : Option Nat} (hc : min ≤ count)
    {s : List Char} {l : Nat} (hs : s.length = l) (ha : allows max count = true) (hl : last ≠ some l)
    (c : Captures) (k : Rest s → Captures → Option Captures) :
    (turns body min max count last s c k).isSome = true ↔
      (body s c fun r c => turns body min max (count + 1) (some l) r.1 c
        fun r' c => k ⟨r'.1, Nat.le_trans r'.2 r.2⟩ c).isSome = true ∨
      (k ⟨s, Nat.le_refl _⟩ c).isSome = true := by
  subst hs
  have hgo : (allows max count && last != some s.length) = true := by
    rw [ha, Bool.true_and]
    exact bne_iff_ne.mpr hl
  rw [turns, if_neg (Nat.not_lt.mpr hc), if_pos hgo]
  exact isSome_firstOf _ _

/-- Where no more turn is allowed, or where the latest free turn started, what follows is next. -/
theorem turns_done {body : Step} {count : Nat} {last : Option Nat} (hc : min ≤ count)
    {s : List Char} (h : allows max count = false ∨ last = some s.length) (c : Captures)
    (k : Rest s → Captures → Option Captures) :
    turns body min max count last s c k = k ⟨s, Nat.le_refl _⟩ c := by
  have hgo : ¬ (allows max count && last != some s.length) = true := by
    rcases h with h | h
    · simp [h]
    · simp [h]
  rw [turns, if_neg (Nat.not_lt.mpr hc), if_neg hgo]

/-- No more turns: the step stops here, and by the rules of `Turning` it stops nowhere else. -/
theorem readsAt_turns_done {body : Step} {count : Nat} {last : Option Nat} {i : Nat}
    (hi : i ≤ text.length) (hc : min ≤ count)
    (h : allows max count = false ∨ last = some (text.length - i)) :
    ReadsAt text (turns body min max count last) (Turning text S min max count last) i := by
  intro c k p hk
  rw [turns_done hc (List.length_drop ▸ h), hk i (Nat.le_refl _) (Nat.le_refl i) hi c]
  constructor
  · intro hp
    exact ⟨i, .stop hc, hp⟩
  · rintro ⟨j, hj, hp⟩
    cases hj with
    | stop _ => exact hp
    | owed hlt _ _ => omega
    | free _ ha hl _ _ =>
      -- a free turn would break the bound, or the rule against empty turns
      rcases h with h | h
      · rw [h] at ha
        exact absurd ha (by simp)
      · exact absurd h hl

/-- One more free turn, given what happens after it.  The hypothesis is the induction hypothesis of `reads_turns`, for
every place at which the turn may stop. -/
theorem readsAt_turns_free {body : Step} (hb : Reads text body S) {count : Nat} {last : Option Nat}
    {i : Nat} (hi : i ≤ text.length) (hc : min ≤ count) (ha : allows max count = true)
    (hl : last ≠ some (text.length - i))
    (ih : ∀ m, i ≤ m → m ≤ text.length →
      ReadsAt text (turns body min max (count + 1) (some (text.length - i)))
        (Turning text S min max (count + 1) (some (text.length - i))) m) :
    ReadsAt text (turns body min max count last) (Turning text S min max count last) i := by
  intro c k p hk
  rw [turns_free hc List.length_drop ha hl, hk i (Nat.le_refl _) (Nat.le_refl i) hi c,
    hb.readsAt i hi c _
      (fun m => ∃ j, Turning text S min max (count + 1) (some (text.length - i)) m j ∧ p j)
      fun m hm him hml c' => ih m him hml c' _ p fun j hj hmj hjl c'' =>
        hk j (Nat.le_trans hj hm) (Nat.le_trans him hmj) hjl c'']
  constructor
  · rintro (⟨m, him, j, hmj, hp⟩ | hp)
    · exact ⟨j, .free hc ha hl him hmj, hp⟩
    · exact ⟨i, .stop hc, hp⟩
  · rintro ⟨j, hj, hp⟩
    cases hj with
    | stop _ => exact Or.inr hp
    | owed hlt _ _ => omega
    | free _ _ _ him hmj => exact Or.inl ⟨_, him, j, hmj, hp⟩

/-- The free turns, by induction on the text that is left: a turn that reads nothing is the last. -/
theorem readsAt_turns_of_le {body : Step} (hb : Reads text body S) : ∀ (n : Nat) {count : Nat}
    {last : Option Nat} {i : Nat}, text.length - i = n → i ≤ text.length → min ≤ count →
    ReadsAt text (turns body min max count last) (Turning text S min max count last) i := by
  intro n
  induction n using Nat.strongRecOn with
  | ind n ih =>
    intro count last i hn hi hc
    by_cases hl : last = some (text.length - i)
    · exact readsAt_turns_done hi hc (Or.inr hl)
    · cases ha : allows max count with
      | false => exact readsAt_turns_done hi hc (Or.inl ha)
      | true =>
        refine readsAt_turns_free hb hi hc ha hl fun m him hm => ?_
        -- either the turn has read something, or the rule ends the repetition here
        rcases Nat.lt_or_eq_of_le him with h | h
        · exact ih (text.length - m) (by omega) rfl hm (Nat.le_succ_of_le hc)
        · exact readsAt_turns_done hm (Nat.le_succ_of_le hc) (Or.inr (by rw [h]))

/-- **The span of repetition**, by induction on the turns that are owed and, when none is, on the text that is left.
A free turn that reads nothing leaves the text as it is, but is remembered, and so cannot be taken twice. -/
theorem reads_turns {body : Step} (hb : Reads text body S) (count : Nat) (last : Option Nat) :
    Reads text (turns body min max count last) (Turning text S min max count last) := by
  refine ⟨within_turning hb.within, ?_⟩
  induction ho : min - count generalizing count with
  | zero =>
    -- nothing is owed any more: all further turns are free
    intro i hi
    exact readsAt_turns_of_le hb _ rfl hi (by omega)
  | succ n ih =>
    intro i hi c k p hk
    have hc : count < min := by omega
    rw [turns_owed hc, hb.readsAt i hi c _
      (fun m => ∃ j, Turning text S min max (count + 1) last m j ∧ p j)
      fun m hm him hml c' => ih (count + 1) (by omega) m hml c' _ p fun j hj hmj hjl c'' =>
        hk j (Nat.le_trans hj hm) (Nat.le_trans him hmj) hjl c'']
    constructor
    · rintro ⟨m, him, j, hmj, hp⟩
      exact ⟨j, .owed hc him hmj, hp⟩
    · rintro ⟨j, hj, hp⟩
      cases hj with
      | stop hle => omega
      | owed _ him hmj => exact ⟨_, him, j, hmj, hp⟩
      | free hle _ _ _ _ => omega

/-! ## The turns as they are counted -/

/-- Some number of spans that brings a count between the bounds. -/
def Counted (S : Span) (min : Nat) (max : Option Nat) (count : Nat) : Span :=
  fun i j => ∃ n, min ≤ count + n ∧ (∀ m, max = some m → count + n ≤ m) ∧ S.times n i j

/-- One more turn is allowed when the count with it is within the maximum, if there is one. -/
theorem allows_iff {count : Nat} : allows max count = true ↔ ∀ m, max = some m → count + 1 ≤ m := by
  cases max with
  | none => simp [allows]
  | some m =>
    simp only [allows, Option.all_some, decide_eq_true_eq, Option.some.injEq, forall_eq']
    omega

/-- Turns as they are taken are some number of spans, and bring the count between the bounds.  By induction on the
turns taken. -/
theorem counted_of_turning {count : Nat} {last : Option Nat} {i j : Nat}
    (hmax : ∀ m, max = some m → min ≤ m ∧ count ≤ m)
    (h : Turning text S min max count last i j) : Counted S min max count i j := by
  induction h with
  | stop hc => exact ⟨0, hc, fun m hm => (hmax m hm).2, rfl⟩
  | owed hc hik _ ih =>
    obtain ⟨n, hmin, hm, hn⟩ := ih fun m hm => ⟨(hmax m hm).1, by have := (hmax m hm).1; omega⟩
    exact ⟨n + 1, by omega, fun m h => by have := hm m h; omega, _, hik, hn⟩
  | free hc ha _ hik _ ih =>
    obtain ⟨n, hmin, hm, hn⟩ := ih fun m hm => ⟨(hmax m hm).1, allows_iff.mp ha m hm⟩
    exact ⟨n + 1, by omega, fun m h => by have := hm m h; omega, _, hik, hn⟩

/-- Counted spans can be taken as turns, those beyond the owed ones only if they read something.  By induction on the
number: a span beyond the owed ones that reads nothing is left out, which changes neither where the others start nor
that they are few enough. -/
theorem turning_of_times (hS : Within text S) : ∀ (n : Nat) {count : Nat} {last : Option Nat}
    {i j : Nat}, i ≤ text.length → min ≤ count + n → (∀ m, max = some m → count + n ≤ m) →
    (∀ l, last = some l → min ≤ count ∧ text.length - i < l) → S.times n i j →
    Turning text S min max count last i j := by
  intro n
  induction n with
  | zero =>
    rintro count last i j _ hmin _ _ rfl
    exact .stop hmin
  | succ n ih =>
    rintro count last i j hi hmin hmax hlast ⟨k, hik, hkj⟩
    have hk := hS hi hik
    rcases Nat.lt_or_ge count min with hc | hc
    · -- the turn is owed, and may be empty
      have hnone : ∀ l, last ≠ some l := fun l hl => by have := (hlast l hl).1; omega
      exact .owed hc hik (ih hk.2 (by omega) (fun m h => by have := hmax m h; omega)
        (fun l hl => absurd hl (hnone l)) hkj)
    · rcases Nat.lt_or_eq_of_le hk.1 with hlt | heq
      · -- the turn is free and reads something, so the text gets shorter
        have hne : last ≠ some (text.length - i) := fun hl => by
          have := (hlast _ hl).2
          omega
        refine .free hc (allows_iff.mpr fun m h => by have := hmax m h; omega) hne hik ?_
        refine ih hk.2 (by omega) (fun m h => by have := hmax m h; omega) (fun l hl => ?_) hkj
        rw [Option.some.injEq] at hl
        omega
      · -- the span reads nothing, so the others do without it
        subst heq
        exact ih hi (by omega) (fun m h => by have := hmax m h; omega) hlast hkj

/-- Any admitted number of spans can be taken as turns from the start, where nothing has been counted and nothing is
remembered. -/
theorem turning_of_counted (hS : Within text S) {i j : Nat} (hi : i ≤ text.length)
    (h : Counted S min max 0 i j) : Turning text S min max 0 none i j := by
  obtain ⟨n, hmin, hmax, hn⟩ := h
  exact turning_of_times hS n hi hmin hmax (fun l hl => absurd hl (by simp)) hn

/-! ## Repetition between bounds -/

/-- **Repetition reads any number of turns that its bounds admit.**  Turns as they are taken and turns as they are
counted lead to the same places, so the rule that makes the step end loses nothing. -/
theorem Reads.repeated {body : Step} (hb : Reads text body S) (hmax : ∀ m, max = some m → min ≤ m) :
    Reads text (Step.repeated body min max) (fun i j =>
      ∃ n, min ≤ n ∧ (∀ m, max = some m → n ≤ m) ∧ S.times n i j) := by
  refine (reads_turns hb 0 none).congr fun i j hi => ?_
  have hcount : Counted S min max 0 i j ↔
      ∃ n, min ≤ n ∧ (∀ m, max = some m → n ≤ m) ∧ S.times n i j := by
    simp only [Counted, Nat.zero_add]
  rw [← hcount]
  exact ⟨fun h => counted_of_turning (fun m hm => ⟨hmax m hm, Nat.zero_le m⟩) h,
    fun h => turning_of_counted hb.within hi h⟩

/-- Repetition without bounds reads a chain of spans. -/
theorem Reads.star {body : Step} (hb : Reads text body S) : Reads text (Step.star body) S.chain := by
  have hrep : Reads text (Step.repeated body 0 none) _ := hb.repeated (by simp)
  refine hrep.congr fun i j _ => ?_
  rw [Span.chain_iff_times]
  constructor
  · rintro ⟨n, _, _, hn⟩
    exact ⟨n, hn⟩
  · rintro ⟨n, hn⟩
    exact ⟨n, Nat.zero_le n, fun m h => absurd h (by simp), hn⟩

/-- An optional step stands still or reads what its body reads: repetition between none and one, with the number of
turns spelled out. -/
theorem Reads.optional {body : Step} (hb : Reads text body S) :
    Reads text (Step.optional body) (fun i j => i = j ∨ S i j) := by
  have hrep : Reads text (Step.repeated body 0 (some 1)) _ := hb.repeated (by simp)
  refine hrep.congr fun i j _ => ?_
  constructor
  · rintro ⟨n, _, hn, h⟩
    have hle : n ≤ 1 := hn 1 rfl
    rcases Nat.le_one_iff_eq_zero_or_eq_one.mp hle with rfl | rfl
    · exact Or.inl h
    · obtain ⟨k, hik, hkj⟩ := h
      have hkj' : k = j := hkj
      exact Or.inr (hkj' ▸ hik)
  · rintro (h | h)
    · exact ⟨0, Nat.le_refl 0, fun m _ => Nat.zero_le m, h⟩
    · exact ⟨1, Nat.zero_le 1, fun m hm => Nat.le_of_eq (Option.some.inj hm), j, h, rfl⟩

end Step

end StoryValues
