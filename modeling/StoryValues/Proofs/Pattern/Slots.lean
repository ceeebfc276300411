import StoryValues.Pattern.Destructure
import StoryValues.Proofs.Pattern.Language

/-
  WHAT CAPTURES HOLD.

  A pattern has one **slot** for each typed variable in it.  A slot knows the variable that is reported,
  the datatype that really reads for it, and whether the pattern can match without going through it.
  Neither of the last two can be told from the variable: what reads is folded where any pattern around
  is folded, and a branch can be skipped any number of levels further out.

  1. **Slots** (`Datatype.slots`) are as many as the captures, and their variables are those that are
     reported (`map_var_slots`).
  2. **Filled** — captures made for some slots: each is a word of its slot's language, and a slot that
     cannot be skipped has one.  What fills two groups of slots together, or the same slots again, or
     none that could be skipped, is filled.
  3. **A step fills its slots** (`Step.Fills`), and what it answers is what followed had to answer for
     the rest of the text.  One lemma for each combinator; for repetition by induction on its turns.
  4. **The step of a simple datatype fills the slots of the datatype** (`Datatype.fills`).
-/

namespace StoryValues

/-! ## Slots -/

/-- A place for a typed variable in a pattern: the variable as it is reported, the datatype that reads
its text, and whether the pattern may match without it. -/
structure Slot where
  var : TypedVar
  read : Datatype
  skippable : Bool

namespace Slot

/-- The slot inside something that may be skipped. -/
def skipped (slot : Slot) : Slot := { slot with skippable := true }

/-- The texts that the slot can hold when it has been read. -/
def language (slot : Slot) : Language Char := slot.read.language false

/-- The slot is always read, and by the datatype that is reported. -/
def Faithful (slot : Slot) : Prop := slot.skippable = false ∧ slot.read = slot.var.datatype

end Slot

/-- Whether a pattern of this shape, with so many fragments, can match without reading all of them. -/
def Shape.skips (count : Nat) : Shape → Bool
  | .either => 1 < count
  | .optional => true
  | .repeated b => b.least == 0
  | _ => false

mutual

/-- The slots of a datatype.  `told` says that an enclosing pattern is reported as folded, `fold` that
letter case does not matter where this one is read. -/
def Datatype.slots (told fold : Bool) : Datatype → List Slot
  | .named .. => []
  | .pattern shape parts folded _ =>
    let inside := Fragment.slotsIn (folded || told) ((folded || told) && shape != .insensitive)
      (fold || folded) parts
    if shape.skips parts.length then inside.map Slot.skipped else inside

/-- The slots of a fragment. -/
def Fragment.slots (wrap inner fold : Bool) : Fragment → List Slot
  | .text _ => []
  | .type d => d.slots inner fold
  | .typed d name rest =>
    ⟨⟨if wrap then d.folded else d, name, rest⟩, if fold then d.folded else d, false⟩
      :: d.slots false fold

/-- The slots of fragments, in order. -/
def Fragment.slotsIn (wrap inner fold : Bool) : List Fragment → List Slot
  | [] => []
  | f :: fs => f.slots wrap inner fold ++ Fragment.slotsIn wrap inner fold fs

end

mutual

/-- A datatype has as many slots as captures.  Slots are numbered by their place in the list, so this is what keeps
the numbers of a pattern and those of its parts together. -/
theorem Datatype.length_slots : (d : Datatype) → ∀ told fold,
    (d.slots told fold).length = d.captures
  | .named .., _, _ => by simp [Datatype.slots, Datatype.captures]
  | .pattern shape parts folded _, told, fold => by
    unfold Datatype.slots Datatype.captures
    rw [← Fragment.length_slotsIn parts (folded || told)
      ((folded || told) && shape != .insensitive) (fold || folded)]
    dsimp only
    split <;> simp

/-- So does a fragment: one for a typed variable and those of what is inside it. -/
theorem Fragment.length_slots : (f : Fragment) → ∀ wrap inner fold,
    (f.slots wrap inner fold).length = f.captures
  | .text _, _, _, _ => by simp [Fragment.slots, Fragment.captures]
  | .type d, _, inner, fold => by
    rw [Fragment.slots, Fragment.captures, Datatype.length_slots d inner fold]
  | .typed d _ _, _, _, fold => by
    rw [Fragment.slots, Fragment.captures, List.length_cons, Datatype.length_slots d false fold,
      Nat.add_comm]

/-- And so do fragments in order. -/
theorem Fragment.length_slotsIn : (fs : List Fragment) → ∀ wrap inner fold,
    (Fragment.slotsIn wrap inner fold fs).length = Fragment.capturesIn fs
  | [], _, _, _ => by simp [Fragment.slotsIn, Fragment.capturesIn]
  | f :: fs, wrap, inner, fold => by
    rw [Fragment.slotsIn, Fragment.capturesIn, List.length_append,
      Fragment.length_slots f, Fragment.length_slotsIn fs]

end

mutual

/-- The variables of the slots are those that are reported, in the same order.  So the captures of a match can be
paired with the variables by their numbers alone. -/
theorem Datatype.map_var_slots : (d : Datatype) → ∀ told fold,
    (d.slots told fold).map Slot.var = d.typedVars told
  | .named .., _, _ => by simp [Datatype.slots, Datatype.typedVars]
  | .pattern shape parts folded _, told, fold => by
    unfold Datatype.slots Datatype.typedVars
    rw [← Fragment.map_var_slotsIn parts _ _ (fold || folded)]
    dsimp only
    split
    · rw [List.map_map]
      rfl
    · rfl

/-- The variables of the slots of fragments are those that are reported, by recursion on the list. -/
theorem Fragment.map_var_slotsIn : (fs : List Fragment) → ∀ wrap inner fold,
    (Fragment.slotsIn wrap inner fold fs).map Slot.var = Fragment.typedVars wrap inner fs
  | [], _, _, _ => by simp [Fragment.slotsIn, Fragment.typedVars]
  | .text _ :: fs, wrap, inner, fold => by
    simp [Fragment.slotsIn, Fragment.slots, Fragment.typedVars, Fragment.map_var_slotsIn fs]
  | .type d :: fs, wrap, inner, fold => by
    simp [Fragment.slotsIn, Fragment.slots, Fragment.typedVars, Fragment.map_var_slotsIn fs,
      Datatype.map_var_slots d]
  | .typed d name rest :: fs, wrap, inner, fold => by
    simp [Fragment.slotsIn, Fragment.slots, Fragment.typedVars, Fragment.map_var_slotsIn fs,
      Datatype.map_var_slots d]

end

/-- What is read by a folded datatype is read by the datatype with letter case left out of account. -/
theorem Datatype.language_folded (d : Datatype) : d.folded.language false = d.language true := by
  simp [Datatype.folded, Datatype.language, Fragment.sequenceLanguage, Fragment.language]

/-! ## Filled slots -/

/-- Captures made for the slots that are numbered from a base on: each is a word of the language of its
slot, and every slot that cannot be skipped has one. -/
structure Filled (base : Nat) (slots : List Slot) (new : Captures) : Prop where
  each : ∀ i t, (i, t) ∈ new → ∃ j slot, i = base + j ∧ slots[j]? = some slot ∧ t ∈ slot.language
  all : ∀ j slot, slots[j]? = some slot → slot.skippable = false → ∃ t, (base + j, t) ∈ new

namespace Filled

variable {base : Nat} {slots more : List Slot} {new new' : Captures}

/-- No slots are filled by no captures. -/
theorem empty : Filled base [] [] := ⟨by simp, by simp⟩

/-- Two groups of slots, one behind the other: a capture belongs to one group by its number, and the later group is
captured later, in front. -/
theorem append (h : Filled base slots new) (h' : Filled (base + slots.length) more new') :
    Filled base (slots ++ more) (new' ++ new) := by
  refine ⟨fun i t hit => ?_, fun j slot hj hskip => ?_⟩
  · rcases List.mem_append.mp hit with hit | hit
    · obtain ⟨j, slot, rfl, hj, ht⟩ := h'.each i t hit
      refine ⟨slots.length + j, slot, Nat.add_assoc _ _ _, ?_, ht⟩
      rw [List.getElem?_append_right (Nat.le_add_right _ j), Nat.add_sub_cancel_left]
      exact hj
    · obtain ⟨j, slot, rfl, hj, ht⟩ := h.each i t hit
      exact ⟨j, slot, rfl, List.getElem?_append_left (List.getElem?_eq_some_iff.mp hj).1 ▸ hj, ht⟩
  · rcases Nat.lt_or_ge j slots.length with hlt | hge
    · rw [List.getElem?_append_left hlt] at hj
      obtain ⟨t, ht⟩ := h.all j slot hj hskip
      exact ⟨t, List.mem_append_right _ ht⟩
    · rw [List.getElem?_append_right hge] at hj
      obtain ⟨t, ht⟩ := h'.all _ slot hj hskip
      rw [Nat.add_assoc, Nat.add_sub_cancel' hge] at ht
      exact ⟨t, List.mem_append_left _ ht⟩

/-- The same slots once more, as a further turn of a repetition fills them.  Captures of both turns are words of their
slots, and one turn is enough to have captured what is always read. -/
theorem again (h : Filled base slots new) (h' : Filled base slots new') :
    Filled base slots (new' ++ new) := by
  refine ⟨fun i t hit => ?_, fun j slot hj hskip => ?_⟩
  · exact (List.mem_append.mp hit).elim (h'.each i t) (h.each i t)
  · obtain ⟨t, ht⟩ := h.all j slot hj hskip
    exact ⟨t, List.mem_append_right _ ht⟩

/-- Inside something that may be skipped nothing has to be captured, so captures that fill slots fill them all the
more when they may be skipped. -/
theorem skipped (h : Filled base slots new) : Filled base (slots.map Slot.skipped) new := by
  refine ⟨fun i t hit => ?_, fun j slot hj hskip => ?_⟩
  · obtain ⟨j, slot, hi, hj, ht⟩ := h.each i t hit
    exact ⟨j, slot.skipped, hi, by rw [List.getElem?_map, hj, Option.map_some], ht⟩
  · rw [List.getElem?_map, Option.map_eq_some_iff] at hj
    obtain ⟨inside, _, rfl⟩ := hj
    exact absurd hskip (by simp [Slot.skipped])

/-- What is skipped captures nothing, and nothing is asked of slots that may be skipped. -/
theorem none (base : Nat) (slots : List Slot) : Filled base (slots.map Slot.skipped) [] := by
  refine ⟨by simp, fun j slot hj hskip => ?_⟩
  rw [List.getElem?_map, Option.map_eq_some_iff] at hj
  obtain ⟨inside, _, rfl⟩ := hj
  exact absurd hskip (by simp [Slot.skipped])

/-- A slot around others: its number comes before theirs, since a pattern numbers its groups by where they open. -/
theorem around {slot : Slot} {t : List Char} (h : Filled (base + 1) slots new)
    (ht : t ∈ slot.language) : Filled base (slot :: slots) ((base, t) :: new) := by
  have hone : Filled base [slot] [(base, t)] := by
    refine ⟨fun i t' hit => ?_, fun j s hj _ => ?_⟩
    · obtain ⟨rfl, rfl⟩ := Prod.mk.inj (List.mem_singleton.mp hit)
      exact ⟨0, slot, rfl, rfl, ht⟩
    · obtain rfl : j = 0 := Nat.lt_one_iff.mp (List.getElem?_eq_some_iff.mp hj).1
      exact ⟨t, List.mem_singleton_self _⟩
  have hboth : Filled base ([slot] ++ slots) (new ++ [(base, t)]) := hone.append h
  refine ⟨fun i t' hit => hboth.each i t' ?_, fun j s hj hskip => ?_⟩
  · rcases List.mem_cons.mp hit with heq | hit
    · exact List.mem_append_right _ (List.mem_singleton.mpr heq)
    · exact List.mem_append_left _ hit
  · obtain ⟨t', ht'⟩ := hboth.all j s hj hskip
    rcases List.mem_append.mp ht' with hit | hit
    · exact ⟨t', List.mem_cons_of_mem _ hit⟩
    · exact ⟨t', List.mem_cons.mpr (Or.inl (List.mem_singleton.mp hit))⟩

end Filled

/-! ## Steps fill slots -/

/-- How an answer comes about: some word of a language is read from the front, captures are made on the
way, and what follows gives the answer for the rest. -/
def Passage (L : Language Char) (Made : Captures → Prop) (s : List Char) (c : Captures)
    (k : Rest s → Captures → Option Captures) (found : Captures) : Prop :=
  ∃ u new, ∃ r : Rest s, s = u ++ r.1 ∧ u ∈ L ∧ Made new ∧ k r (new ++ c) = some found

namespace Step

/-- Every answer of the step comes about by a word of the language and captures that fill the slots. -/
def Fills (step : Step) (L : Language Char) (base : Nat) (slots : List Slot) : Prop :=
  ∀ s c k found, step s c k = some found → Passage L (Filled base slots) s c k found

variable {first second body : Step} {L M : Language Char} {base : Nat} {slots more : List Slot}

/-- The step that reads nothing has no slots and makes no captures. -/
theorem fills_done (base : Nat) : done.Fills 1 base [] :=
  fun _ _ _ _ h => ⟨[], [], _, rfl, rfl, .empty, h⟩

/-- A step of one character makes no captures. -/
theorem fills_char (test : Char → Bool) (base : Nat) : (char test).Fills (single test) base [] := by
  intro s c k found h
  cases s with
  | nil => exact absurd h (by simp [char])
  | cons x xs =>
    by_cases htest : test x = true
    · rw [char_of_cons rfl (Nat.le_succ _), if_pos htest] at h
      exact ⟨[x], [], _, rfl, ⟨x, rfl, htest⟩, .empty, h⟩
    · rw [char_of_cons rfl (Nat.le_succ _), if_neg htest] at h
      exact absurd h (by simp)

/-- One step after another fills the slots of both.  The captures of the second step come in front of those of the
first, as `Filled.append` has them. -/
theorem Fills.andThen (hL : first.Fills L base slots)
    (hM : second.Fills M (base + slots.length) more) :
    (Step.andThen first second).Fills (L * M) base (slots ++ more) := by
  intro s c k found h
  obtain ⟨u, new, r, hs, hu, hnew, h⟩ := hL _ _ _ _ h
  obtain ⟨v, new', r', hr, hv, hnew', h⟩ := hM _ _ _ _ h
  refine ⟨u ++ v, new' ++ new, ⟨r'.1, Nat.le_trans r'.2 r.2⟩, ?_, Language.append_mem_mul hu hv,
    hnew.append hnew', ?_⟩
  · rw [List.append_assoc, ← hr]
    exact hs
  · rw [List.append_assoc]
    exact h

/-- A step fills other slots if what fills its own does, and reads any language with its words in it. -/
theorem Fills.imp {base' : Nat} {slots' : List Slot} (h : first.Fills L base slots)
    (hL : ∀ u ∈ L, u ∈ M) (hslots : ∀ new, Filled base slots new → Filled base' slots' new) :
    first.Fills M base' slots' := by
  intro s c k found hfound
  obtain ⟨u, new, r, hs, hu, hnew, hk⟩ := h s c k found hfound
  exact ⟨u, new, r, hs, hL u hu, hslots new hnew, hk⟩

/-- Two steps to choose from with the same slots.  Where each has slots of its own, those of the other are put beside
them first, as slots that may be skipped (`Fills.imp`). -/
theorem Fills.orElse (hL : first.Fills L base slots) (hM : second.Fills M base slots) :
    (Step.orElse first second).Fills (L + M) base slots := by
  intro s c k found h
  unfold Step.orElse at h
  cases hfirst : first s c k with
  | some a =>
    rw [hfirst] at h
    exact hL.imp (fun _ => Or.inl) (fun _ hnew => hnew) s c k found (hfirst.trans h)
  | none =>
    rw [hfirst] at h
    exact hM.imp (fun _ => Or.inr) (fun _ hnew => hnew) s c k found h

/-- The step of any text makes no captures, by induction on what is left of the text. -/
theorem fills_anything (base : Nat) : anything.Fills ⊤ base [] := by
  intro s c k found
  induction s, k using anything.induct c with
  | case1 s k answer hk =>
    rw [anything.eq_def, hk]
    intro h
    exact ⟨[], [], _, rfl, trivial, .empty, hk.trans h⟩
  | case2 k hk =>
    rw [anything, hk]
    intro h
    exact absurd h (by simp)
  | case3 x xs k hk ih =>
    rw [anything, hk]
    intro h
    obtain ⟨u, new, r, hs, _, hnew, h⟩ := ih h
    exact ⟨x :: u, new, ⟨r.1, Nat.le_succ_of_le r.2⟩, congrArg (x :: ·) hs, trivial, hnew, h⟩

/-- A literal text makes no captures, by induction on it. -/
theorem fills_text (base : Nat) : ∀ tests : List (Char → Bool),
    (Step.text tests).Fills (lettered tests) base []
  | [] => fills_done base
  | test :: tests => by
    have hrest := (fills_char test base).andThen (fills_text (base + 0) tests)
    rwa [lettered, ← List.prod_cons, ← List.map_cons] at hrest

/-- A line end makes no captures. -/
theorem fills_newline (base : Nat) : newline.Fills lineEnds base [] :=
  (fills_text base _).orElse ((fills_char _ base).orElse (fills_char _ base))

/-- What has been read of a text is known from what is left of it.  The step that captures knows only the lengths. -/
theorem take_of_append {s u r : List Char} (h : s = u ++ r) : s.take (s.length - r.length) = u := by
  rw [h, List.length_append, Nat.add_sub_cancel]
  exact List.take_left

/-- A capture fills a slot with what was read, around the slots of what reads.  What the body reads must be a word of
the language of the slot, which is where the reported variable and the datatype that really reads may differ. -/
theorem Fills.capture {slot : Slot} (h : body.Fills L (base + 1) slots) (hslot : ∀ u ∈ L, u ∈ slot.language) :
    (Step.capture base body).Fills L base (slot :: slots) := by
  intro s c k found hfound
  obtain ⟨u, new, r, hs, hu, hnew, hk⟩ := h _ _ _ _ hfound
  refine ⟨u, (base, u) :: new, r, hs, hu, hnew.around (hslot u hu), ?_⟩
  rw [List.cons_append, ← take_of_append hs]
  exact hk

/-! ## Repetition -/

/-- What repetition captures in a number of turns: nothing in none, and the slots of its body in one or
more, where the latest turn comes first. -/
def TurnsFill (base : Nat) (slots : List Slot) (n : Nat) (new : Captures) : Prop :=
  (n = 0 → new = []) ∧ (0 < n → Filled base slots new)

/-- One turn more, before the others.  Both for the first turn, where no captures are there yet, and for a later one,
whose slots have been filled already. -/
theorem TurnsFill.succ {n : Nat} {new new' : Captures} (h : Filled base slots new)
    (h' : TurnsFill base slots n new') : TurnsFill base slots (n + 1) (new' ++ new) := by
  refine ⟨fun h0 => absurd h0 (Nat.succ_ne_zero n), fun _ => ?_⟩
  rcases Nat.eq_zero_or_pos n with h0 | hpos
  · rw [h'.1 h0]
    exact h
  · exact h.again (h'.2 hpos)

/-- After some turns an answer comes about by a number of further turns that the bounds admit. -/
def FurtherTurns (L : Language Char) (base : Nat) (slots : List Slot) (min : Nat) (max : Option Nat) (count : Nat)
    (s : List Char) (c : Captures) (k : Rest s → Captures → Option Captures) (found : Captures) : Prop :=
  ∃ n, min ≤ count + n ∧ (∀ m, max = some m → count + n ≤ m) ∧ Passage (L ^ n) (TurnsFill base slots n) s c k found

section FurtherTurns

variable {min : Nat} {max : Option Nat} {count : Nat} {last : Option Nat} {s : List Char} {c : Captures}
  {k : Rest s → Captures → Option Captures} {found : Captures}

/-- No further turn, where the bounds admit the turns there are: what follows gives the answer at once. -/
theorem FurtherTurns.stop (hleast : min ≤ count) (hmost : ∀ m, max = some m → count ≤ m)
    (h : k ⟨s, Nat.le_refl _⟩ c = some found) : FurtherTurns L base slots min max count s c k found :=
  ⟨0, hleast, hmost, [], [], _, rfl, rfl, ⟨fun _ => rfl, fun h0 => absurd h0 (Nat.lt_irrefl 0)⟩, h⟩

/-- One turn, and the further turns that follow it.  The hypothesis is the induction hypothesis of
`furtherTurns_of_turns` for what the turn leaves of the text. -/
theorem FurtherTurns.turn (hbody : body.Fills L base slots)
    (ih : ∀ (r : Rest s) c,
      (turns body min max (count + 1) last r.1 c fun r' c => k ⟨r'.1, Nat.le_trans r'.2 r.2⟩ c) = some found →
      FurtherTurns L base slots min max (count + 1) r.1 c (fun r' c => k ⟨r'.1, Nat.le_trans r'.2 r.2⟩ c) found)
    (h : (body s c fun r c => turns body min max (count + 1) last r.1 c
      fun r' c => k ⟨r'.1, Nat.le_trans r'.2 r.2⟩ c) = some found) :
    FurtherTurns L base slots min max count s c k found := by
  obtain ⟨u, new, r, hs, hu, hnew, h⟩ := hbody _ _ _ _ h
  obtain ⟨n, hleast, hmost, v, new', r', hr, hv, hnew', h⟩ := ih r _ h
  refine ⟨n + 1, by omega, fun m hm => by have := hmost m hm; omega, u ++ v, new' ++ new,
    ⟨r'.1, Nat.le_trans r'.2 r.2⟩, ?_, ?_, hnew'.succ hnew, ?_⟩
  · rw [List.append_assoc, ← hr]
    exact hs
  · rw [pow_succ']
    exact Language.append_mem_mul hu hv
  · rw [List.append_assoc]
    exact h

end FurtherTurns

/-- The answers of repetition after some turns come about by further turns.  The induction follows the step itself: an
owed turn, a free turn that leads to an answer, one that does not, and no turn. -/
theorem furtherTurns_of_turns (hbody : body.Fills L base slots) {min : Nat} {max : Option Nat} (count : Nat)
    (last : Option Nat) (s : List Char) (c : Captures) (k : Rest s → Captures → Option Captures)
    (found : Captures) (hmax : ∀ m, max = some m → min ≤ m ∧ count ≤ m)
    (h : turns body min max count last s c k = some found) :
    FurtherTurns L base slots min max count s c k found := by
  induction count, last, s, c, k using turns.induct body min max with
  | case1 count last s c k howed ih =>
    rw [turns, if_pos howed] at h
    exact .turn hbody (fun r c => ih r c fun m hm => ⟨(hmax m hm).1, Nat.lt_of_lt_of_le howed (hmax m hm).1⟩) h
  | case2 count last s c k hfree hgo answer hanswer ih =>
    rw [turns, if_neg hfree, if_pos hgo, hanswer] at h
    have hallowed := allows_iff.mp (Bool.and_eq_true_iff.mp hgo).1
    exact .turn hbody (fun r c => ih r c fun m hm => ⟨(hmax m hm).1, hallowed m hm⟩) (hanswer.trans h)
  | case3 count last s c k hfree hgo hanswer ih =>
    rw [turns, if_neg hfree, if_pos hgo, hanswer] at h
    exact .stop (Nat.not_lt.mp hfree) (fun m hm => (hmax m hm).2) h
  | case4 count last s c k hfree hgo =>
    rw [turns, if_neg hfree, if_neg hgo] at h
    exact .stop (Nat.not_lt.mp hfree) (fun m hm => (hmax m hm).2) h

/-- Repetition with turns that it owes fills the slots of its body; without any that it owes, the slots may be
skipped. -/
theorem Fills.repeated (h : body.Fills L base slots) {min : Nat} {max : Option Nat}
    (hmax : ∀ m, max = some m → min ≤ m) :
    (Step.repeated body min max).Fills (powersBetween min max L) base
      (if min = 0 then slots.map Slot.skipped else slots) := by
  intro s c k found hfound
  obtain ⟨n, hleast, hmost, u, new, r, hs, hu, hnew, hk⟩ :=
    furtherTurns_of_turns h 0 none s c k found (fun m hm => ⟨hmax m hm, Nat.zero_le m⟩) hfound
  rw [Nat.zero_add] at hleast
  refine ⟨u, new, r, hs, ⟨n, hleast, fun m hm => Nat.zero_add n ▸ hmost m hm, hu⟩, ?_, hk⟩
  split
  · rcases Nat.eq_zero_or_pos n with h0 | hpos
    · rw [hnew.1 h0]
      exact .none base slots
    · exact (hnew.2 hpos).skipped
  · exact hnew.2 (by omega)

/-- An optional step may skip the slots of its body. -/
theorem Fills.optional (h : body.Fills L base slots) :
    (Step.optional body).Fills (1 + L) base (slots.map Slot.skipped) := by
  have hturns : (Step.repeated body 0 (some 1)).Fills (powersBetween 0 (some 1) L) base
      (slots.map Slot.skipped) := h.repeated (by simp)
  refine hturns.imp ?_ fun _ hnew => hnew
  rintro u ⟨n, _, hn, hu⟩
  rcases Nat.le_one_iff_eq_zero_or_eq_one.mp (hn 1 rfl) with rfl | rfl
  · exact Or.inl hu
  · rw [pow_one] at hu
    exact Or.inr hu

end Step

/-! ## Simple datatypes -/

/-- The step of a name makes no captures, whichever of the kinds of step it is. -/
theorem fills_named {name : String} (hname : isTextName name = true) (fold : Bool) (base : Nat) :
    ((Datatype.named name false).step fold false base).Fills (namedLanguage fold name) base [] :=
  named_cases (motive := fun step L => step.Fills L base []) hname fold base
    (Step.fills_anything base) (Step.fills_newline base) fun test => Step.fills_char test base

mutual

/-- **The step of a simple datatype fills the slots of the datatype.**  By recursion on the datatype along with its
fragments, one combinator for each shape.  What the step reads is a word of the language, and what it captures fills
the slots, at once, since the one is needed for the other at each capture. -/
theorem Datatype.fills : (d : Datatype) → d.Simple → ∀ told fold base,
    (d.step fold false base).Fills (d.language fold) base (d.slots told fold)
  | .named name spread, h, told, fold, base => by
    obtain ⟨hname, rfl⟩ := h
    rw [Datatype.language, Datatype.slots]
    exact fills_named hname fold base
  | .pattern shape parts folded spread, h, told, fold, base => by
    obtain ⟨rfl, hahead, hbounds, hparts⟩ := h
    have hinside := Fragment.fills_sequence parts hparts (folded || told)
      ((folded || told) && shape != .insensitive) (fold || folded) base
    unfold Datatype.step Datatype.language Datatype.slots
    cases shape with
    | sequence => exact hinside
    | insensitive => exact hinside
    | either => exact Fragment.fills_choice parts hparts _ _ (fold || folded) base
    | optional => exact hinside.optional
    | repeated b =>
      simp only [Shape.skips, beq_iff_eq]
      exact hinside.repeated (hbounds b rfl)
    | notBefore => exact absurd rfl hahead

/-- The step of a simple fragment fills the slots of the fragment.  A typed variable is a capture around what its type
fills. -/
theorem Fragment.fills : (f : Fragment) → f.Simple → ∀ wrap inner fold base,
    (f.step fold base).Fills (f.language fold) base (f.slots wrap inner fold)
  | .text s, _, wrap, inner, fold, base => by
    rw [Fragment.step, Fragment.language, Fragment.slots]
    exact Step.fills_text base _
  | .type d, h, wrap, inner, fold, base => by
    rw [Fragment.step, Fragment.language, Fragment.slots]
    exact Datatype.fills d h inner fold base
  | .typed d name rest, h, wrap, inner, fold, base => by
    obtain ⟨rfl, h⟩ := h
    rw [Fragment.step, Fragment.language, Fragment.slots]
    refine (Datatype.fills d h false fold (base + 1)).capture fun u hu => ?_
    -- what reads for the slot is folded where this fragment is
    cases fold with
    | false => exact hu
    | true =>
      show u ∈ d.folded.language false
      rw [d.language_folded]
      exact hu

/-- Steps of simple fragments, one after another, fill the slots of all of them, each group numbered on from the one
before. -/
theorem Fragment.fills_sequence : (fs : List Fragment) → Fragment.AllSimple fs →
    ∀ wrap inner fold base, (Fragment.steps fold base fs).Fills (Fragment.sequenceLanguage fold fs) base
      (Fragment.slotsIn wrap inner fold fs)
  | [], _, wrap, inner, fold, base => by
    rw [Fragment.steps, Fragment.sequenceLanguage, Fragment.slotsIn]
    exact Step.fills_done base
  | f :: fs, h, wrap, inner, fold, base => by
    rw [Fragment.steps, Fragment.sequenceLanguage, Fragment.slotsIn]
    have hrest := Fragment.fills_sequence fs h.2 wrap inner fold (base + f.captures)
    rw [← Fragment.length_slots f wrap inner fold] at hrest ⊢
    exact (Fragment.fills f h.1 wrap inner fold base).andThen hrest

/-- Steps of simple fragments to choose from fill the slots of one fragment; of a single one, all. -/
theorem Fragment.fills_choice : (fs : List Fragment) → Fragment.AllSimple fs →
    ∀ wrap inner fold base, (Fragment.choices fold base fs).Fills (Fragment.choiceLanguage fold fs) base
      (if Shape.either.skips fs.length then (Fragment.slotsIn wrap inner fold fs).map Slot.skipped
        else Fragment.slotsIn wrap inner fold fs)
  | [], _, wrap, inner, fold, base => by
    rw [Fragment.choices, Fragment.choiceLanguage, Fragment.slotsIn]
    exact Step.fills_done base
  | [f], h, wrap, inner, fold, base => by
    rw [Fragment.choices, Fragment.choiceLanguage, Fragment.slotsIn, Fragment.slotsIn, List.append_nil]
    exact Fragment.fills f h.1 wrap inner fold base
  | f :: g :: fs, h, wrap, inner, fold, base => by
    have hskips : Shape.either.skips (f :: g :: fs).length = true := by simp [Shape.skips]
    have hfirst := Fragment.fills f h.1 wrap inner fold base
    have hothers := Fragment.fills_choice (g :: fs) h.2 wrap inner fold (base + f.captures)
    rw [← Fragment.length_slots f wrap inner fold] at hothers
    rw [Fragment.choices, Fragment.choiceLanguage, if_pos hskips, Fragment.slotsIn, List.map_append,
      ← Fragment.length_slots f wrap inner fold]
    · refine Step.Fills.orElse (hfirst.imp (fun _ hu => hu) fun new hnew => ?_)
        (hothers.imp (fun _ hu => hu) fun new hnew => ?_)
      · -- one alternative was read, and the slots of the others are skipped
        exact hnew.skipped.append (.none _ _)
      · have hskipped : Filled (base + ((f.slots wrap inner fold).map Slot.skipped).length)
            ((Fragment.slotsIn wrap inner fold (g :: fs)).map Slot.skipped) new := by
          rw [List.length_map]
          split at hnew
          · exact hnew
          · exact hnew.skipped
        simpa using (Filled.none base (f.slots wrap inner fold)).append hskipped
    · exact List.cons_ne_nil g fs
    · exact List.cons_ne_nil g fs

end

end StoryValues
