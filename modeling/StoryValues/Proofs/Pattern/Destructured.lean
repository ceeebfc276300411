import StoryValues.Proofs.Pattern.Recognition
import StoryValues.Proofs.Pattern.Slots
import StoryValues.Proofs.Value.Decides

/-
  TEXT THAT WAS TAKEN APART, and the types of the variables that it went to.

  A pattern without anything spread gives each of its typed variables a text, and the text is one that
  the variable's slot has read — with two exceptions, which the pattern macros let in.

  1. **Skipped.**  A typed variable may not stand directly in an option, a choice or a repetition from
     none, for it might be left without text.  It may stand in a pattern that does, and then it is left
     with the empty text, of whatever type it is.
  2. **Folded.**  A pattern that leaves letter case out of account reports the variables that stand
     directly in it with folded datatypes.  Those in patterns in it are read folded too, but reported as
     they were written, with a datatype that may refuse what was read.

  For every pattern that is assembled (`Assembled`), each slot's text is accepted by what reads for the
  slot, or the slot could be skipped and the text is empty; so where no slot is an exception, every text
  is of its variable's type (`destructure_respects_types`).  Both exceptions are real
  (`skipped_and_folded`).
-/

namespace StoryValues

variable {settings : Settings}

/-! ## Asking what reads -/

/-- The names that say something about text. -/
theorem textName_cases {name : String} (h : isTextName name = true) :
    name = "string" ∨ name ∈ Datatype.characterTypes := by
  by_cases hs : name = "string"
  · exact Or.inl hs
  · right
    have hpiece : (pieceOf? false name).isSome = true := by simpa [isTextName, hs] using h
    unfold pieceOf? classOf? at hpiece
    split at hpiece
    · next hn => rw [hn]; decide
    · rw [Option.isSome_map] at hpiece
      split at hpiece
      all_goals first | decide | exact absurd hpiece (by simp)

/-- A datatype of characters accepts the strings that it reads whole.  A datatype of all strings is asked in another
way, hence the case. -/
theorem accepts_characters {name : String} (h : name ∈ Datatype.characterTypes) (s : String) :
    (Datatype.named name false).accepts (.string s) =
      Check.lift ((Datatype.named name false).readsAll s) := by
  simp only [Datatype.characterTypes, List.mem_cons, List.not_mem_nil, or_false] at h
  rcases h with rfl | rfl | rfl | rfl | rfl | rfl | rfl <;> rfl

/-- A datatype that can be read and counted by: simple, with no bound beyond counting. -/
def Datatype.Readable (d : Datatype) : Prop := d.Simple ∧ d.overflows = false

/-- **A word of its language is of the datatype.**  The language carries what was read in the middle of a text to that
text alone, where the datatype is asked. -/
theorem Datatype.Readable.accepts {d : Datatype} (h : d.Readable) {s : String}
    (hs : s.toList ∈ d.language false) : d.accepts (.string s) settings = .ok true := by
  have hwhole : d.readsAll s = .ok true := by
    rw [Pattern.readsAll_of_countable h.2, ((d.recognises h.1 false 0).whole_iff s.toList).mpr hs]
  cases d with
  | named name spread =>
    obtain ⟨hname, rfl⟩ := h.1
    rcases textName_cases hname with rfl | hcharacters
    · rfl
    · rw [accepts_characters hcharacters, hwhole]
      rfl
  | pattern shape parts folded spread =>
    have hahead : (pattern shape parts folded spread).isLookAhead = false := by
      cases shape with
      | notBefore => exact absurd rfl h.1.2.1
      | _ => rfl
    rw [Pattern.accepts_string rfl hahead, hwhole]
    rfl

/-- With letter case left out of account it is still readable. -/
theorem Datatype.Readable.folded {d : Datatype} (h : d.Readable) : d.folded.Readable := by
  refine ⟨⟨rfl, by simp, by simp, h.1, trivial⟩, ?_⟩
  simp [Datatype.folded, Datatype.overflows, Fragment.overflowsIn, Fragment.overflows, h.2]

mutual

/-- What reads for the slots of a readable datatype is readable.  By recursion on the datatype along with its
fragments; folding in between keeps it so. -/
theorem Datatype.readable_slots : (d : Datatype) → d.Readable → ∀ told fold,
    ∀ slot ∈ d.slots told fold, slot.read.Readable
  | .named .., _, told, fold => by simp [Datatype.slots]
  | .pattern shape parts folded spread, h, told, fold => by
    obtain ⟨⟨_, _, _, hparts⟩, hover⟩ := h
    unfold Datatype.overflows at hover
    rw [Bool.or_eq_false_iff] at hover
    have hinside := Fragment.readable_slotsIn parts hparts hover.2 (folded || told)
      ((folded || told) && shape != .insensitive) (fold || folded)
    unfold Datatype.slots
    dsimp only
    split
    · intro slot hslot
      obtain ⟨inside, hmem, rfl⟩ := List.mem_map.mp hslot
      exact hinside inside hmem
    · exact hinside

/-- And what reads for the slots of several such fragments. -/
theorem Fragment.readable_slotsIn : (fs : List Fragment) → Fragment.AllSimple fs →
    Fragment.overflowsIn fs = false → ∀ wrap inner fold,
    ∀ slot ∈ Fragment.slotsIn wrap inner fold fs, slot.read.Readable
  | [], _, _, _, _, _ => by simp [Fragment.slotsIn]
  | .text _ :: fs, h, hover, wrap, inner, fold => by
    simpa [Fragment.slotsIn, Fragment.slots] using
      Fragment.readable_slotsIn fs h.2 (Bool.or_eq_false_iff.mp hover).2 wrap inner fold
  | .type d :: fs, h, hover, wrap, inner, fold => by
    obtain ⟨hd, hfs⟩ := Bool.or_eq_false_iff.mp hover
    intro slot hslot
    rcases List.mem_append.mp hslot with hslot | hslot
    · exact Datatype.readable_slots d ⟨h.1, hd⟩ inner fold slot hslot
    · exact Fragment.readable_slotsIn fs h.2 hfs wrap inner fold slot hslot
  | .typed d name rest :: fs, h, hover, wrap, inner, fold => by
    obtain ⟨hd, hfs⟩ := Bool.or_eq_false_iff.mp hover
    have hread : d.Readable := ⟨h.1.2, hd⟩
    intro slot hslot
    rcases List.mem_append.mp hslot with hslot | hslot
    · rcases List.mem_cons.mp hslot with rfl | hslot
      · dsimp only
        split
        · exact hread.folded
        · exact hread
      · exact Datatype.readable_slots d hread false fold slot hslot
    · exact Fragment.readable_slotsIn fs h.2 hfs wrap inner fold slot hslot

end

mutual

/-- What reads for a slot is what is reported, or that with letter case left out of account.  Reporting folds no more
than reading does, which the condition says and each pattern on the way keeps. -/
theorem Datatype.read_or_folded : (d : Datatype) → ∀ told fold, (told = true → fold = true) →
    ∀ slot ∈ d.slots told fold,
      slot.read = slot.var.datatype ∨ slot.read = slot.var.datatype.folded
  | .named .., told, fold, _ => by simp [Datatype.slots]
  | .pattern shape parts folded spread, told, fold, htold => by
    have hwrap : (folded || told) = true → (fold || folded) = true := by
      cases folded with
      | true => simp
      | false => simpa using htold
    have hinside := Fragment.read_or_folded parts _ ((folded || told) && shape != .insensitive) _ hwrap
      fun h => hwrap (Bool.and_eq_true_iff.mp h).1
    unfold Datatype.slots
    dsimp only
    split
    · intro slot hslot
      obtain ⟨inside, hmem, rfl⟩ := List.mem_map.mp hslot
      exact hinside inside hmem
    · exact hinside

/-- The same for the slots of several fragments. -/
theorem Fragment.read_or_folded : (fs : List Fragment) → ∀ wrap inner fold,
    (wrap = true → fold = true) → (inner = true → fold = true) →
    ∀ slot ∈ Fragment.slotsIn wrap inner fold fs,
      slot.read = slot.var.datatype ∨ slot.read = slot.var.datatype.folded
  | [], _, _, _, _, _ => by simp [Fragment.slotsIn]
  | .text _ :: fs, wrap, inner, fold, hwrap, hinner => by
    simpa [Fragment.slotsIn, Fragment.slots] using Fragment.read_or_folded fs wrap inner fold hwrap hinner
  | .type d :: fs, wrap, inner, fold, hwrap, hinner => by
    intro slot hslot
    rcases List.mem_append.mp hslot with hslot | hslot
    · exact Datatype.read_or_folded d inner fold hinner slot hslot
    · exact Fragment.read_or_folded fs wrap inner fold hwrap hinner slot hslot
  | .typed d name rest :: fs, wrap, inner, fold, hwrap, hinner => by
    intro slot hslot
    rcases List.mem_append.mp hslot with hslot | hslot
    · rcases List.mem_cons.mp hslot with rfl | hslot
      · -- where the variable is reported folded it is read folded
        cases wrap with
        | true => exact Or.inl (by rw [hwrap rfl])
        | false =>
          cases fold with
          | true => exact Or.inr rfl
          | false => exact Or.inl rfl
      · exact Datatype.read_or_folded d false fold (by simp) slot hslot
    · exact Fragment.read_or_folded fs wrap inner fold hwrap hinner slot hslot

end

/-! ## Captures of a whole text -/

/-- A simple datatype that reads a whole text has filled its slots: `Datatype.fills` where nothing is left. -/
theorem Datatype.filled_of_whole {d : Datatype} (h : d.Simple) {s : List Char} {captures : Captures}
    (hwhole : (d.step false false 0).whole s = some captures) :
    Filled 0 (d.slots false false) captures := by
  obtain ⟨u, new, r, _, _, hnew, hk⟩ := d.fills h false false 0 _ _ _ _ hwhole
  rw [List.append_nil] at hk
  dsimp only at hk
  split at hk
  · exact Option.some.inj hk ▸ hnew
  · exact absurd hk (by simp)

/-- The text of a slot was read for it, or there is none and the slot can be skipped.  The capture that is looked up
is the latest, and all captures of a slot are words of its language. -/
theorem Filled.captured {slots : List Slot} {captures : Captures} (h : Filled 0 slots captures)
    {j : Nat} {slot : Slot} (hj : slots[j]? = some slot) :
    (Pattern.captured captures j).toList ∈ slot.language ∨
      slot.skippable = true ∧ Pattern.captured captures j = "" := by
  unfold Pattern.captured
  cases hlookup : captures.lookup j with
  | some t =>
    left
    obtain ⟨before, after, rfl, _⟩ := List.lookup_eq_some_iff.mp hlookup
    obtain ⟨i, slot', hi, hslot', ht⟩ := h.each j t (by simp)
    rw [Nat.zero_add] at hi
    rw [← hi, hj, Option.some.injEq] at hslot'
    rw [Option.getD_some, String.toList_ofList, hslot']
    exact ht
  | none =>
    right
    refine ⟨?_, rfl⟩
    -- a slot that cannot be skipped would have been captured
    by_contra hskip
    obtain ⟨t, ht⟩ := h.all j slot hj (Bool.eq_false_iff.mpr hskip)
    have hnone := List.lookup_eq_none_iff.mp hlookup _ ht
    simp at hnone

namespace Pattern

/-! ## Assembled patterns -/

/-- Whether a value that is part of a pattern is neither spread nor takes all that is left. -/
def isUnspread : Value → Bool
  | .datatype d => !d.isSpread
  | .typedVar v => !v.rest && !v.datatype.isSpread
  | _ => true

/-- The shapes of the macros that take fragments alone and do not look ahead. -/
def readingShapes : List Shape := [.sequence, .either, .optional, .insensitive]

/-- **Assembled patterns**: those that the macros for sequences, choices, options, repetitions and for
leaving letter case out of account make of strings, named datatypes, typed variables, and patterns
assembled before, where nothing is spread and no typed variable takes all that is left. -/
inductive Assembled (settings : Settings) : Datatype → Prop
  | make {shape : Shape} {args : List Value} {d : Datatype} : shape ∈ readingShapes →
      (∀ v ∈ args, isUnspread v = true) →
      (∀ v ∈ args, ∀ e, Brings v e → e.isPattern = true → Assembled settings e) →
      make shape args settings = .ok d → Assembled settings d
  | repeated {args : List Value} {d : Datatype} : (∀ v ∈ args, isUnspread v = true) →
      (∀ v ∈ args, ∀ e, Brings v e → e.isPattern = true → Assembled settings e) →
      repeated args settings = .ok d → Assembled settings d

/-- A fragment is made of the value that it stands for. -/
theorem eq_toValue_of_fragment {shape : Shape} {v : Value} {f : Fragment}
    (h : fragment shape v settings = .ok f) : v = f.toValue := by
  unfold fragment at h
  split at h
  · exact Except.ok.inj h ▸ rfl
  · obtain ⟨_, _, h⟩ := Check.bind_eq_ok.mp h
    exact Except.ok.inj h ▸ rfl
  · split at h
    · obtain ⟨_, _, h⟩ := Check.bind_eq_ok.mp h
      exact Except.ok.inj h ▸ rfl
    · exact absurd h Check.fail_ne_ok
  · exact absurd h Check.fail_naming_ne_ok

/-- The fragment of an unspread argument is simple if the patterns that the argument brings are.  This and the next
lemma are the step of the induction in `Assembled.simple`. -/
theorem simple_of_fragment {shape : Shape} {v : Value} {f : Fragment}
    (h : fragment shape v settings = .ok f) (hunspread : isUnspread v = true)
    (hpatterns : ∀ e, Brings v e → e.isPattern = true → e.Simple) : f.Simple := by
  have hsimple : ∀ e, f.datatype? = some e → e.isSpread = false → e.Simple := by
    intro e he hspread
    obtain ⟨hbrings, htext⟩ := of_fragment h he
    cases e with
    | named name spread => exact ⟨htext, hspread⟩
    | pattern shape parts folded spread => exact hpatterns _ hbrings rfl
  obtain rfl := eq_toValue_of_fragment h
  cases f with
  | text s => trivial
  | type e => exact hsimple e rfl (by simpa [isUnspread, Fragment.toValue] using hunspread)
  | typed e name rest =>
    have hboth : rest = false ∧ e.isSpread = false := by
      simpa [isUnspread, Fragment.toValue] using hunspread
    exact ⟨hboth.1, hsimple e rfl hboth.2⟩

/-- The fragments of unspread arguments are simple if the patterns that the arguments bring are. -/
theorem allSimple_of_fragments {shape : Shape} {args : List Value} {parts : List Fragment}
    (hunspread : ∀ v ∈ args, isUnspread v = true)
    (hpatterns : ∀ v ∈ args, ∀ e, Brings v e → e.isPattern = true → e.Simple)
    (hall : List.Forall₂ (fun v f => fragment shape v settings = .ok f) args parts) : Fragment.AllSimple parts := by
  rw [Fragment.allSimple_iff]
  intro f hf
  obtain ⟨v, hv, hvf⟩ := exists_of_forall₂ hall.flip f hf
  exact simple_of_fragment hvf (hunspread v hv) (hpatterns v hv)

/-- **Assembled patterns are simple.**  By induction on how they were assembled; leaving letter case out of account
and the bounds of a repetition are in order as the macros make them. -/
theorem Assembled.simple {d : Datatype} (h : Assembled settings d) : d.Simple := by
  induction h with
  | @make shape args d hshape hunspread _ hmake ih =>
    obtain ⟨parts, rfl, hall⟩ := of_make hmake
    refine ⟨rfl, ?_, ?_, allSimple_of_fragments hunspread ih hall⟩
    · rintro rfl
      exact absurd hshape (by decide)
    · rintro b rfl
      exact absurd hshape (by simp [readingShapes])
  | @repeated args d hunspread _ hrep ih =>
    obtain ⟨b, rest, bounds, ht, hl, hc, ho, hmake⟩ := of_repeated hrep
    obtain ⟨parts, rfl, hall⟩ := of_make hmake
    -- the fragments come from the arguments behind the bounds
    have harg : ∀ v ∈ rest, v ∈ args := fun v hv =>
      (of_takeBounds ht).2 ▸ List.mem_append_right _ hv
    refine ⟨rfl, by simp, ?_, allSimple_of_fragments (fun v hv => hunspread v (harg v hv))
      (fun v hv => ih v (harg v hv)) hall⟩
    intro b' hb'
    obtain rfl := Shape.repeated.inj hb'
    exact (wellMade_of_repeated ht hl hc ho).countable.least_le

/-! ## Variables and their texts -/

/-- What destructuring gives is a text for each slot, in order.  Where there are no slots it gives nothing and does
not match, so nothing is said of bounds then. -/
theorem of_destructure {d : Datatype} (hd : d.Simple) {s : String} {pairs : List (TypedVar × String)}
    (h : destructure d (.string s) settings = .ok pairs) :
    (d.slots false false ≠ [] → d.overflows = false) ∧
      List.Forall₂ (fun slot pair => pair.1 = slot.var ∧
        (pair.2.toList ∈ slot.language ∨ slot.skippable = true ∧ pair.2 = ""))
        (d.slots false false) pairs := by
  have hvars := d.map_var_slots false false
  unfold destructure at h
  dsimp only at h
  -- without slots the early return gives no pairs
  by_cases hempty : (d.typedVars false).isEmpty = true
  · rw [if_pos hempty, Check.pure_run, Except.ok.injEq] at h
    rw [List.isEmpty_iff.mp hempty, List.map_eq_nil_iff] at hvars
    rw [hvars, ← h]
    exact ⟨fun hne => absurd rfl hne, .nil⟩
  · rw [if_neg hempty] at h
    obtain ⟨captures?, hmatch, h⟩ := Check.bind_eq_ok.mp h
    have hmatch : d.fullMatch? s = .ok captures? := Check.lift_eq_ok.mp hmatch
    unfold Datatype.fullMatch? at hmatch
    -- a pattern that counts too far is a fault, and no match is an error
    by_cases hover : d.overflows = true
    · rw [if_pos hover] at hmatch
      exact absurd hmatch (by simp)
    · rw [if_neg hover, Except.ok.injEq] at hmatch
      cases captures? with
      | none => exact absurd h Check.fail_ne_ok
      | some captures =>
        -- the whole text was read, so the captures fill the slots in order
        have hfilled := Datatype.filled_of_whole hd hmatch
        obtain rfl := Except.ok.inj h
        refine ⟨fun _ => Bool.eq_false_iff.mpr hover, List.forall₂_iff_get.mpr ⟨?_, ?_⟩⟩
        · simp [← hvars]
        · intro j hj _
          have hslot : (d.slots false false)[j]? = some (d.slots false false)[j] :=
            List.getElem?_eq_getElem hj
          simpa [← hvars] using hfilled.captured hslot

/-- **Destructured text respects the types of its variables**, as far as the slots are faithful.

Let a pattern be assembled without anything spread, and let it give pairs of variables and texts for some
string.  There is one pair for each slot, in order, with the slot's variable.

* What reads for the slot is the datatype of the variable, or this with letter case left out of account.
* It accepts the text, unless the pattern can match without the slot and the text is empty.
* So if the slot is always read, and by the datatype that is reported, the text is of the type of the
  variable. -/
theorem destructure_respects_types {d : Datatype} (hd : Assembled settings d) {s : String}
    {pairs : List (TypedVar × String)} (h : destructure d (.string s) settings = .ok pairs) :
    List.Forall₂ (fun slot pair => pair.1 = slot.var ∧
        (slot.read = slot.var.datatype ∨ slot.read = slot.var.datatype.folded) ∧
        (slot.read.accepts (.string pair.2) settings = .ok true ∨
          slot.skippable = true ∧ pair.2 = "") ∧
        (slot.Faithful → pair.1.datatype.accepts (.string pair.2) settings = .ok true))
      (d.slots false false) pairs := by
  obtain ⟨hover, hpairs⟩ := of_destructure hd.simple h
  obtain ⟨hlength, hget⟩ := List.forall₂_iff_get.mp hpairs
  refine List.forall₂_iff_get.mpr ⟨hlength, fun j hj hj' => ?_⟩
  obtain ⟨hvar, htext⟩ := hget j hj hj'
  have hmem := List.get_mem (d.slots false false) ⟨j, hj⟩
  generalize (d.slots false false).get ⟨j, hj⟩ = slot at hvar htext hmem ⊢
  generalize pairs.get ⟨j, hj'⟩ = pair at hvar htext ⊢
  have hread : slot.read.Readable :=
    d.readable_slots ⟨hd.simple, hover (List.ne_nil_of_mem hmem)⟩ false false slot hmem
  have haccepts : slot.read.accepts (.string pair.2) settings = .ok true ∨
      slot.skippable = true ∧ pair.2 = "" := htext.imp hread.accepts id
  refine ⟨hvar, d.read_or_folded false false id slot hmem, haccepts, fun hfaithful => ?_⟩
  rcases haccepts with haccepts | ⟨hskipped, _⟩
  · rwa [hvar, ← hfaithful.2]
  · exact absurd (hskipped.symm.trans hfaithful.1) (by decide)

/-! ## A pattern, and the two exceptions -/

/-- A pattern of one variable of a named datatype is assembled, as soon as the macro makes it.  Both exceptions are
such patterns, or have one inside. -/
theorem assembled_variable {shape : Shape} {v : TypedVar} {d : Datatype} (hshape : shape ∈ readingShapes)
    (hunspread : isUnspread (.typedVar v) = true) (hname : v.datatype.isPattern = false)
    (hmake : make shape [.typedVar v] settings = .ok d) : Assembled settings d := by
  refine .make hshape ?_ ?_ hmake
  · intro w hw
    rwa [List.mem_singleton.mp hw]
  · intro w hw e he hpattern
    obtain rfl := List.mem_singleton.mp hw
    cases he
    exact absurd hpattern (by simp [hname])

/-- A letter in upper case, for which a small one may stand. -/
def caselessPlace : Datatype :=
  .pattern .insensitive [.typed (.named "uppercase" false) "place" false] true false

/-- A digit, and then such a letter. -/
def seat : Datatype :=
  .pattern .sequence [.typed (.named "digit" false) "row" false, .type caselessPlace] false false

/-- The seat is assembled: a digit is of text, and so is the pattern for a letter. -/
theorem assembled_seat : Assembled Settings.usual seat := by
  have hplace : Assembled Settings.usual caselessPlace :=
    @assembled_variable _ .insensitive ⟨.named "uppercase" false, "place", false⟩ _
      (by decide) (by decide) (by decide) (by decide)
  refine @Assembled.make _ .sequence
    [.typedVar ⟨.named "digit" false, "row", false⟩, .datatype caselessPlace] _
    (by decide) (by decide) ?_ (by decide)
  intro v hv e he hpattern
  rcases List.mem_cons.mp hv with rfl | hv
  · cases he
    exact absurd hpattern (by decide)
  · obtain rfl := List.mem_singleton.mp hv
    cases he
    exact hplace

/-- Both variables of a seat get text of their types, the second one a small letter. -/
theorem destructure_seat :
    let settings : Settings := Settings.usual
    let place : Datatype := .folded (.named "uppercase" false)
    destructure seat (.string "7c") settings =
        .ok [(⟨.named "digit" false, "row", false⟩, "7"), (⟨place, "place", false⟩, "c")] ∧
      (Datatype.named "digit" false).accepts (.string "7") settings = .ok true ∧
      place.accepts (.string "c") settings = .ok true := by
  intro settings place
  have hpairs : destructure seat (.string "7c") settings =
      .ok [(⟨.named "digit" false, "row", false⟩, "7"), (⟨place, "place", false⟩, "c")] := by
    decide +kernel
  have htyped := destructure_respects_types assembled_seat hpairs
  have hslots : seat.slots false false =
      [⟨⟨.named "digit" false, "row", false⟩, .named "digit" false, false⟩,
        ⟨⟨place, "place", false⟩, place, false⟩] := rfl
  rw [hslots, List.forall₂_cons, List.forall₂_cons] at htyped
  obtain ⟨⟨_, _, _, hrow⟩, ⟨_, _, _, hplace⟩, _⟩ := htyped
  exact ⟨hpairs, hrow ⟨rfl, rfl⟩, hplace ⟨rfl, rfl⟩⟩

/-- **The two exceptions.**  A choice between a pattern with a variable for a digit and another pattern
without one reads what the other reads, and gives the variable the empty text, which is no digit.  A
pattern that leaves letter case out of account, around one with a variable for a letter in upper case,
gives the variable a small letter, and reports it as one for upper case. -/
theorem skipped_and_folded :
    let settings : Settings := Settings.usual
    let one (name : String) : Datatype :=
      .pattern .sequence [.typed (.named name false) "x" false] false false
    let skipping : Datatype := .pattern .either [.type (one "digit"), .text "a"] false false
    let folding : Datatype := .pattern .insensitive [.type (one "uppercase")] true false
    (Assembled settings skipping ∧
      destructure skipping (.string "a") settings = .ok [(⟨.named "digit" false, "x", false⟩, "")] ∧
      (Datatype.named "digit" false).accepts (.string "") settings = .ok false) ∧
    (Assembled settings folding ∧
      destructure folding (.string "a") settings =
        .ok [(⟨.named "uppercase" false, "x", false⟩, "a")] ∧
      (Datatype.named "uppercase" false).accepts (.string "a") settings = .ok false) := by
  intro settings one skipping folding
  have hdigit : Assembled settings (one "digit") :=
    @assembled_variable _ .sequence ⟨.named "digit" false, "x", false⟩ _
      (by decide) (by decide) (by decide) (by decide +kernel)
  have hupper : Assembled settings (one "uppercase") :=
    @assembled_variable _ .sequence ⟨.named "uppercase" false, "x", false⟩ _
      (by decide) (by decide) (by decide) (by decide +kernel)
  -- both are put together of such patterns; then they are run
  have hskipping : Assembled settings skipping := by
    refine @Assembled.make _ .either [.datatype (one "digit"), .string "a"] _ (by decide) (by decide) ?_
      (by decide +kernel)
    intro v hv e he _
    rcases List.mem_cons.mp hv with rfl | hv
    · cases he
      exact hdigit
    · obtain rfl := List.mem_singleton.mp hv
      cases he
  have hfolding : Assembled settings folding := by
    refine @Assembled.make _ .insensitive [.datatype (one "uppercase")] _ (by decide) (by decide) ?_
      (by decide +kernel)
    intro v hv e he _
    obtain rfl := List.mem_singleton.mp hv
    cases he
    exact hupper
  refine ⟨⟨hskipping, ?_, ?_⟩, ⟨hfolding, ?_, ?_⟩⟩
  all_goals decide +kernel

end Pattern

end StoryValues
