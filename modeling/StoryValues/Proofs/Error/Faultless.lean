import StoryValues.Proofs.Error.Rendering
import StoryValues.Proofs.Value.Verdicts

/-
  CHECKS WITHOUT FAULTS.  A check that stops with nothing but story errors (`Check.Faultless`) can be taken by a
  story: whatever it is asked, there is an answer or an error.

  An error is made from a message and a kind, and making one is a fault where there is nothing to say or nothing
  explains the kind.  With the bundled catalogue neither happens to the library itself:

  1. **All templates of one line** have text of their own, so that what they are filled with does not matter
     (`speaks_bundled`), and a renderer that does what is documented gives a message (`gives_message`).
  2. **All kinds that the library uses are explained** there, so an error of one of them is made wherever there is
     a message (`faultless_fail`, `faultless_failWith`).
-/

namespace StoryValues

/-- A failure that a story can meet. -/
def Failure.IsStory (e : Failure) : Prop := ∃ s, e = .story s

namespace Check

variable {α β : Type} {settings : Settings}

/-- The check stops with story errors only. -/
abbrev Faultless (settings : Settings) (c : Check α) : Prop := StopsOnly settings Failure.IsStory c

/-- A check may be allowed to stop in more ways. -/
theorem StopsOnly.mono {allowed allowed' : Failure → Prop} {c : Check α} (h : StopsOnly settings allowed c)
    (hsub : ∀ e, allowed e → allowed' e) : StopsOnly settings allowed' c := fun e he => hsub e (h e he)

/-- What answers has no fault. -/
theorem Answers.faultless {c : Check α} (h : Answers settings c) : Faultless settings c := h.mono fun _ => False.elim

/-- A result is given. -/
theorem faultless_pure (a : α) : Faultless settings (pure a) := .of_ok rfl

/-- A story error is no fault. -/
theorem faultless_story (e : StoryError) : Faultless settings (Check.story e : Check α) := by
  rintro _ ⟨⟩
  exact ⟨e, rfl⟩

/-- A result that is there. -/
theorem faultless_lift {r : Except Fault α} (h : ∃ a, r = .ok a) : Faultless settings (Check.lift r) := by
  obtain ⟨a, rfl⟩ := h
  exact .of_ok rfl

/-- A loop over a list stops where one of its steps does. -/
theorem StopsOnly.forIn {allowed : Failure → Prop} {f : α → β → Check (ForInStep β)} {xs : List α} {b : β}
    (h : ∀ x ∈ xs, ∀ b, StopsOnly settings allowed (f x b)) : StopsOnly settings allowed (ForIn.forIn xs b f) := by
  induction xs generalizing b with
  | nil => exact .of_ok rfl
  | cons x xs ih =>
    obtain ⟨hx, hxs⟩ := List.forall_mem_cons.mp h
    rw [List.forIn_cons]
    refine StopsOnly.bind (hx b) fun step _ => ?_
    cases step with
    | done b => exact .of_ok rfl
    | yield b => exact ih hxs

/-- The check gives a result, and one with this property. -/
def Gives (settings : Settings) (c : Check α) (P : α → Prop) : Prop := ∃ a, c settings = .ok a ∧ P a

namespace Gives

variable {c : Check α} {P : α → Prop}

/-- A result is given, and has the property. -/
theorem pure {a : α} (h : P a) : Gives settings (Pure.pure a : Check α) P := ⟨a, rfl, h⟩

/-- A result that is there. -/
theorem lift {r : Except Fault α} (h : ∃ a, r = .ok a) : Gives settings (Check.lift r) fun a => r = .ok a := by
  obtain ⟨a, rfl⟩ := h
  exact ⟨a, rfl, rfl⟩

/-- What follows is done with the result, so its property may be used. -/
theorem bind {f : α → Check β} {Q : β → Prop} (hc : Gives settings c P) (hf : ∀ a, P a → Gives settings (f a) Q) :
    Gives settings (c >>= f) Q := by
  obtain ⟨a, hrun, ha⟩ := hc
  obtain ⟨b, hb, hQ⟩ := hf a ha
  exact ⟨b, (bind_of_ok hrun).trans hb, hQ⟩

/-- What follows is without faults if it is so with the result. -/
theorem faultless_bind {f : α → Check β} (hc : Gives settings c P) (hf : ∀ a, P a → Faultless settings (f a)) :
    Faultless settings (c >>= f) := by
  obtain ⟨a, hrun, ha⟩ := hc
  refine StopsOnly.bind (.of_ok hrun) fun a' ha' => ?_
  obtain rfl := Except.ok.inj (hrun.symm.trans ha')
  exact hf a ha

end Gives

/-- Setting story errors aside, a check without faults gives an answer. -/
theorem answers_attempt {c : Check α} (h : Faultless settings c) : Answers settings c.attempt := by
  intro e he
  unfold attempt at he
  split at he
  · cases he
  · cases he
  · rename_i f hf
    obtain ⟨s, hs⟩ := h _ hf
    cases hs

/-- So does looking through several values. -/
theorem faultless_guardErrors (vs : List Value) : Faultless settings (Value.guardErrors vs) := by
  unfold Value.guardErrors
  split
  · exact faultless_story _
  · exact faultless_pure _

end Check

/-! ## Messages -/

/-- Text behind other text. -/
theorem append_ne_empty_left {s : String} (h : s ≠ "") (t : String) : s ++ t ≠ "" :=
  fun hst => h (String.append_eq_empty_iff.mp hst).1

/-- Text in front of other text. -/
theorem append_ne_empty_right (s : String) {t : String} (h : t ≠ "") : s ++ t ≠ "" :=
  fun hst => h (String.append_eq_empty_iff.mp hst).2

namespace Template

namespace Markup

/-- Whether a template has text outside all of its tags. -/
def speaks : Markup → Bool
  | done => false
  | literal l rest => !l.chars.isEmpty || rest.speaks
  | field _ rest => rest.speaks
  | group _ _ _ rest => rest.speaks

/-- A template that has such text says something, whatever its fields are given. -/
theorem filled_ne_empty {m : Markup} (h : m.speaks = true) (escape : String → String)
    (params : List (String × Param)) : m.filled escape params ≠ "" := by
  induction m with
  | done => exact absurd h Bool.false_ne_true
  | literal l rest ih =>
    rw [filled]
    rcases Bool.or_eq_true _ _ ▸ h with hchars | hrest
    · refine append_ne_empty_left (fun hempty => ?_) _
      have hnil : l.chars = [] := by rw [← String.toList_ofList (l := l.chars), hempty, String.toList_empty]
      rw [hnil] at hchars
      exact Bool.false_ne_true hchars
    · exact append_ne_empty_right _ (ih hrest)
  | field name rest ih => exact append_ne_empty_right _ (ih h)
  | group inverted name body rest _ ih => exact append_ne_empty_right _ (ih h)

mutual

/-- The template that one part is written as, in front of another. -/
def ofSegment? (rest : Markup) : Segment → Option Markup
  | .text s => if h : s.toList.all isPlain = true then some (literal (.of s.toList h) rest) else none
  | .field name => (identifier? name).map fun n => field n rest
  | .group inverted name body => do return group inverted (← identifier? name) (← ofSegments? body) rest
where
  /-- The name of a field, if every character can stand in one. -/
  identifier? (name : String) : Option Identifier :=
    match name.toList with
    | [] => none
    | c :: cs => if h : (c :: cs).all isNameChar = true then some (.of c cs h) else none

/-- The template that parts are written as. -/
def ofSegments? : List Segment → Option Markup
  | [] => some done
  | s :: rest => do ofSegment? (← ofSegments? rest) s

end

/-- Whether characters are a template of one line that says something. -/
def isSpeaking (cs : List Char) : Bool :=
  match nest [] [] (tokensFrom cs.length true [] cs) with
  | .ok segments => (ofSegments? segments).any fun m => m.speaks && m.written == cs
  | .error _ => false

/-- How the characters were cut does not matter, as what comes of it is written the same way. -/
theorem exists_of_isSpeaking {cs : List Char} (h : isSpeaking cs = true) :
    ∃ m : Markup, m.written = cs ∧ m.speaks = true := by
  unfold isSpeaking at h
  split at h
  · obtain ⟨m, -, hm⟩ := (Option.any_eq_true _ _).mp h
    rw [Bool.and_eq_true] at hm
    exact ⟨m, eq_of_beq hm.2, hm.1⟩
  · cases h

end Markup

end Template

namespace Catalogue

open Template (Given Markup Renderer)

/-- The one template of the bundled catalogue that has two lines. -/
def isTwoLines (key : String) : Bool := key == "custom_macro_errors"

/-- **All other bundled templates say something** whatever they are filled with.  Each is read as a template of one
line and looked at once. -/
theorem speaks_bundled :
    ∀ e ∈ bundled.messages, isTwoLines e.1 = true ∨ ∃ m : Markup, e.2 = m.source ∧ m.speaks = true := by
  have hone {cs : List Char} (h : Markup.isSpeaking cs = true) :
      ∃ m : Markup, String.ofList cs = m.source ∧ m.speaks = true := by
    obtain ⟨m, hwritten, hspeaks⟩ := Markup.exists_of_isSpeaking h
    exact ⟨m, congrArg String.ofList hwritten.symm, hspeaks⟩
  simp only [bundled, List.forall_mem_cons, List.not_mem_nil, false_implies, implies_true, and_true]
  refine ⟨?_, ?_, ?_, ?_, ?_, ?_, ?_, ?_, ?_, ?_, ?_, ?_, ?_, .inl rfl, ?_⟩
  -- each template as the characters it is made of, which are then cut and nested
  all_goals exact .inr (hone (by decide +kernel))

/-- Whether a renderer is asked for the template of a key with these fields: none goes by the name of the key, and none
is given an integer that is too long. -/
def canGive (key : String) (given : List (String × Given)) : Bool :=
  (bundled.messages.lookup key).isSome && !isTwoLines key && !takesKey given && given.all fun g => g.2.isShort

/-- Every template of one line of the bundled catalogue makes a message. -/
theorem exists_message {render : Renderer} (hrender : render.Documented) {key : String} {given : List (String × Given)}
    (h : canGive key given = true) : ∃ text, bundled.message render key given = .ok text ∧ text ≠ "" := by
  simp only [canGive, Bool.and_eq_true, Bool.not_eq_true'] at h
  obtain ⟨⟨⟨hkey, hline⟩, hnames⟩, hshort⟩ := h
  obtain ⟨source, hsource⟩ := Option.isSome_iff_exists.mp hkey
  obtain ⟨before, after, hmessages, _⟩ := List.lookup_eq_some_iff.mp hsource
  obtain htwo | ⟨m, rfl, hspeaks⟩ := speaks_bundled (key, source) (by simp [hmessages])
  · exact absurd (hline.symm.trans htwo) Bool.false_ne_true
  · refine ⟨m.filled id (Template.plainParams given), ?_, Markup.filled_ne_empty hspeaks _ _⟩
    rw [message_of_found hsource, hnames, hshort, hrender.render_source]
    rfl

end Catalogue

/-! ## Settings -/

/-- A greater exponent makes no smaller power of ten. -/
theorem tenTo_mono {j k : Nat} (h : j ≤ k) : tenTo j ≤ tenTo k := Nat.pow_le_pow_right (by decide) h

/-- Every digit adds one place at most, as what is no digit counts as zero. -/
theorem numeralValue_lt (ds : List Char) : numeralValue ds < tenTo ds.length := by
  have hdigit (c : Char) : (digitValue? c).getD 0 < 10 := by
    unfold digitValue?
    cases digitRanges.offset? c.toNat with
    | none => decide
    | some k => exact Nat.mod_lt k (by decide)
  -- the digits read so far stand in front of the others
  have hfrom : ∀ n, ds.foldl (fun n c => 10 * n + (digitValue? c).getD 0) n < (n + 1) * tenTo ds.length := by
    induction ds with
    | nil => exact fun n => Nat.lt_of_lt_of_eq (Nat.lt_succ_self n) (Nat.mul_one (n + 1)).symm
    | cons c ds ih =>
      intro n
      have hfirst : 10 * n + (digitValue? c).getD 0 + 1 ≤ (n + 1) * 10 := by have := hdigit c; omega
      calc (c :: ds).foldl (fun n c => 10 * n + (digitValue? c).getD 0) n
          < (10 * n + (digitValue? c).getD 0 + 1) * tenTo ds.length := ih _
        _ ≤ (n + 1) * 10 * tenTo ds.length := Nat.mul_le_mul_right _ hfirst
        _ = (n + 1) * tenTo (c :: ds).length := by rw [Nat.mul_assoc, Nat.mul_comm 10]; rfl
  exact Nat.one_mul (tenTo ds.length) ▸ hfrom 0

/-- **A limit that is read from a text can be written again,** as reading and writing stop at the same number of
digits. -/
theorem Limit.isShort_ofText (s : String) : (Number.int (ofText s)).isShort = true := by
  have hvalue {ds : List Char} (h : ds.length ≤ maxDigits) : numeralValue ds < tenTo maxDigits :=
    Nat.lt_of_lt_of_le (numeralValue_lt ds) (tenTo_mono h)
  have hsign (negative : Bool) (n : Nat) : (if negative = true then -(n : Int) else n).natAbs = n := by
    cases negative
    · rfl
    · exact Int.natAbs_neg n
  have hread {n : Int} (h : read? s = some n) : (Number.int n).isShort = true := by
    obtain ⟨ds, -, h⟩ := Option.bind_eq_some_iff.mp h
    rw [Number.isShort, decide_eq_true_eq]
    split at h
    · rename_i hlength
      rw [← Option.some.inj h, hsign]
      exact hvalue hlength
    · cases h
  rw [ofText]
  cases hs : read? s with
  | none => exact Number.isShort_of_lt (by decide +kernel)
  | some n => exact hread hs

/-- **Settings as the library comes with them:** the bundled catalogue, a renderer that does what is documented, and a
limit that can be written, as all limits can that are read from a text (`Limit.isShort_ofText`). -/
structure Settings.Bundled (settings : Settings) : Prop where
  catalogue : settings.catalogue = Catalogue.bundled
  renderer : settings.renderer.Documented
  limit : (Number.int settings.repeatLimit).isShort = true

/-- The usual settings are those that the library comes with. -/
theorem Settings.bundled_usual : Settings.usual.Bundled where
  catalogue := rfl
  renderer := Template.documented_render
  limit := Number.isShort_of_lt (by decide +kernel)

namespace Check

variable {α β : Type} {settings : Settings} (hsettings : settings.catalogue = Catalogue.bundled)
include hsettings

/-- An error of a kind that the bundled catalogue explains. -/
theorem exists_create_bundled {kind message : String} (explanation : Option String)
    (hkind : (Catalogue.bundled.explanation? kind).isSome = true) (hmessage : message ≠ "") :
    ∃ e, StoryError.create kind message explanation settings = .ok e :=
  (exists_create hmessage (hsettings ▸ hkind)).imp fun _ he => he.1

/-- Stopping with an error of an explained kind is no fault. -/
theorem faultless_fail {kind message : String} (hkind : (Catalogue.bundled.explanation? kind).isSome = true)
    (hmessage : message ≠ "") : Faultless settings (Check.fail kind message : Check α) := by
  obtain ⟨e, he⟩ := exists_create_bundled hsettings none hkind hmessage
  exact StopsOnly.bind (.of_ok he) fun _ _ => faultless_story _

/-- Nor is stopping with one that brings its own explanation. -/
theorem faultless_failWith {kind message explanation : String}
    (hkind : (Catalogue.bundled.explanation? kind).isSome = true) (hmessage : message ≠ "") :
    Faultless settings (Check.failWith kind message explanation : Check α) := by
  obtain ⟨e, he⟩ := exists_create_bundled hsettings (some explanation) hkind hmessage
  exact StopsOnly.bind (.of_ok he) fun _ _ => faultless_story _

omit hsettings in
/-- **A template of the bundled catalogue gives a text that is not empty,** with any renderer that does what is
documented. -/
theorem gives_message (hsettings : settings.Bundled) {key : String} {given : List (String × Template.Given)}
    (h : Catalogue.canGive key given = true) : Gives settings (Check.message key given) fun text => text ≠ "" := by
  obtain ⟨text, htext, hne⟩ := Catalogue.exists_message hsettings.renderer h
  refine ⟨text, ?_, hne⟩
  rw [Check.message, hsettings.catalogue, htext]
  rfl

end Check

end StoryValues
