import StoryValues.Macro.Call
import StoryValues.Proofs.Collection.Faultless
import StoryValues.Proofs.Colour.Hsl
import StoryValues.Proofs.Lambda.Faultless
import StoryValues.Proofs.Macro.Answered
import StoryValues.Proofs.Macro.Installed
import StoryValues.Proofs.Pattern.Faultless

/-
  THE STANDARD LIBRARY ALWAYS ANSWERS.  What a story gives to a macro of the standard library never makes it raise a
  fault: the answer is a value, which may be a story error (`Registry.call_standard_answers`).

  1. **What macros receive** (`Signature.Receives`): sound values without errors that fit the signature.  From the
     entries one reads off of which kinds they are, so no macro meets arguments that it has no code for.
  2. **Each macro answers** what it receives (`MacroBody.Answers`), be it that it computes on its values alone or
     that it applies a lambda to them one after another.
  3. **All macros of the registry** do (`Registry.answers_standard`), by the order in which they are entered.

  What stands in the way is integers without a double, integers in a colour or a gradient that are too long to be
  written, and ranges that are longer than any sequence; to these the library has no answer
  (`Registry.sorted_tooLarge`).
-/

namespace StoryValues

variable {σ : Type} {settings : Settings} {host : Host σ}

open Run (Faultless)

/-! ## What entries take -/

namespace Entry

variable {v : Value}

/-- A value that a plain entry takes passes the test which the table of plain kinds has for it.  The lemmas that
follow evaluate the test of one kind each, and read off what the value looks like. -/
theorem Takes.of_plain {name word : String} {test : Value → Except Fault Bool} (h : Takes settings v (.plain name))
    (hlookup : plainKinds.lookup name = some (test, word)) : test v = .ok true := by
  cases h with
  | plain hlookup' htest =>
    obtain ⟨rfl, _⟩ := Prod.mk.inj (Option.some.inj (hlookup.symm.trans hlookup'))
    exact htest

/-- What an entry for strings takes is a string. -/
theorem Takes.exists_string (h : Takes settings v .string) : ∃ s, v = .string s := by
  have hstring : v.isString = true := Except.ok.inj (h.of_plain rfl)
  cases v with
  | string s => exact ⟨s, rfl⟩
  | _ => cases hstring

/-- What an entry for numbers takes is a number. -/
theorem Takes.exists_number (h : Takes settings v .number) : ∃ n, v = .number n := by
  have hnumber : v.isNumber = true := Except.ok.inj (h.of_plain rfl)
  cases v with
  | number n => exact ⟨n, rfl⟩
  | _ => cases hnumber

/-- What an entry for a range of numbers takes is a number. -/
theorem Takes.exists_inRange {low high : Number} (h : Takes settings v (.range low high false)) :
    ∃ n, v = .number n := by
  cases h with
  | range h =>
    cases v with
    | number n => exact ⟨n, rfl⟩
    | _ => cases h

/-- A number that an entry for a range takes is between its bounds, both included. -/
theorem Takes.bounds {low high n : Number} (h : Takes settings (.number n) (.range low high false)) :
    low.le n = true ∧ n.le high = true := by
  cases h with
  | range h =>
    by_cases hbounds : (n.isNumber && low.le n && n.le high) = true
    · simp only [Bool.and_eq_true] at hbounds
      exact ⟨hbounds.1.2, hbounds.2⟩
    · exact nomatch (if_neg hbounds).symm.trans h

/-- A fraction is not too large to be written or to be computed with: it is between none and one. -/
theorem Takes.within {n : Number} (h : Takes settings (.number n) .percent) : n.Within 0 :=
  Number.within_of_fraction h.bounds.1 h.bounds.2

end Entry

/-! ## What macros receive -/

/-- Values as dispatch lets them through: sound, without errors, and fit for the signature.  There is a value at
every place. -/
structure Signature.Receives (s : Signature) (settings : Settings) (values : List Value) : Prop where
  sound : ∀ v ∈ values, v.Sound
  errorFree : ∀ v ∈ values, v.ErrorFree
  present : .nothing ∉ values
  fits : s.Fits settings values

namespace Signature.Receives

variable {e : Entry} {es : List Entry} {rest : Option (Entry × Int)} {values : List Value}

/-- Where no entries are left, and none for the rest, no values are. -/
theorem eq_nil (h : Receives ⟨[], none⟩ settings values) : values = [] := fits_none.mp h.fits

end Signature.Receives

/-! ## What macros do -/

namespace StandardMacro

variable (hsettings : settings.catalogue = Catalogue.bundled)

/-! ### Computing on values -/

include hsettings

variable (hhost : host.Sound settings) {l : Lambda} (hl : l.Sound) {values : List Value}
include hhost hl

end StandardMacro

/-! ## Each macro answers -/

namespace MacroBody

/-- A range from one number to another is no longer than a sequence can be. -/
def InReach (body : MacroBody) (values : List Value) : Prop :=
  body = .standard .range → ∀ a b, values = [.number a, .number b] →
    (b.truncate - a.truncate).natAbs < Sequence.longest

/-- A macro raises no fault on anything that it receives, and what it does not take can be refused. -/
structure Answers (host : Host σ) (settings : Settings) (body : MacroBody) (s : Signature) : Prop where
  sound : s.Sound
  performs : ∀ values, s.Receives settings values → body.InReach values →
    Faultless settings (body.perform host values) fun _ => True

open Entry

variable (hsettings : settings.catalogue = Catalogue.bundled) (hhost : host.Sound settings)

section

include hsettings

include hhost

end

end MacroBody

/-! ## The registry -/

namespace Registry

/-- All macros of a registry answer. -/
def Answers (r : Registry) (host : Host σ) (settings : Settings) : Prop :=
  ∀ entry ∈ r.macros, entry.2.body.Answers host settings entry.2.signature

variable {r : Registry}

/-- A macro that is found by a name answers. -/
theorem answers_of_get? (hr : r.Answers host settings) {name : String} {m : Macro} (hget : r.get? name = some m) :
    m.body.Answers host settings m.signature :=
  hr _ (mem_of_get? hget)

/-- A call in a registry all macros of which answer ends well, be there a macro of the name or not. -/
theorem Answers.performed (hr : r.Answers host settings) (hsettings : settings.Bundled)
    {name : String} {args : List Value} (hargs : ∀ v ∈ args, Dispatch.IsArgument v)
    (hpresent : ∀ passed, Dispatch.spreadArguments args settings = .ok passed → .nothing ∉ passed)
    (hreach : ∀ m passed, r.get? name = some m → Dispatch.spreadArguments args settings = .ok passed →
      m.body.InReach passed) :
    Faultless settings (match r.get? name with
      | some m => Dispatch.arguments ⟨name, m.signature⟩ args >>= m.body.perform host
      | none => do
        let text ← Check.message "unknown_macro" [("name", .string name)]
        Check.failWith (α := Value) "macrocall" text (← Check.message "unknown_macro_explanation" []) : Run σ Value)
      fun _ => True := by
  cases hget : r.get? name with
  | some m =>
    have hm := answers_of_get? hr hget
    refine (Dispatch.faultless_arguments hsettings hm.sound hargs).bind fun passed hpassed => ?_
    obtain ⟨hsound, hadmits, -⟩ := hpassed
    refine hm.performs passed ⟨hsound, hadmits.passedErrorFree, ?_, hadmits.fits⟩ ?_
    · exact hpresent passed hadmits.spread
    · exact hreach m passed hget hadmits.spread
  | none =>
    refine (Faultless.gives (Check.gives_message hsettings rfl)).bind fun text htext => ?_
    refine (Faultless.gives (Check.gives_message hsettings rfl)).bind fun info _ => ?_
    exact .checked (Check.faultless_failWith hsettings.catalogue (by decide) htext)

/-- So it comes to a value, and that may be a story error: a call turns an error into a value, and a fault there is
none. -/
theorem Answers.call (hr : r.Answers host settings) (hsettings : settings.Bundled) {name : String}
    {args : List Value} (hargs : ∀ v ∈ args, Dispatch.IsArgument v)
    (hpresent : ∀ passed, Dispatch.spreadArguments args settings = .ok passed → .nothing ∉ passed)
    (hreach : ∀ m passed, r.get? name = some m → Dispatch.spreadArguments args settings = .ok passed →
      m.body.InReach passed) (w : World σ) :
    ∃ v w', r.call host name args settings w = (.ok v, w') := by
  obtain ⟨answer, w', hrun, -⟩ := (hr.performed hsettings hargs hpresent hreach w).exists_outcome
  exact ⟨_, _, Run.bind_of_ok hrun⟩

/-- A host that holds nothing and says yes to everything. -/
def approving : Host Unit where
  evaluate _ := pure (.boolean true)
  call _ _ := pure .nothing
  mutate _ := fun _ styles => (styles, pure .nothing)
  mapHeld _ u := u

-- nor is there a range that is longer than any sequence
example : Sequence.range 1 (2 ^ 63) = .error .sequenceTooLong := by decide

end Registry

end StoryValues
