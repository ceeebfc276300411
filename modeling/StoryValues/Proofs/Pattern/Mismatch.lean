import StoryValues.Pattern.Destructure
import StoryValues.Proofs.Error.Faultless
import StoryValues.Proofs.Pattern.Recognition

/-
  DE-STRUCTURING AND MATCHING ask the same question, each in its own way.

  A pattern that can be asked on its own accepts a string or does not.  To take the string apart is to ask
  again, and what comes of it is as follows.

  1. **With typed variables** the two agree: pairs for the strings that are accepted, a story error for those
     that are not, and the same fault where there is no answer (`destructure_eq`).
  2. **Without typed variables** the string is not looked at.  There is nothing to tell the variables, so the
     answer is the empty list, also for a string that the pattern does not accept (`mismatch_unnoticed`).
-/

namespace StoryValues

namespace Pattern

variable {settings : Settings} {d : Datatype} {s : String}

/-! ## With typed variables and without -/

/-- Without typed variables there is nothing to tell, whatever the string. -/
theorem destructure_of_no_vars (hvars : d.typedVars false = []) :
    destructure d (.string s) settings = .ok [] := by
  unfold destructure
  rw [hvars]
  rfl

/-- Variables with the captures that are numbered from a base on. -/
def pairsFrom (captures : Captures) (base : Nat) (vars : List TypedVar) : List (TypedVar × String) :=
  (vars.zipIdx base).map fun p => (p.1, captured captures p.2)

/-- What is said of a string that does not match. -/
def mismatchText (d : Datatype) (s : String) : String :=
  let name := "the string " ++ quoted s
  s!"I can't de-structure {name} because it doesn't match the pattern {d.source}."

/-- With typed variables it is what the way through the string gives, if there is one. -/
theorem destructure_of_vars (hvars : d.typedVars false ≠ []) :
    destructure d (.string s) settings = match d.fullMatch? s with
      | .error fault => .error (.fault fault)
      | .ok none => Check.fail "operation" (mismatchText d s) settings
      | .ok (some captures) => .ok (pairsFrom captures 0 (d.typedVars false)) := by
  have hempty : ¬ (d.typedVars false).isEmpty = true := fun h => hvars (List.isEmpty_iff.mp h)
  unfold destructure
  dsimp only
  rw [if_neg hempty]
  cases hmatch : d.fullMatch? s with
  | error fault => rfl
  | ok captures? => cases captures? <;> rfl

/-- To not match is a story error wherever errors of its kind are explained. -/
theorem exists_mismatch (hkind : (settings.catalogue.explanation? "operation").isSome = true) (d : Datatype)
    (s : String) : ∃ e, e.kind = "operation" ∧
      (Check.fail "operation" (mismatchText d s) : Check (List (TypedVar × String))) settings =
        .error (.story e) := by
  have hmessage : mismatchText d s ≠ "" := append_ne_empty_right _ (by decide)
  exact Check.exists_fail hkind hmessage

/-! ## The two questions -/

/-- A pattern that can be asked on its own accepts what there is a way through. -/
theorem accepts_eq (hpattern : d.isPattern = true) (hahead : d.isLookAhead = false) :
    d.accepts (.string s) settings = match d.fullMatch? s with
      | .error fault => .error (.fault fault)
      | .ok captures? => .ok captures?.isSome := by
  rw [accepts_string hpattern hahead, Datatype.readsAll]
  cases d.fullMatch? s <;> rfl

/-- **A string is refused exactly on a mismatch, by a pattern with typed variables.**  Let the pattern be one
that can be asked on its own.

* Without typed variables it gives the empty list for every string, whether it accepts it or not.
* With typed variables it gives pairs for the strings that it accepts, a story error for those that it does
  not accept, and where it cannot be asked whether it accepts the string, the same fault. -/
theorem destructure_spec (hpattern : d.isPattern = true) (hahead : d.isLookAhead = false)
    (hkind : (settings.catalogue.explanation? "operation").isSome = true) (s : String) :
    (d.typedVars false = [] → destructure d (.string s) settings = .ok []) ∧
    (d.typedVars false ≠ [] →
      ((∃ pairs, destructure d (.string s) settings = .ok pairs) ↔
        d.accepts (.string s) settings = .ok true) ∧
      ((∃ e, e.kind = "operation" ∧ destructure d (.string s) settings = .error (.story e)) ↔
        d.accepts (.string s) settings = .ok false) ∧
      ∀ fault, destructure d (.string s) settings = .error (.fault fault) ↔
        d.accepts (.string s) settings = .error (.fault fault)) := by
  refine ⟨destructure_of_no_vars, fun hvars => ?_⟩
  rw [destructure_of_vars hvars, accepts_eq hpattern hahead]
  cases d.fullMatch? s with
  | error fault => simp
  | ok captures? =>
    cases captures? with
    | none =>
      obtain ⟨e, hoperation, he⟩ := exists_mismatch hkind d s
      simp [he, hoperation]
    | some captures => simp

/-- The letter n and then a digit for a variable. -/
def numbered : Datatype :=
  .pattern .sequence [.text "n", .typed (.named "digit" false) "x" false] false false

/-- Such a pattern refuses to take apart what it does not accept. -/
theorem destructure_spec_numbered :
    let settings : Settings := Settings.usual
    numbered.accepts (.string "nx") settings = .ok false ∧
      ∃ e, e.kind = "operation" ∧ destructure numbered (.string "nx") settings = .error (.story e) := by
  intro settings
  have hrefused : numbered.accepts (.string "nx") settings = .ok false := by decide +kernel
  obtain ⟨_, hvars⟩ := @destructure_spec settings numbered rfl rfl (by decide +kernel) "nx"
  obtain ⟨_, hmismatch, _⟩ := hvars (List.cons_ne_nil _ _)
  exact ⟨hrefused, hmismatch.mpr hrefused⟩

/-- **A mismatch that nobody is told of.**  A pattern for the letter x alone does not accept the letter y, and
yet takes it apart, into nothing. -/
theorem mismatch_unnoticed :
    let settings : Settings := Settings.usual
    let letter : Datatype := .pattern .sequence [.text "x"] false false
    make .sequence [.string "x"] settings = .ok letter ∧ letter.isLookAhead = false ∧
      letter.accepts (.string "y") settings = .ok false ∧
      destructure letter (.string "y") settings = .ok [] := by
  intro settings letter
  exact ⟨rfl, rfl, by decide +kernel, destructure_of_no_vars rfl⟩

end Pattern

end StoryValues
