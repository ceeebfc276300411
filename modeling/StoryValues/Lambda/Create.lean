import StoryValues.Value.Description

/-
  MAKING LAMBDAS, one clause at a time.  A lambda starts from nothing, from a variable, or from a
  lambda that has other clauses already.

  1. A `when` clause stands alone: no variable before it, no other clause with it.
  2. A clause is given once.  Only `where true`, which is what `each` makes, may be replaced.
  3. The loop variable and the accumulating one have different names.
  4. A clause of unknown kind, and one that should be expression text and is not, are faults.
-/

namespace StoryValues

namespace Lambda

/-- A lambda without clauses. -/
def empty : Lambda where
  loop := none
  making := none
  whereTrue := none
  whenTrue := none
  via := none
  source := ""
  tag := none

/-- The variable that a value names. -/
def variableOf? : Value → Option Variable
  | .string s => some ⟨s, none⟩
  | .typedVar v => some ⟨v.name, some v.datatype⟩
  | _ => none

/-- The lambda that a subject stands for when it gets this clause. -/
def ofSubject (clause : Clause) (subject : Value) : Check Lambda :=
  match subject with
  | .lambda l =>
    if clause = .whenTrue ∨ l.whenTrue.isSome then
      let other := ((Clause.all.find? fun c => c != .whenTrue && l.has c).getD clause).word
      Check.fail "syntax" s!"A 'when' lambda cannot have any other clauses, such as '{other}'."
    else if l.has clause && !(clause == .whereTrue && l.whereTrue == some "true") then
      Check.fail "syntax" s!"This lambda has two '{clause.word}' clauses."
    else return l
  | .nothing => return empty
  | other =>
    if clause = .whenTrue then
      Check.fail "syntax" ("A 'when' lambda shouldn't begin with a temporary variable "
        ++ "(just use 'when' followed by the condition).")
    else match variableOf? other with
      | some v => return { empty with loop := some v }
      | none =>
        Check.fail "syntax" "This lambda needs to start with a single temporary variable."

/-- A lambda with a clause set. -/
def withClause (l : Lambda) (clause : Clause) (content : Value) : Check Lambda :=
  match clause with
  | .making =>
    match variableOf? content with
    | some v => return { l with making := some v }
    | none => Check.fail "syntax" "A 'making' clause needs a temporary variable after it."
  | clause =>
    match content with
    | .string text => return match clause with
      | .whereTrue => { l with whereTrue := some text }
      | .whenTrue => { l with whenTrue := some text }
      | _ => { l with via := some text }
    | other => Check.fault (.clauseNotText clause.word other.classText)

/-- The name of a variable that is there and not empty. -/
def nameOf? (v : Option Variable) : Option String :=
  (v.map Variable.name).filter (· != "")

/-- Goes on if the variables of a lambda have different names. -/
def checkNames (l : Lambda) : Check Unit :=
  match nameOf? l.making, nameOf? l.loop with
  | some m, some n =>
    if m = n then
      Check.failWith "syntax" s!"This lambda has two variables named '{m}'."
        "Lambdas should have all-unique parameter names."
    else return ()
  | _, _ => return ()

/-- The lambda of a subject with one more clause. -/
def create (subject : Value) (word : String) (content : Value) (source : String) : Check Value :=
  match Clause.ofWord? word with
  | none => Check.fault (.unknownClause word)
  | some clause => do
    subject.guardError
    let l ← withClause (← ofSubject clause subject) clause content
    checkNames l
    return .lambda { l with source, tag := none }

/-- The lambda that accepts each value of a variable. -/
def each (subject : Value) (source : String) : Check Value :=
  match subject with
  | .nothing =>
    Check.fail "syntax" "This 'each' lambda needs a temporary variable after 'each'."
  | .string s =>
    create subject Clause.whereTrue.word (.string "true") (if source = "" then s!"each {s}" else source)
  | other => create other Clause.whereTrue.word (.string "true") source

end Lambda

end StoryValues
