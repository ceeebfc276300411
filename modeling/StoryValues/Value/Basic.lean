import StoryValues.Datatype.Basic
import StoryValues.Error.Basic

/-
  VALUES of a story: everything that an expression may give and a variable may hold.

  Plain data are booleans, numbers, strings and arrays.  Collections are datamaps, whose names keep
  the order in which they were first set, and datasets, whose members are kept in the order in which
  they were added.  The other kinds are datatypes, typed variables, spread values, styling chains
  (changers), deferred calls (commands), colours, gradients, hook names, lambdas and custom macros.
  Code of the host that a command or a custom macro runs is known here only by its number.

  1. **Sameness and identity.**  Datamaps and datasets carry a tag because they can be changed in
     place; it plays no part when they are compared.  Errors, commands, lambdas and custom macros
     carry one because nothing else tells two of them apart.
  2. **Errors inside arrays.**  `Value.firstError?` looks into arrays, at any depth, and into nothing
     else.
-/

namespace StoryValues

/-! ## Parts of values -/

/-- A name in a datamap: text or a number. -/
inductive Name where
  | text (s : String)
  | number (n : Number)
  deriving DecidableEq

/-- Whether two names name the same entry: equal texts, or numbers of the same value. -/
def Name.same : Name → Name → Bool
  | .text s, .text t => s == t
  | .number m, .number n => m.sameValue n
  | _, _ => false

/-- The text of a name, in which names of both kinds are compared. -/
def Name.shown : Name → String
  | .text s => s
  | .number n => n.written

/-- Whether a name can be written: a number must not be too long. -/
def Name.isShort : Name → Bool
  | .text _ => true
  | .number n => n.isShort

/-- Writes a name; a number that is too long is a fault. -/
def Name.format : Name → Except Fault String
  | .text s => .ok s
  | .number n => n.format

/-- A name is written as it is shown, unless it is too long. -/
theorem Name.format_eq (name : Name) :
    name.format = if name.isShort then .ok name.shown else .error .integerTooLong := by
  cases name <;> rfl

/-- What was written was not too long. -/
theorem Name.isShort_of_format {name : Name} {s : String} (h : name.format = .ok s) : name.isShort = true := by
  rw [format_eq] at h
  split at h
  · assumption
  · cases h

/-- A colour: three channels up to 255, and an opacity up to 1. -/
structure Colour where
  red : Number
  green : Number
  blue : Number
  alpha : Number
  deriving DecidableEq

/-- A blend of colours along a line: its angle, and the colours with their positions. -/
structure Gradient where
  angle : Number
  stops : List (Number × Colour)
  deriving DecidableEq

/-- A variable of a lambda, with its datatype if it is restricted to one. -/
structure Variable where
  name : String
  datatype : Option Datatype
  deriving DecidableEq

/-- The clauses of a lambda. -/
inductive Clause where
  | making
  | whereTrue
  | whenTrue
  | via
  deriving DecidableEq

namespace Clause

/-- All clauses, in the order in which a lambda writes them. -/
def all : List Clause := [making, whereTrue, whenTrue, via]

/-- The word that starts a clause. -/
def word : Clause → String
  | making => "making"
  | whereTrue => "where"
  | whenTrue => "when"
  | via => "via"

/-- The clause that a word starts. -/
def ofWord? (s : String) : Option Clause := all.find? fun c => c.word == s

/-- A clause is known from its word. -/
theorem ofWord?_word (c : Clause) : ofWord? c.word = some c := by
  cases c <;> decide

end Clause

/-- A lambda: a loop variable, an accumulating one, a guard, and a transform.  The guard and the
transform are expression text; `source` is the text it was read from, if there is one. -/
structure Lambda where
  loop : Option Variable
  making : Option Variable
  whereTrue : Option String
  whenTrue : Option String
  via : Option String
  source : String
  tag : Tag
  deriving DecidableEq

/-- A macro that a story defined: typed parameters, and a body kept by the host. -/
structure CustomMacro where
  params : List TypedVar
  body : Nat
  source : String
  tag : Tag
  deriving DecidableEq

/-- What running a command does: check an assertion, or run code of the host. -/
inductive Action where
  | assertion
  | hosted (code : Nat)
  deriving DecidableEq

/-! ## Values -/

/-- A value of a story. -/
inductive Value where
  | nothing
  | boolean (b : Bool)
  | number (n : Number)
  | string (s : String)
  | array (items : List Value)
  | datamap (tag : Tag) (entries : List (Name × Value))
  | dataset (tag : Tag) (members : List Value)
  | error (e : StoryError)
  | datatype (d : Datatype)
  | typedVar (v : TypedVar)
  | spread (v : Value)
  | changer (nodes : List (String × List Value))
  | command (tag : Tag) (name : String) (params : List Value) (action : Action)
  | colour (c : Colour)
  | gradient (g : Gradient)
  | hooks (names : List String)
  | lambda (l : Lambda)
  | custom (m : CustomMacro)
  | filtered

namespace Value

/-- The value of a name. -/
def ofName : Name → Value
  | .text s => .string s
  | .number n => .number n

/-- Whether this is a number; a double that is no number is none. -/
def isNumber : Value → Bool
  | .number n => n.isNumber
  | _ => false

/-- Whether this is a string. -/
def isString : Value → Bool
  | .string _ => true
  | _ => false

/-- Typed variables and spread values only make sense inside a call, and cannot be stored. -/
def isUnstorable : Value → Bool
  | .typedVar _ | .spread _ => true
  | _ => false

/-- Composite values: all kinds but plain data, collections and errors. -/
def isComposite : Value → Bool
  | .datatype _ | .typedVar _ | .spread _ | .changer _ | .command .. | .colour _ | .gradient _
  | .hooks _ | .lambda _ | .custom _ => true
  | _ => false

/-- The first value that a test refuses.  If that is nothing, there is no objection to any. -/
def objection? (test : Value → Bool) (vs : List Value) : Option Value :=
  match vs.find? fun v => !test v with
  | some .nothing => none
  | other => other

/-! ## Errors inside arrays -/

mutual

/-- The error that a value is, or the first one in an array at any depth. -/
def firstError? : Value → Option StoryError
  | .error e => some e
  | .array items => firstErrorIn? items
  | _ => none

/-- The first error among values. -/
def firstErrorIn? : List Value → Option StoryError
  | [] => none
  | v :: vs => match firstError? v with
    | some e => some e
    | none => firstErrorIn? vs

end

/-- Goes on with a value unless it is, or holds in arrays, an error. -/
def guardError (v : Value) : Check Unit :=
  match v.firstError? with
  | some e => Check.story e
  | none => pure ()

/-- Goes on unless a value among these is, or holds in arrays, an error. -/
def guardErrors (vs : List Value) : Check Unit :=
  match firstErrorIn? vs with
  | some e => Check.story e
  | none => pure ()

/-- A result as a value: a story error is a value too, a fault is not. -/
def ofOutcome (c : Check Value) : Check Value := do
  match ← c.attempt with
  | .ok v => return v
  | .error e => return .error e

/-! ## Copying -/

/-- A copy that can be changed without changing the original: a collection of its own with the same
contents.  All other values never change and are their own copies. -/
def clone : Value → Value
  | .datamap _ entries => .datamap none entries
  | .dataset _ members => .dataset none members
  | v => v

end Value

end StoryValues
