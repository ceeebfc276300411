import StoryValues.Datatype.Member
import StoryValues.Text.MacroName

/-
  SIGNATURES say what arguments a macro takes: an entry for each fixed position, and perhaps one for
  all the others, the **rest** entry, with the least number of them.

  1. An entry accepts a value or does not (`Entry.accepts`); some also accept that there is none
     (`Entry.acceptsAbsence`).
  2. An entry is named in messages (`Entry.typeName`).  Kinds that are written as text are looked up
     when they are needed, and an unknown one is a fault then.
-/

namespace StoryValues

/-! ## Entries -/

/-- What a signature asks of one argument. -/
inductive Entry where
  /-- a plain kind by its name -/
  | plain (name : String)
  | kind (k : Kind)
  | optional (inner : Entry)
  /-- all remaining arguments, at least so many -/
  | rest (inner : Entry) (min : Int)
  | either (options : List Entry)
  /-- an entry with its own explanation for arguments that it refuses -/
  | wrapped (inner : Entry) (message : String)
  | range (low high : Number) (whole : Bool)
  | positive
  /-- a value that a datatype accepts -/
  | conforming (d : Datatype)
  | oneOf (names : List String)
  | lambda (clauses : List Clause)
  | any

namespace Entry

/-- The plain kinds with their tests and their names in messages. -/
def plainKinds : List (String × (Value → Except Fault Bool) × String) :=
  [("string", fun v => .ok v.isString, "a string"),
   ("number", fun v => .ok v.isNumber, "a number"),
   ("integer", Value.isInteger, "a whole number"),
   ("boolean", fun v => .ok (Kind.boolean.holds v), "a boolean"),
   ("array", fun v => .ok (Kind.array.holds v), "an array"),
   ("datamap", fun v => .ok (Kind.datamap.holds v), "a datamap"),
   ("dataset", fun v => .ok (Kind.dataset.holds v), "a dataset")]

/-- The bound of a range that has none. -/
def infinity : Number := .real (.infinite false)

/-- The least positive number that counts as one. -/
def leastPositive : Number := .real (.ofRatio false 1 10000)

/-- The name of a range. -/
def rangeName (low high : Number) (whole : Bool) : Except Fault String := do
  let wholeWord := if whole then " whole" else ""
  let startsAtZero := low.sameValue (.int 0)
  let endless := high.sameValue infinity
  if startsAtZero && endless then return s!"a non-negative{wholeWord} number"
  else
    let sign := if Number.lt (.int 0) low then " positive" else ""
    let bounds ←
      if endless then pure ""
      else if startsAtZero then high.text.map fun text => s!" between 0 and {text}"
      else high.text.map fun text => s!" up to {text}"
    return s!"a{sign}{wholeWord} number{bounds}"

/-- How messages show a lambda with these clauses. -/
def lambdaName (clauses : List Clause) : String :=
  let words := (Clause.all.filter clauses.contains).map fun c => c.word ++ " ..."
  "a \"" ++ String.intercalate " " words ++ "\" lambda"

mutual

/-- How a message speaks of what an entry asks for. -/
def typeName : Entry → Except Fault String
  | plain name =>
    match plainKinds.lookup name with
    | some (_, typeName) => .ok typeName
    | none => .error (.missingKey name)
  | kind k => .ok k.typeName
  | optional inner => (typeName inner).map fun text => "(optional) " ++ text
  | rest inner _ => typeName inner
  | wrapped inner _ => typeName inner
  | either options => (typeNames options).map (String.intercalate " or ")
  | range low high whole => rangeName low high whole
  | positive => .ok "a positive number"
  | conforming d => .ok d.objectName
  | oneOf _ => .ok "a case-insensitive string name"
  | lambda clauses => .ok (lambdaName clauses)
  | any => .ok "anything"

/-- How a message speaks of what several entries ask for. -/
def typeNames : List Entry → Except Fault (List String)
  | [] => .ok []
  | e :: es => do
    let first ← typeName e
    let others ← typeNames es
    return first :: others

end

/-- Whether a number is in a range. -/
def inRange (low high : Number) (whole : Bool) : Value → Except Fault Bool
  | .number n =>
    if n.isNumber && low.le n && n.le high then
      if whole then n.isWhole else .ok true
    else .ok false
  | _ => .ok false

/-- Whether a lambda has exactly these clauses. -/
def hasShape (clauses : List Clause) (l : Lambda) : Bool :=
  Clause.all.all fun c => l.has c == clauses.contains c

/-- Whether a datatype says yes to a value; an error is no yes. -/
def conforms (d : Datatype) (v : Value) : Check Bool := do
  match ← (d.accepts v).attempt with
  | .ok yes => return yes
  | .error _ => return false

mutual

/-- Whether an entry accepts a value. -/
def accepts (v : Value) : Entry → Check Bool
  | plain name =>
    match plainKinds.lookup name with
    | some (test, _) => test v
    | none => Check.fault (.missingKey name)
  | kind k => return k.holds v
  | optional inner => accepts v inner
  | rest inner _ => accepts v inner
  | wrapped inner _ => accepts v inner
  | either options => acceptsOne v options
  | range low high whole => inRange low high whole v
  | positive => inRange leastPositive infinity false v
  | conforming d => conforms d v
  | oneOf names =>
    match v with
    | .string s => return names.any fun n => insensitiveName n == insensitiveName s
    | _ => return false
  | lambda clauses =>
    match v with
    | .lambda l => return hasShape clauses l
    | _ => return false
  | any => return !v.isUnstorable

/-- Whether one of several entries accepts a value. -/
def acceptsOne (v : Value) : List Entry → Check Bool
  | [] => return false
  | e :: es => do if ← accepts v e then return true else acceptsOne v es

end

mutual

/-- Whether an entry accepts that there is no argument. -/
def acceptsAbsence : Entry → Bool
  | optional _ => true
  | rest inner _ => acceptsAbsence inner
  | wrapped inner _ => acceptsAbsence inner
  | either options => oneAcceptsAbsence options
  | _ => false

/-- Whether one of several entries accepts that there is no argument. -/
def oneAcceptsAbsence : List Entry → Bool
  | [] => false
  | e :: es => acceptsAbsence e || oneAcceptsAbsence es

end

/-! ## Common entries -/

def string : Entry := plain "string"
def number : Entry := plain "number"
def integer : Entry := plain "integer"
def boolean : Entry := plain "boolean"
def array : Entry := plain "array"
def datamap : Entry := plain "datamap"
def zeroOrMore (e : Entry) : Entry := rest e 0
def oneOrMore (e : Entry) : Entry := rest e 1
def nonNegativeInteger : Entry := range (.int 0) infinity true
def positiveInteger : Entry := range (.int 1) infinity true
def nonNegativeNumber : Entry := range (.int 0) infinity false
def percent : Entry := range (.int 0) (.int 1) false

end Entry

/-! ## Signatures -/

/-- The entries of the fixed positions, and the entry of all others with their least number. -/
structure Signature where
  fixed : List Entry
  rest : Option (Entry × Int)

namespace Signature

/-- All entries in order. -/
def entries (s : Signature) : List Entry := s.fixed ++ (s.rest.map Prod.fst).toList

/-- The signature of entries in order; only the last may be a rest entry. -/
def ofEntries : List Entry → Except Fault Signature
  | [] => .ok ⟨[], none⟩
  | [.rest inner min] => .ok ⟨[], some (inner, min)⟩
  | .rest .. :: _ => .error .restNotLast
  | e :: es => do
    let s ← ofEntries es
    return { s with fixed := e :: s.fixed }

/-- The names of the fixed entries, and that of the rest entry with its least number. -/
def describe (s : Signature) : Except Fault (List String × Option (String × Int)) := do
  let fixed ← Entry.typeNames s.fixed
  match s.rest with
  | none => return (fixed, none)
  | some (inner, min) => return (fixed, some (← inner.typeName, min))

end Signature

end StoryValues
