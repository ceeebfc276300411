import StoryValues.Value.Basic
import StoryValues.Text.NaturalKey

/-
  PRINTING values as source text, and sorting them.

  1. **Canonical order.**  A datamap prints its entries in natural order of their names, a dataset
     its members in natural order of what they are, so the order in which they were added does not
     show.  The natural key of a value is that of its number, of its text, or of its source.
  2. **Errors have no source.**  `Value.source` refuses a value that is, or holds in arrays, an
     error.  `Value.print` shows an error that it meets elsewhere the way it is inspected.
  3. **Faults** come in the order in which a reader would meet them: first the keys, in the order in
     which members were added, then the members' texts, in the order printed.
-/

namespace StoryValues

/-- Sorts by key.  Entries with equal keys keep their order. -/
def sortByKey (keyed : List (NaturalKey × α)) : List α :=
  (keyed.mergeSort fun a b => a.1.le b.1).map Prod.snd

/-- Sorting by key moves entries and loses none. -/
theorem perm_sortByKey (keyed : List (NaturalKey × α)) :
    (sortByKey keyed).Perm (keyed.map Prod.snd) :=
  (List.mergeSort_perm keyed _).map Prod.snd

/-- All results in order, or the first fault. -/
def collect : List (Except Fault α) → Except Fault (List α)
  | [] => .ok []
  | r :: rs => do
    let a ← r
    let as ← collect rs
    return a :: as

/-- The key of a name. -/
def Name.key : Name → Except Fault NaturalKey
  | .text s => .ok (NaturalKey.ofText s)
  | .number n => NaturalKey.ofNumber n

/-- A name as source text.  Whoever prints names has sorted them, and a number that has a key is short. -/
def Name.source : Name → String
  | .text s => quoted s
  | .number n => n.written

namespace Colour

/-- The channels of a colour with its opacity. -/
def channels (c : Colour) : List Number := [c.red, c.green, c.blue, c.alpha]

/-- A colour as source text. -/
def source (c : Colour) : Except Fault String := do
  let channels ← c.channels.mapM Number.format
  return "(rgba:" ++ String.intercalate "," channels ++ ")"

end Colour

namespace Gradient

/-- The position and the colour of a stop as source texts. -/
def stopTexts (stop : Number × Colour) : Except Fault (List String) := do
  return [← stop.1.format, ← stop.2.source]

/-- A gradient as source text. -/
def source (g : Gradient) : Except Fault String := do
  let angle ← g.angle.format
  let stops ← g.stops.mapM stopTexts
  return "(gradient:" ++ String.intercalate "," (angle :: stops.flatten) ++ ")"

end Gradient

/-- Hook names as source text. -/
def hooksSource (names : List String) : String :=
  String.intercalate " + " (names.map fun n => "?" ++ n)

/-- A variable of a lambda as source text. -/
def Variable.source (v : Variable) : String :=
  match v.datatype with
  | some d => d.source ++ "-type " ++ v.name
  | none => v.name

namespace Lambda

/-- Whether a lambda has a clause. -/
def has (l : Lambda) : Clause → Bool
  | .making => l.making.isSome
  | .whereTrue => l.whereTrue.isSome
  | .whenTrue => l.whenTrue.isSome
  | .via => l.via.isSome

/-- The clauses of a lambda, in the order in which it writes them. -/
def shape (l : Lambda) : List Clause := Clause.all.filter l.has

/-- The part of the source that names a variable, unless its name is empty. -/
def variableSource (front : String) : Option Variable → List String
  | some v => if v.name = "" then [] else [front ++ v.source]
  | none => []

/-- The part of the source that gives a clause its text. -/
def clauseSource (c : Clause) : Option String → List String
  | some text => [c.word ++ " " ++ text]
  | none => []

/-- A lambda as source text: the text it was read from, else its variables and clauses in order. -/
def sourceText (l : Lambda) : String :=
  if l.source ≠ "" then l.source
  else String.intercalate " "
    (variableSource "" l.loop ++ variableSource "making " l.making
      ++ clauseSource .whereTrue l.whereTrue ++ clauseSource .whenTrue l.whenTrue
      ++ clauseSource .via l.via)

end Lambda

/-- A custom macro as source text; its body is not shown. -/
def CustomMacro.sourceText (m : CustomMacro) : String :=
  if m.source ≠ "" then m.source
  else "(macro:" ++ String.join (m.params.map fun p => p.source ++ ",") ++ "[])"

namespace Value

/-! ## Printing -/

/-- The source of a value whose printed text is known: errors are refused. -/
def sourceOf (v : Value) (printed : Except Fault String) : Except Fault String :=
  match v.firstError? with
  | some e => .error (.printedError e.inspected)
  | none => printed

/-- The natural key of a value whose printed text is known. -/
def keyOf (v : Value) (printed : Except Fault String) : Except Fault NaturalKey :=
  match v with
  | .string s => .ok (NaturalKey.ofText s)
  | .number n =>
    if n.isNumber then NaturalKey.ofNumber n else printed.map NaturalKey.ofText
  | v => (v.sourceOf printed).map NaturalKey.ofText

/-- A call of a macro as source text, from the texts of its arguments. -/
def callText (name : String) (args : List String) : String :=
  "(" ++ name ++ ":" ++ String.intercalate "," args ++ ")"

mutual

/-- A value as text: source text, except that nothing and an error show themselves as they are. -/
def print : Value → Except Fault String
  | .nothing => .ok "None"
  | .boolean b => .ok (if b then "true" else "false")
  | .number n => n.format
  | .string s => .ok (quoted s)
  | .array items => do
    let texts ← collect (printAll items)
    return callText "a" texts
  | .datamap _ entries => do
    let texts := printEntries entries
    let keys ← collect (entries.map fun e => e.1.key)
    let texts ← collect (sortByKey (keys.zip texts))
    return callText "dm" texts
  | .dataset _ members => do
    let texts := printAll members
    let keys ← collect (List.zipWith keyOf members texts)
    let texts ← collect (sortByKey (keys.zip texts))
    return callText "ds" texts
  | .error e => .ok e.inspected
  | .datatype d => .ok d.source
  | .typedVar v => .ok v.source
  | .spread v => do
    let text ← v.sourceOf (print v)
    return "..." ++ text
  | .changer nodes => do
    let texts ← collect (printNodes nodes)
    return String.intercalate "+" texts
  | .command _ name params _ => do
    let texts ← collect (List.zipWith sourceOf params (printAll params))
    return callText name texts
  | .colour c => c.source
  | .gradient g => g.source
  | .hooks names => .ok (hooksSource names)
  | .lambda l => .ok l.sourceText
  | .custom m => .ok m.sourceText
  | .filtered => .ok "FILTERED"

/-- The texts of values. -/
def printAll : List Value → List (Except Fault String)
  | [] => []
  | v :: vs => print v :: printAll vs

/-- The texts of entries: the name, a comma, and the value. -/
def printEntries : List (Name × Value) → List (Except Fault String)
  | [] => []
  | (name, v) :: rest => (print v).map (fun text => name.source ++ "," ++ text) :: printEntries rest

/-- The texts of the nodes of a chain. -/
def printNodes : List (String × List Value) → List (Except Fault String)
  | [] => []
  | (name, params) :: rest =>
    (collect (List.zipWith sourceOf params (printAll params))).map (callText name) :: printNodes rest

end

/-- Printing many values is printing each of them, so that what is printed is a list of answers. -/
theorem printAll_eq_map (vs : List Value) : printAll vs = vs.map print := by
  induction vs with
  | nil => rfl
  | cons v vs ih => rw [printAll, ih, List.map_cons]

/-- An array prints its items one after another. -/
theorem print_array (items : List Value) :
    print (.array items) = collect (items.map print) >>= fun texts => pure (callText "a" texts) := by
  rw [print, printAll_eq_map]

/-- A value as source text that makes it again.  Errors have none. -/
def source (v : Value) : Except Fault String := v.sourceOf v.print

/-! ## Sorting -/

/-- The natural key of a value. -/
def naturalKey (v : Value) : Except Fault NaturalKey := v.keyOf v.print

/-- Sorts by a key of each element.  Elements with equal keys keep their order. -/
def sortOn (key : α → Except Fault NaturalKey) (xs : List α) : Except Fault (List α) := do
  let keys ← collect (xs.map key)
  return sortByKey (keys.zip xs)

/-- Values in natural order. -/
def sorted (vs : List Value) : Except Fault (List Value) := sortOn naturalKey vs

end Value

end StoryValues
