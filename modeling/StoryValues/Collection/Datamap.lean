import StoryValues.Collection.Storable
import StoryValues.Value.Description
import StoryValues.Value.Equality

/-
  DATAMAPS: named values.  A name is text or a number; numbers of one value are one name.

  1. **Names never collide.**  A text and a number that are written alike cannot both be names of one
     datamap (`Datamap.checkName`), so a name can be told from its text alone.
  2. **Order.**  The names keep the order in which they were first set; setting a name again keeps
     the name and its place (`Datamap.put`).
-/

namespace StoryValues

namespace Datamap

/-- The names of a datamap with their values. -/
abbrev Entries := List (Name × Value)

/-! ## Entries -/

/-- Whether a name is set. -/
def has (entries : Entries) (name : Name) : Bool := entries.any fun e => e.1.same name

/-- Sets a name.  A name that is set already keeps its spelling and its place. -/
def put (entries : Entries) (name : Name) (v : Value) : Entries :=
  if has entries name then
    entries.map fun e => if e.1.same name then (e.1, v) else e
  else entries ++ [(name, v)]

/-- Takes a name away. -/
def erase (entries : Entries) (name : Name) : Entries :=
  entries.filter fun e => !e.1.same name

/-! ## Names -/

/-- The name that a value makes: text or a number. -/
def nameOf? : Value → Option Name
  | .string s => some (.text s)
  | .number n => if n.isNumber then some (.number n) else none
  | _ => none

/-- A name of the other kind that is written alike.  The names that are set were written when they
were (`checkName`), and are short. -/
def clash? (entries : Entries) (name : Name) : Option Name :=
  (entries.map Prod.fst).find? fun other =>
    match other, name with
    | .text s, .number n => s == n.written
    | .number n, .text s => n.written == s
    | _, _ => false

/-- The name that a value makes in a datamap, unless it may not be one there.  A name is written first,
and a number that is too long for that is a fault. -/
def checkName (entries : Entries) (v : Value) : Check Name := do
  v.guardError
  match nameOf? v with
  | none =>
    Check.fail "property"
      s!"Only strings and numbers can be used as data names for a datamap, not {← v.objectName}."
  | some name =>
    -- the text is made before the name is compared, so one that is too long never gets as far as that
    let _ ← name.format
    match clash? entries name with
    | some other =>
      Check.fail "property" ("You mustn't use both " ++ (← (Value.ofName other).objectName) ++ " and "
        ++ (← v.objectName) ++ " as data names in the same datamap.")
    | none => return name

/-- The name under which a value would be found.  Truth values are found where 1 and 0 are;
collections are no keys at all, and other composites are found under no name. -/
def keyOf? (v : Value) : Check (Option Name) :=
  match v with
  | .boolean b => return some (.number (.int (if b then 1 else 0)))
  | .array _ | .datamap .. | .dataset .. => Check.fault (.badOperand "unhashable type")
  | v => do
    -- a composite is hashed by its source, and not every value has one
    if v.isComposite then discard (Check.lift v.print)
    return nameOf? v

/-! ## Operations -/

/-- The value of a name; a name that is missing, or is none, is a `property` error. -/
def property (entries : Entries) (v : Value) : Check Value := do
  match ← (checkName entries v).attempt with
  | .error e => Check.fail "property" e.message
  | .ok name =>
    match lookupName entries name with
    | some found => return found
    | none =>
      Check.fail "property" s!"I can't find {← v.objectName} as a data name in this datamap."

/-- Sets the name that a value makes.  A value that makes none is a mistake of the host. -/
def assign (entries : Entries) (v new : Value) : Check Entries := do
  match nameOf? v with
  | none => Check.fault (.badName v.classText)
  | some _ =>
    match ← (checkName entries v).attempt with
    -- a clash that a story could be told of is a mistake of the host here
    | .error e => Check.fault (.clashingName e.message)
    | .ok name => return put entries name new

/-- Whether there is a name that a value stands for. -/
def contains (entries : Entries) (v : Value) : Check Bool := do
  match ← keyOf? v with
  | some name => return has entries name
  | none => return false

/-- The value of the name that a value stands for, if it is set. -/
def find? (entries : Entries) (v : Value) : Check (Option Value) := do
  match ← keyOf? v with
  | some name => return lookupName entries name
  | none => return none

/-- Takes away the name that a value stands for, which must be set. -/
def remove (entries : Entries) (v : Value) : Check Entries := do
  match ← keyOf? v with
  | some name => if has entries name then return erase entries name else Check.fault (.missingKey name.shown)
  | none => Check.fault (.missingKey "")

/-- The entry of a datamap that is being built from names and values in turn. -/
def addPair (entries : Entries) (key v : Value) : Check Entries := do
  Value.guardErrors [key, v]
  let name ← checkName entries key
  if has entries name then
    Check.fail "operation"
      s!"You used the same data name ({← key.objectName}) twice in the same datamap."
  match ← v.unstorable? with
  | some bad => Check.fail "operation" s!"{← bad.objectName} can't be stored in a datamap."
  | none => return entries ++ [(name, v.clone)]

/-- Adds names and values in turn. -/
def addPairs (entries : Entries) : List Value → Check Entries
  | key :: v :: rest => do addPairs (← addPair entries key v) rest
  | _ => return entries

/-- The datamap of names and values in turn. -/
def ofList (args : List Value) : Check Value := do
  if args.length % 2 = 1 then
    Check.failWith "macrocall"
      ((← (args.getLast?.getD .nothing).objectName) ++ " lacks a matching value.")
      "Datamaps must be given pairs of names and values, one after another."
  return .datamap none (← addPairs [] args)

end Datamap

end StoryValues
