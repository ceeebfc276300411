import StoryValues.Collection.Datamap
import StoryValues.Collection.Dataset
import StoryValues.World.Identity

/-
  CHANGING COLLECTIONS IN PLACE.  Each operation gives the collection as it is afterwards, and lets
  the change reach whatever holds it.  Where an operation stops half-way, what it did before stays.
  Asking a value for an operation that its kind does not have is a fault.
-/

namespace StoryValues

namespace Run

/-- The entries of a datamap. -/
def entriesOf : Value → Check Datamap.Entries
  | .datamap _ entries => return entries
  | v => Check.fault (.noSuchPart s!"'{v.className}' object is no datamap")

/-- The members of a dataset. -/
def membersOf : Value → Check (List Value)
  | .dataset _ members => return members
  | v => Check.fault (.noSuchPart s!"'{v.className}' object is no dataset")

/-- A datamap gets other entries. -/
def putEntries (host : Host σ) (d : Value) (entries : Datamap.Entries) : Run σ Value :=
  become host d (.datamap d.tag? entries)

/-- A dataset gets other members. -/
def putMembers (host : Host σ) (d : Value) (members : List Value) : Run σ Value :=
  become host d (.dataset d.tag? members)

/-- Sets a name of a datamap. -/
def assign (host : Host σ) (d key v : Value) : Run σ Value := do
  putEntries host d (← Datamap.assign (← entriesOf d) key v)

/-- Sets names of a datamap one after another. -/
def assignAll (host : Host σ) (d : Value) : List (Name × Value) → Run σ Value
  | [] => return d
  | (name, v) :: rest => do
    let d ← assign host d (.ofName name) v
    assignAll host d rest

/-- Takes a name of a datamap away; it must be there. -/
def removeName (host : Host σ) (d key : Value) : Run σ Value := do
  putEntries host d (← Datamap.remove (← entriesOf d) key)

/-- Takes a name of a datamap away if it is there, and gives its value, else the other one. -/
def popName (host : Host σ) (d key otherwise : Value) : Run σ (Value × Value) := do
  let entries ← entriesOf d
  match ← Datamap.find? entries key with
  | none => return (otherwise, d)
  | some v => return (v, ← removeName host d key)

/-- The value of a name of a datamap, which is set to this one first if it is not there. -/
def setDefault (host : Host σ) (d key v : Value) : Run σ (Value × Value) := do
  let entries ← entriesOf d
  match ← Datamap.find? entries key with
  | some found => return (found, d)
  | none => return (v, ← assign host d key v)

/-- Adds a member to a dataset. -/
def addMember (host : Host σ) (d v : Value) : Run σ Value := do
  putMembers host d (← Dataset.add (← membersOf d) v)

/-- Takes a member of a dataset away if it is there. -/
def discardMember (host : Host σ) (d v : Value) : Run σ Value := do
  putMembers host d (← Dataset.discard (← membersOf d) v)

/-- Takes the first member of a dataset away, and gives it. -/
def popMember (host : Host σ) (d : Value) : Run σ (Value × Value) := do
  let (first, rest) ← Dataset.pop (← membersOf d)
  return (first, ← putMembers host d rest)

end Run

end StoryValues
