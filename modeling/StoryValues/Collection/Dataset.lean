import StoryValues.Collection.Storable
import StoryValues.Value.Description
import StoryValues.Value.Equality

/-
  DATASETS: values without repetition.  Two values are one member when they are equal, so adding a
  value that a member equals changes nothing.  The members are kept in the order in which they were
  added; whoever goes through a dataset meets them in natural order (`Value.sorted`), so two datasets
  with equal members look alike.

  Asking for membership asks each member in turn, and may fault where a member cannot be sorted.
-/

namespace StoryValues

namespace Dataset

/-! ## Members -/

/-- Whether a member equals this value. -/
def has (members : List Value) (v : Value) : Except Fault Bool := Value.isAmong members v

/-- Adds a value unless a member equals it. -/
def add (members : List Value) (v : Value) : Except Fault (List Value) := do
  if ← has members v then return members else return members ++ [v]

/-- Adds values one after another. -/
def addAll (members : List Value) : List Value → Except Fault (List Value)
  | [] => .ok members
  | v :: vs => do addAll (← add members v) vs

/-- The members that equal a value are taken away. -/
def discard : List Value → Value → Except Fault (List Value)
  | [], _ => .ok []
  | m :: ms, v => do
    let same ← Value.equals m v
    let rest ← discard ms v
    return if same then rest else m :: rest

/-- Takes away a value that must be a member. -/
def remove (members : List Value) (v : Value) : Except Fault (List Value) := do
  if ← has members v then discard members v else .error (.missingKey "")

/-- Takes away the first member in natural order; there must be one. -/
def pop (members : List Value) : Except Fault (Value × List Value) := do
  match ← Value.sorted members with
  | [] => .error (.missingKey "")
  | first :: _ => return (first, ← discard members first)

/-- Takes members away, the first in natural order each time, until there is none.  A member that is not
equal to itself is never taken: once taking it leaves all members, so it does forever, and there is no
result. -/
def clear (members : List Value) : Option (Except Fault (List Value)) :=
  match pop members with
  | .ok (_, rest) => if _h : rest.length < members.length then clear rest else none
  | .error (.missingKey _) => some (.ok members)
  | .error f => some (.error f)
termination_by members.length

/-! ## Algebra -/

/-- The values, in order, that are or are not members. -/
def keep (wanted : Bool) (members : List Value) : List Value → Except Fault (List Value)
  | [] => .ok []
  | v :: vs => do
    let inside ← has members v
    let rest ← keep wanted members vs
    return if inside = wanted then v :: rest else rest

/-- The members of either dataset. -/
def union (a b : List Value) : Except Fault (List Value) := do
  let first ← addAll [] (← Value.sorted a)
  addAll first (← Value.sorted b)

/-- The members of the second dataset that are in the first. -/
def intersection (a b : List Value) : Except Fault (List Value) := do
  addAll [] (← keep true a (← Value.sorted b))

/-- The members of the first dataset that are not in the second. -/
def difference (a b : List Value) : Except Fault (List Value) := do
  addAll [] (← keep false b (← Value.sorted a))

/-- The members of exactly one of two datasets. -/
def symmetric (a b : List Value) : Except Fault (List Value) := do
  union (← difference a b) (← difference b a)

/-- Whether the first dataset is no larger than the second and all its members are in that. -/
def subset (a b : List Value) : Except Fault Bool := do
  if b.length < a.length then return false
  (← Value.sorted a).allM (has b)

/-- Whether two datasets are as large as each other and the second has all members of the first. -/
def sameMembers (a b : List Value) : Except Fault Bool := do
  if a.length = b.length then subset a b else return false

/-- Whether no member of the second dataset is in the first. -/
def disjoint (a b : List Value) : Except Fault Bool := do
  return !(← (← Value.sorted b).anyM (has a))

/-! ## Making -/

/-- The dataset of values, each copied.  Errors and values that cannot be stored are refused. -/
def ofList (values : List Value) : Check Value := do
  Value.guardErrors values
  for v in values do
    if let some bad ← v.unstorable? then
      Check.fail "operation" s!"{← bad.objectName} can't be stored in a dataset."
  return .dataset none (← addAll [] (values.map Value.clone))

end Dataset

/-! ## Sameness for the host -/

/-- Whether two values are the same for the host: errors of one kind and message, datasets with the
same members, and composites that are equal.  No other values are the same. -/
def Value.sameForHost : Value → Value → Except Fault Bool
  | .error e, .error f => .ok (e.kind == f.kind && e.message == f.message)
  | .dataset _ xs, .dataset _ ys => Dataset.sameMembers xs ys
  | a, b => if a.isComposite && b.isComposite then Value.equals a b else .ok false

end StoryValues
