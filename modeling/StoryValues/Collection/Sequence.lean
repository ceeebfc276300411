import StoryValues.Text.Search
import StoryValues.Value.Description
import StoryValues.Value.Equality

/-
  SEQUENCES: strings, arrays and datasets as values one after another.

  1. **Positions** count from 1 at the front and from -1 at the back (`Sequence.cut`).
  2. **Containment.**  A string contains its substrings, an array and a dataset their members, a
     datamap its names.
  3. **First of equals.**  `Sequence.unique` keeps each value where it first stands.
-/

namespace StoryValues

namespace Sequence

/-- The word for a collection, empty for anything else. -/
def typeWord : Value → String
  | .array _ => "array"
  | .datamap .. => "datamap"
  | .dataset .. => "dataset"
  | .string _ => "string"
  | _ => ""

/-- The values of a sequence in order, and none of anything else. -/
def items? : Value → Except Fault (Option (List Value))
  | .string s => .ok (some (s.toList.map fun c => .string c.toString))
  | .array items => .ok (some items)
  | .dataset _ members => (Value.sorted members).map some
  | _ => .ok none

/-! ## Parts -/

/-- The place at which a cut ends: a place before the front counts from the back once more, and stops
at the front. -/
def stop (length : Nat) (b : Int) : Nat :=
  if b < 0 then (b + length).toNat else b.toNat

/-- The part between two positions, either of which may come first. -/
def cut (items : List α) (a b : Int) : List α :=
  let place (p : Int) : Int := if p < 0 then items.length + p + 1 else p
  let low := min (place a) (place b)
  let high := max (place a) (place b)
  -- the lower place is taken as it is, the upper one as the end of a slice
  (items.take (stop items.length high)).drop (low - 1).toNat

/-- The part of a string or an array between two positions; there is no position 0. -/
def subset (v : Value) (a b : Int) : Check Value :=
  if a = 0 ∨ b = 0 then
    let word := if typeWord v = "" then "section" else typeWord v
    Check.failWith "macrocall" s!"I can't get a sub{word} beginning or ending at position 0."
      "The first position is 1, and the last position is -1."
  else match v with
    | .string s => return .string (String.ofList (cut s.toList a b))
    | .array items => return .array (cut items a b)
    | _ => Check.fault (.badOperand "object is not subscriptable")

/-- The most items that a sequence can have. -/
def longest : Nat := twoTo 63 - 1

/-- All integers from one to another, upward or downward. -/
def range (a b : Int) : Except Fault (List Int) :=
  let length := (b - a).natAbs + 1
  if longest < length then .error .sequenceTooLong
  else .ok ((List.range length).map fun (k : Nat) => if a ≤ b then a + k else a - k)

/-! ## Containment -/

/-- Whether a value contains another. -/
def contains (container item : Value) : Check Bool :=
  match container with
  | .string s =>
    match item with
    | .string t => return occursIn t.toList s.toList
    | _ => do
      Check.fail "operation"
        s!"{← container.objectName} can only contain strings, not {← item.objectName}."
  | .array items => Value.isAmong items item
  | .dataset _ members => do Value.isAmong (← Value.sorted members) item
  | .datamap _ entries => Value.isAmong (entries.map fun e => Value.ofName e.1) item
  | _ => do
    Check.fail "operation"
      s!"{← container.objectName} cannot contain any values, let alone {← item.objectName}"

/-- Adds to values kept so far those that equal none of them. -/
def keepNew (kept : List Value) : List Value → Except Fault (List Value)
  | [] => .ok kept
  | v :: vs => do
    if ← kept.anyM fun seen => Value.equals v seen then keepNew kept vs
    else keepNew (kept ++ [v]) vs

/-- The values without those that equal an earlier one. -/
def unique (values : List Value) : Except Fault (List Value) := keepNew [] values

example : cut [1, 2, 3, 4] 2 (-2) = [2, 3] ∧ cut [1, 2, 3, 4] (-1) 3 = [3, 4] := by decide

end Sequence

end StoryValues
