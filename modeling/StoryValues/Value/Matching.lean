import StoryValues.Datatype.Member
import StoryValues.Value.Equality

/-
  MATCHING, the operator `matches`: equality in which a datatype stands for all its values.

  1. A datatype on either side is asked about the other side.  Both sides are asked, the first one
     first, and an error of either is the answer.
  2. **Arrays** match place by place, but a spread datatype stands for any number of values.  The
     second array is the pattern if it holds one, else the first (`matchAlong`).
  3. **Datamaps** match name by name.
  4. **Datasets** match when their members can be paired off (`matchPairs`).
-/

namespace StoryValues

namespace Value

/-- Whether this is a spread datatype. -/
def isSpreadType : Value → Bool
  | .datatype d => d.isSpread
  | _ => false

/-- What a datatype says of a value; anything else says no. -/
def claims (type v : Value) : Check Bool :=
  match type with
  | .datatype d => d.accepts v
  | _ => return false

/-- Whether values can be cut into the pieces of a pattern: a spread element takes any number of
values that it accepts, as few as will do, and any other element takes one. -/
def matchAlong (isSpread : β → Bool) (accepts : β → α → Check Bool) (test : α → β → Check Bool) :
    List α → List β → Check Bool
  | xs, [] => return xs.isEmpty
  | [], p :: ps =>
    if isSpread p then matchAlong isSpread accepts test [] ps else return false
  | x :: xs, p :: ps => do
    if isSpread p then
      if ← matchAlong isSpread accepts test (x :: xs) ps then return true
      else if ← accepts p x then matchAlong isSpread accepts test xs (p :: ps)
      else return false
    else if ← test x p then matchAlong isSpread accepts test xs ps
    else return false
termination_by xs ps => xs.length + ps.length

/-- Each element of a list with the others. -/
def withOthers : List α → List (α × List α)
  | [] => []
  | x :: xs => (x, xs) :: (withOthers xs).map fun (y, others) => (y, x :: others)

/-- Whether the elements of two lists can be paired off. -/
def matchPairs (test : α → β → Check Bool) : List α → List β → Check Bool
  | [], _ => return true
  | x :: xs, ys =>
    (withOthers ys).anyM fun (y, others) => do
      if ← test x y then matchPairs test xs others else return false

/-- Whether two values match. -/
def isMatch (l r : Value) : Check Bool := do
  let first ← l.claims r
  let second ← r.claims l
  if first || second then return true
  match l, r with
  | .array xs, .array ys =>
    let spread (v : Value) := v.isSpreadType
    -- spread datatypes on the left are laid along the right only where the right has none
    if ys.any spread then
      matchAlong (fun y => spread y.val) (fun y x => y.val.claims x.val)
        (fun ⟨x, _⟩ ⟨y, _⟩ => isMatch x y) xs.attach ys.attach
    else if xs.any spread then
      matchAlong (fun x => spread x.val) (fun x y => x.val.claims y.val)
        (fun ⟨y, _⟩ ⟨x, _⟩ => isMatch y x) ys.attach xs.attach
    else if xs.length = ys.length then
      (xs.zip ys).attach.allM fun ⟨(x, y), _⟩ => isMatch x y
    else return false
  | .datamap _ xs, .datamap _ ys =>
    if xs.length = ys.length ∧ xs.all fun (name, _) => (lookupName ys name).isSome then
      xs.attach.allM fun ⟨(name, x), _⟩ =>
        match _h : ys.find? fun e => e.1.same name with
        | some e => isMatch x e.2
        | none => return false
    else return false
  | .dataset _ xs, .dataset _ ys =>
    let xs' ← sortOn (fun x => naturalKey x.val) xs.attach
    let ys' ← sortOn (fun y => naturalKey y.val) ys.attach
    if xs'.length = ys'.length then
      matchPairs (fun ⟨x, _⟩ ⟨y, _⟩ => isMatch x y) xs' ys'
    else return false
  | l, r => equals l r
termination_by sizeOf l + sizeOf r
decreasing_by
  · rename_i hx hy
    have hx := List.sizeOf_lt_of_mem hx
    have hy := List.sizeOf_lt_of_mem hy
    simp only [Value.array.sizeOf_spec]
    omega
  · rename_i hy hx
    have hx := List.sizeOf_lt_of_mem hx
    have hy := List.sizeOf_lt_of_mem hy
    simp only [Value.array.sizeOf_spec]
    omega
  · rename_i h
    have hx := List.sizeOf_lt_of_mem (List.of_mem_zip h).1
    have hy := List.sizeOf_lt_of_mem (List.of_mem_zip h).2
    simp only [Value.array.sizeOf_spec]
    omega
  · rename_i h
    have hx := List.sizeOf_lt_of_mem h
    have hy := sizeOf_of_find?_mem _h
    simp only [Value.datamap.sizeOf_spec, Prod.mk.sizeOf_spec] at hx ⊢
    omega
  · rename_i hx hy
    have hx := List.sizeOf_lt_of_mem hx
    have hy := List.sizeOf_lt_of_mem hy
    simp only [Value.dataset.sizeOf_spec]
    omega

end Value

end StoryValues
