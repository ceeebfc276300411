import StoryValues.Datatype.Member
import StoryValues.Collection.Storable
import StoryValues.World.Identity

/-
  VARIABLES.  A name is looked for in a scope and then in its parents; it is always set in the scope
  itself.

  1. **What is bound is a copy,** so changing a collection later does not change a variable that was
     set to it.
  2. **What cannot be bound:** errors, values that cannot be stored, and values that the scope's own
     restriction of the name does not accept.  An attempt changes nothing.
-/

namespace StoryValues

namespace Scope

/-- Binds a name, in its place if it is bound already. -/
def bind (s : Scope) (key : String) (v : Value) : Scope :=
  { s with
    bindings :=
      if (s.bindings.lookup key).isSome then
        s.bindings.map fun (name, old) => if name = key then (name, v) else (name, old)
      else s.bindings ++ [(key, v)] }

/-- Restricts what a name may be bound to from now on. -/
def restrict (s : Scope) (key : String) (d : Datatype) : Scope :=
  { s with types := (key, d) :: s.types }

/-- The scope, this one or the nearest around it, in which a name is bound. -/
def owner? (scopes : List Scope) (key : String) (id : Nat) : Option Nat :=
  match scopes[id]? with
  | none => none
  | some s =>
    if (s.bindings.lookup key).isSome then some id
    else match s.parent with
      | some p => if p < id then owner? scopes key p else none
      | none => none
termination_by id

end Scope

namespace World

/-- A scope by its number. -/
def scope? (w : World σ) (id : Nat) : Option Scope := w.scopes[id]?

/-- The value of a name as seen from a scope. -/
def value? (w : World σ) (id : Nat) (key : String) : Option Value := do
  let owner ← Scope.owner? w.scopes key id
  (← w.scope? owner).bindings.lookup key

/-- Changes one scope. -/
def modifyScope (w : World σ) (id : Nat) (f : Scope → Scope) : World σ :=
  { w with scopes := w.scopes.modify id f }

end World

namespace Run

/-- Makes a scope inside another one, or outside all. -/
def newScope (parent : Option Nat) (name : String) : Run σ Nat := fun _ w =>
  (.ok w.scopes.length,
    { w with scopes := w.scopes ++ [{ name, parent, bindings := [], types := [] }] })

/-- The number of the scope, from this one outward, in which a name is bound. -/
def ownerOf? (id : Nat) (key : String) : Run σ (Option Nat) := do
  return Scope.owner? (← world).scopes key id

/-- The error that there is no such variable. -/
def noVariable (key place : String) : Check α :=
  Check.fail "property" s!"There isn't a temp variable named {key} in {place}."

/-- The value of a variable. -/
def getVar (id : Nat) (key : String) : Run σ Value := do
  let w ← world
  match w.value? id key with
  | some v => return v
  | none => noVariable (α := Value) key ((w.scope? id).elim Scope.usualName Scope.name)

/-- The value of a variable in the latest frame. -/
def getTemp (name : String) : Run σ Value := do
  match ← topFrame? with
  | some frame => getVar frame.scope name
  | none => noVariable (α := Value) name Scope.usualName

/-- Restricts a variable of a scope. -/
def defineType (id : Nat) (key : String) (d : Datatype) : Run σ Unit :=
  change fun w => w.modifyScope id fun s => s.restrict key d

/-- Goes on if a value may be bound to a name under this restriction. -/
def checkBinding (key : String) (restriction : Option Datatype) (v : Value) : Check Unit := do
  v.guardError
  if let some bad ← v.unstorable? then
    Check.fail "operation" s!"{← bad.objectName} can't be stored."
  if let some d := restriction then
    if !(← d.accepts v) then
      Check.fail "operation" (s!"I can't set {key} to {← v.objectName} because it's been restricted to "
        ++ s!"{d.source}-type data.")

/-- Binds a variable in a scope to a copy of a value. -/
def setVar (id : Nat) (key : String) (v : Value) : Run σ Unit := do
  let restriction := ((← world).scope? id).bind fun s => s.types.lookup key
  checkBinding key restriction v
  -- nothing has been changed so far
  let copy ← adopt v.clone
  change fun w => w.modifyScope id fun s => s.bind key copy

end Run

end StoryValues
