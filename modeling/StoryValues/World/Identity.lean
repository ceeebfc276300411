import StoryValues.World.Basic

/-
  IDENTITY in the world.  Every datum that something may tell from its like gets a tag of its own
  before it is kept (`Value.adopt`).  A datamap or a dataset that is changed in place is changed
  wherever the world or the host holds it (`Run.become`).
-/

namespace StoryValues

/-! ## Naming data -/

/-- A tag, made anew unless there is one; and the next tag to make. -/
def Tag.adopt (next : Nat) : Tag → Tag × Nat
  | some t => (some t, next)
  | none => (some next, next + 1)

/-- A number whose identity is known. -/
def Number.adopt (next : Nat) : Number → Number × Nat
  | .real (.nan tag) =>
    let (tag, next) := Tag.adopt next tag
    (.real (.nan tag), next)
  | n => (n, next)

/-- A colour whose channels are known. -/
def Colour.adopt (next : Nat) (c : Colour) : Colour × Nat :=
  let (red, next) := c.red.adopt next
  let (green, next) := c.green.adopt next
  let (blue, next) := c.blue.adopt next
  let (alpha, next) := c.alpha.adopt next
  (⟨red, green, blue, alpha⟩, next)

namespace Value

mutual

/-- A value in which every datum has a tag, and the next tag to make. -/
def adopt (next : Nat) : Value → Value × Nat
  | .number n =>
    let (n, next) := n.adopt next
    (.number n, next)
  | .array items =>
    let (items, next) := adoptAll next items
    (.array items, next)
  | .datamap tag entries =>
    let (tag, next) := Tag.adopt next tag
    let (entries, next) := adoptEntries next entries
    (.datamap tag entries, next)
  | .dataset tag members =>
    let (tag, next) := Tag.adopt next tag
    let (members, next) := adoptAll next members
    (.dataset tag members, next)
  | .error e =>
    let (tag, next) := Tag.adopt next e.tag
    (.error { e with tag }, next)
  | .spread v =>
    let (v, next) := adopt next v
    (.spread v, next)
  | .changer nodes =>
    let (nodes, next) := adoptNodes next nodes
    (.changer nodes, next)
  | .command tag name params action =>
    let (tag, next) := Tag.adopt next tag
    let (params, next) := adoptAll next params
    (.command tag name params action, next)
  | .colour c =>
    let (c, next) := c.adopt next
    (.colour c, next)
  | .lambda l =>
    let (tag, next) := Tag.adopt next l.tag
    (.lambda { l with tag }, next)
  | .custom m =>
    let (tag, next) := Tag.adopt next m.tag
    (.custom { m with tag }, next)
  | v => (v, next)

/-- Values in which every datum has a tag. -/
def adoptAll (next : Nat) : List Value → List Value × Nat
  | [] => ([], next)
  | v :: vs =>
    let (v, next) := adopt next v
    let (vs, next) := adoptAll next vs
    (v :: vs, next)

/-- Entries in which every datum has a tag. -/
def adoptEntries (next : Nat) : List (Name × Value) → List (Name × Value) × Nat
  | [] => ([], next)
  | (name, v) :: rest =>
    let (v, next) := adopt next v
    let (rest, next) := adoptEntries next rest
    ((name, v) :: rest, next)

/-- Nodes of a chain in which every datum has a tag. -/
def adoptNodes (next : Nat) : List (String × List Value) → List (String × List Value) × Nat
  | [] => ([], next)
  | (name, params) :: rest =>
    let (params, next) := adoptAll next params
    let (rest, next) := adoptNodes next rest
    ((name, params) :: rest, next)

end

/-! ## Changing in place -/

/-- The tag of a collection that can be changed in place. -/
def tag? : Value → Tag
  | .datamap tag _ => tag
  | .dataset tag _ => tag
  | _ => none

mutual

/-- A value in which the collection of this tag has become another. -/
def replace (tag : Nat) (new : Value) : Value → Value
  | .array items => .array (replaceAll tag new items)
  | .datamap t entries =>
    if t = some tag then new else .datamap t (replaceEntries tag new entries)
  | .dataset t members =>
    if t = some tag then new else .dataset t (replaceAll tag new members)
  | .spread v => .spread (replace tag new v)
  | .changer nodes => .changer (replaceNodes tag new nodes)
  | .command t name params action => .command t name (replaceAll tag new params) action
  | v => v

/-- Values in which the collection of this tag has become another. -/
def replaceAll (tag : Nat) (new : Value) : List Value → List Value
  | [] => []
  | v :: vs => replace tag new v :: replaceAll tag new vs

/-- Entries in which the collection of this tag has become another. -/
def replaceEntries (tag : Nat) (new : Value) : List (Name × Value) → List (Name × Value)
  | [] => []
  | (name, v) :: rest => (name, replace tag new v) :: replaceEntries tag new rest

/-- Nodes in which the collection of this tag has become another. -/
def replaceNodes (tag : Nat) (new : Value) : List (String × List Value) → List (String × List Value)
  | [] => []
  | (name, params) :: rest => (name, replaceAll tag new params) :: replaceNodes tag new rest

end

end Value

/-- The world with a change made to every value in it. -/
def World.mapValues (f : Value → Value) (w : World σ) : World σ :=
  { w with
    scopes := w.scopes.map fun s => { s with bindings := s.bindings.map fun (name, v) => (name, f v) }
    frames := w.frames.map fun frame =>
      { frame with
        pos := f frame.pos
        it := f frame.it
        ambient := frame.ambient.map fun (name, v) => (name, f v) } }

namespace Run

/-- A value whose data all have tags. -/
def adopt (v : Value) : Run σ Value := fun _ w =>
  let (v, next) := v.adopt w.fresh
  (.ok v, { w with fresh := next })

/-- Values whose data all have tags. -/
def adoptAll (vs : List Value) : Run σ (List Value) := vs.mapM adopt

/-- A collection becomes another, wherever it is held. -/
def become (host : Host σ) (old new : Value) : Run σ Value := do
  let new ← adopt new
  if let some tag := old.tag? then
    change fun w =>
      let w := w.mapValues (Value.replace tag new)
      { w with host := host.mapHeld (Value.replace tag new) w.host }
  return new

end Run

end StoryValues
