import StoryValues.Value.Decidable
import StoryValues.Value.Printing

/-
  EQUALITY, the operator `is`.

  1. **Plain data** are equal when they are of one kind and of one value; an integer and a double may
     be of one value.
  2. **Collections** are equal when their parts are: arrays place by place, datamaps name by name,
     datasets when they are as large as each other and every member of the first, in natural order,
     equals one of the second.
  3. **Composites** have a rule each.  Patterns are equal when they print alike, hook names as sets,
     colours and gradients by their numbers, chains node by node.
  4. **Identity.**  Errors, commands, lambdas and custom macros, and a double that is no number, are
     equal only to themselves.

  Sorting the members of a dataset may fault, and so may equality.
-/

namespace StoryValues

/-- Whether two channels hold one value, or one and the same datum that is no number. -/
def Number.sameDatum (a b : Number) : Bool := a.sameValue b || (!a.isNumber && a == b)

/-- Two colours are equal when their channels and their opacity are. -/
def Colour.same (a b : Colour) : Bool :=
  a.red.sameDatum b.red && a.green.sameDatum b.green && a.blue.sameDatum b.blue
    && a.alpha.sameDatum b.alpha

/-- Two gradients are equal when their angles are, and their stops one by one. -/
def Gradient.same (a b : Gradient) : Bool :=
  a.angle.sameValue b.angle && a.stops.length == b.stops.length
    && (a.stops.zip b.stops).all fun ((s, c), (t, d)) => s.sameValue t && c.same d

/-- Two sets of hook names are equal when each has all names of the other. -/
def sameHooks (a b : List String) : Bool := a.all (b.contains ·) && b.all (a.contains ·)

/-- The entry of a name. -/
def lookupName (entries : List (Name × Value)) (name : Name) : Option Value :=
  (entries.find? fun e => e.1.same name).map Prod.snd

namespace Value

/-- Whether two plain values are equal: booleans, numbers and strings of one value. -/
def samePlain : Value → Value → Bool
  | .boolean a, .boolean b => a == b
  | .number m, .number n => m.sameValue n
  | .string s, .string t => s == t
  | _, _ => false

/-- Whether this is a boolean, a number or a string. -/
def isPlain : Value → Bool
  | .boolean _ | .string _ => true
  | .number n => n.isNumber
  | _ => false

theorem sizeOf_of_find?_mem {entries : List (Name × Value)} {p : Name × Value → Bool}
    {e : Name × Value} (h : entries.find? p = some e) : sizeOf e.2 < sizeOf entries := by
  have hm := List.mem_of_find?_eq_some h
  have := List.sizeOf_lt_of_mem hm
  obtain ⟨n, v⟩ := e
  simp only [Prod.mk.sizeOf_spec] at this ⊢
  omega

/-- Whether two values are equal. -/
def equals (l r : Value) : Except Fault Bool :=
  if l.isPlain || r.isPlain then .ok (samePlain l r)
  else match l, r with
    | .array xs, .array ys =>
      if xs.length = ys.length then
        (xs.zip ys).attach.allM fun ⟨(x, y), _⟩ => equals x y
      else .ok false
    | .datamap _ xs, .datamap _ ys =>
      if xs.length = ys.length then
        xs.attach.allM fun ⟨(name, x), _⟩ =>
          match _h : ys.find? fun e => e.1.same name with
          | some e => equals x e.2
          | none => .ok false
      else .ok false
    | .dataset _ xs, .dataset _ ys =>
      if xs.length = ys.length then do
        let ordered ← sortOn (fun x => naturalKey x.val) xs.attach
        ordered.allM fun ⟨x, _⟩ => ys.attach.anyM fun ⟨y, _⟩ => equals y x
      else .ok false
    | .datatype d, .datatype e => .ok (d.same e)
    | .typedVar v, .typedVar w => .ok (v.same w)
    | .spread v, .spread w => equals v w
    | .changer xs, .changer ys =>
      if xs.length = ys.length then
        (xs.zip ys).attach.allM fun ⟨((n, ps), (m, qs)), _⟩ =>
          if n = m then
            if ps.length = qs.length then
              (ps.zip qs).attach.allM fun ⟨(p, q), _⟩ => equals p q
            else .ok false
          else .ok false
      else .ok false
    | .colour c, .colour d => .ok (c.same d)
    | .gradient g, .gradient h => .ok (g.same h)
    | .hooks ns, .hooks ms => .ok (sameHooks ns ms)
    | l, r => .ok (l == r)
termination_by sizeOf l + sizeOf r
decreasing_by
  · rename_i h
    have hx := List.sizeOf_lt_of_mem (List.of_mem_zip h).1
    have hy := List.sizeOf_lt_of_mem (List.of_mem_zip h).2
    simp only [Value.array.sizeOf_spec]
    omega
  · rename_i h
    have hx := List.sizeOf_lt_of_mem h
    have hy := sizeOf_of_find?_mem _h
    simp only [Value.datamap.sizeOf_spec, Prod.mk.sizeOf_spec] at hx ⊢
    omega
  · rename_i hx hy
    have hx := List.sizeOf_lt_of_mem hx
    have hy := List.sizeOf_lt_of_mem hy
    simp only [Value.dataset.sizeOf_spec]
    omega
  · simp only [Value.spread.sizeOf_spec]
    omega
  · rename_i h _ _ hpq
    have hx := List.sizeOf_lt_of_mem (List.of_mem_zip h).1
    have hy := List.sizeOf_lt_of_mem (List.of_mem_zip h).2
    have hp := List.sizeOf_lt_of_mem (List.of_mem_zip hpq).1
    have hq := List.sizeOf_lt_of_mem (List.of_mem_zip hpq).2
    simp only [Value.changer.sizeOf_spec, Prod.mk.sizeOf_spec] at hx hy ⊢
    omega

/-- Whether a list holds a value equal to this one, each member being asked in turn. -/
def isAmong (members : List Value) (v : Value) : Except Fault Bool :=
  members.anyM fun m => equals m v

end Value

end StoryValues
