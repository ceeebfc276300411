import StoryValues.Number
import StoryValues.Text.Quoted

/-
  DATATYPES.  A datatype says which values belong to it.  Most are **named**; the others are
  **patterns**, which describe whole strings and are put together from fragments: text, datatypes of
  strings, and typed variables that capture what their datatype matched.  Any datatype may be
  **spread**, that is, stand for any number of values, or of pieces of text.

  1. **Printing.**  `Datatype.source` writes a datatype the way a story would.  The bounds of a pattern
     were written when it was made (`Pattern.repeated`), so none of them is too long for it.
  2. **Sameness.**  Two named datatypes are the same if they agree in name and spread; two patterns
     if they print alike and agree on whether letter case matters.
-/

namespace StoryValues

/-- How often a repeated pattern repeats, as its author wrote it. -/
inductive Bounds where
  | once
  | atLeast (min : Number)
  | between (min max : Number)
  deriving DecidableEq

/-- The numbers an author wrote for the bounds. -/
def Bounds.numbers : Bounds → List Number
  | once => []
  | atLeast min => [min]
  | between min max => [min, max]

/-- The ways to put fragments together. -/
inductive Shape where
  | sequence
  | either
  | optional
  | repeated (bounds : Bounds)
  | insensitive
  | notBefore
  deriving DecidableEq

namespace Shape

/-- The name of the macro that makes this shape. -/
def name : Shape → String
  | sequence => "p"
  | either => "p-either"
  | optional => "p-opt"
  | repeated _ => "p-many"
  | insensitive => "p-ins"
  | notBefore => "p-not-before"

/-- The bounds written in front of the fragments. -/
def bounds : Shape → List Number
  | repeated bounds => bounds.numbers
  | _ => []

end Shape

mutual

/-- A datatype: a name, or a pattern with its fragments.  `folded` says that a pattern was remade so
that letter case does not matter in it. -/
inductive Datatype where
  | named (name : String) (spread : Bool)
  | pattern (shape : Shape) (parts : List Fragment) (folded spread : Bool)

/-- A fragment of a pattern: text, a datatype of strings, or a typed variable. -/
inductive Fragment where
  | text (s : String)
  | type (d : Datatype)
  | typed (d : Datatype) (name : String) (rest : Bool)

end

/-- A variable name with the datatype of what it may hold.  A rest variable takes all that is left. -/
structure TypedVar where
  datatype : Datatype
  name : String
  rest : Bool

/-! ## Printing -/

/-- The mark of something spread. -/
def dots (spread : Bool) : String := if spread then "..." else ""

mutual

/-- A datatype as source text. -/
def Datatype.source : Datatype → String
  | .named name spread => dots spread ++ name
  | .pattern shape parts _ spread =>
    dots spread ++ "(" ++ shape.name ++ ":"
      ++ String.intercalate "," (shape.bounds.map Number.written ++ Fragment.sources parts) ++ ")"

/-- A fragment as source text. -/
def Fragment.source : Fragment → String
  | .text s => quoted s
  | .type d => d.source
  | .typed d name rest => dots rest ++ d.source ++ "-type " ++ name

/-- The fragments of a list as source text. -/
def Fragment.sources : List Fragment → List String
  | [] => []
  | f :: fs => f.source :: Fragment.sources fs

end

/-- A typed variable as source text. -/
def TypedVar.source (v : TypedVar) : String :=
  dots v.rest ++ v.datatype.source ++ "-type " ++ v.name

namespace Datatype

/-! ## Sameness -/

/-- Whether letter case matters is part of what a pattern is, together with its source. -/
def same : Datatype → Datatype → Bool
  | .named n s, .named m t => n == m && s == t
  | .pattern sh ps f s, .pattern sh' ps' f' s' =>
    f == f' && (Datatype.pattern sh ps f s).source == (Datatype.pattern sh' ps' f' s').source
  | _, _ => false

/-- Whether this datatype is spread. -/
def isSpread : Datatype → Bool
  | .named _ spread => spread
  | .pattern _ _ _ spread => spread

/-- The datatype that stands for any number of what this one stands for. -/
def spread : Datatype → Datatype
  | .named name _ => .named name true
  | .pattern shape parts folded _ => .pattern shape parts folded true

/-- Whether this is a pattern. -/
def isPattern : Datatype → Bool
  | .named .. => false
  | .pattern .. => true

/-- How a message speaks of a datatype. -/
def objectName : Datatype → String
  | d@(.named ..) => s!"the {d.source} datatype"
  | .pattern shape .. => s!"a ({shape.name}:) datatype"

/-- A datatype is the same as itself, whether it is named or a pattern. -/
theorem same_refl (d : Datatype) : d.same d = true := by
  cases d <;> simp [same]

end Datatype

namespace TypedVar

/-- Two typed variables are the same if they agree in name, rest and datatype. -/
def same (a b : TypedVar) : Bool := b.name == a.name && b.rest == a.rest && a.datatype.same b.datatype

/-- The typed variable that takes all that is left. -/
def spread (v : TypedVar) : TypedVar := { v with rest := true }

/-- How a message speaks of a typed variable. -/
def objectName (v : TypedVar) : String := s!"the typed variable name {v.source}"

end TypedVar

/-! ## Structural equality -/

mutual

/-- Whether two datatypes are built alike. -/
def Datatype.alike : Datatype → Datatype → Bool
  | .named n s, .named m t => n == m && s == t
  | .pattern sh ps f s, .pattern sh' ps' f' s' =>
    sh == sh' && f == f' && s == s' && Fragment.alikeList ps ps'
  | _, _ => false

/-- Whether two fragments are built alike. -/
def Fragment.alike : Fragment → Fragment → Bool
  | .text s, .text t => s == t
  | .type d, .type e => d.alike e
  | .typed d n r, .typed e m q => n == m && r == q && d.alike e
  | _, _ => false

/-- Whether two lists of fragments are built alike. -/
def Fragment.alikeList : List Fragment → List Fragment → Bool
  | [], [] => true
  | f :: fs, g :: gs => f.alike g && Fragment.alikeList fs gs
  | _, _ => false

end

mutual

/-- Datatypes that are built alike are equal.  By recursion on both, along with their fragments. -/
theorem Datatype.eq_of_alike : (d e : Datatype) → d.alike e = true → d = e
  | .named n s, .named m t, h => by simp_all [Datatype.alike]
  | .pattern sh ps f s, .pattern sh' ps' f' s', h => by
    simp only [Datatype.alike, Bool.and_eq_true, beq_iff_eq] at h
    obtain ⟨⟨⟨rfl, rfl⟩, rfl⟩, h⟩ := h
    rw [Fragment.eq_of_alikeList ps ps' h]
  | .named .., .pattern .., h => by simp [Datatype.alike] at h
  | .pattern .., .named .., h => by simp [Datatype.alike] at h

/-- Two fragments that are written alike are the same one; the cases are those of two fragments. -/
theorem Fragment.eq_of_alike : (f g : Fragment) → f.alike g = true → f = g
  | .text s, .text t, h => by simp_all [Fragment.alike]
  | .type d, .type e, h => by rw [Datatype.eq_of_alike d e (by simpa [Fragment.alike] using h)]
  | .typed d n r, .typed e m q, h => by
    simp only [Fragment.alike, Bool.and_eq_true, beq_iff_eq] at h
    obtain ⟨⟨rfl, rfl⟩, h⟩ := h
    rw [Datatype.eq_of_alike d e h]
  | .text _, .type _, h => by simp [Fragment.alike] at h
  | .text _, .typed .., h => by simp [Fragment.alike] at h
  | .type _, .text _, h => by simp [Fragment.alike] at h
  | .type _, .typed .., h => by simp [Fragment.alike] at h
  | .typed .., .text _, h => by simp [Fragment.alike] at h
  | .typed .., .type _, h => by simp [Fragment.alike] at h

/-- Lists of fragments that are written alike, one by one, are the same list. -/
theorem Fragment.eq_of_alikeList : (fs gs : List Fragment) → Fragment.alikeList fs gs = true → fs = gs
  | [], [], _ => rfl
  | f :: fs, g :: gs, h => by
    simp only [Fragment.alikeList, Bool.and_eq_true] at h
    rw [Fragment.eq_of_alike f g h.1, Fragment.eq_of_alikeList fs gs h.2]
  | [], _ :: _, h => by simp [Fragment.alikeList] at h
  | _ :: _, [], h => by simp [Fragment.alikeList] at h

end

mutual

/-- A datatype is built like itself, by recursion along with its fragments. -/
theorem Datatype.alike_refl : (d : Datatype) → d.alike d = true
  | .named n s => by simp [Datatype.alike]
  | .pattern sh ps f s => by simp [Datatype.alike, Fragment.alikeList_refl ps]

/-- A fragment is written like itself. -/
theorem Fragment.alike_refl : (f : Fragment) → f.alike f = true
  | .text s => by simp [Fragment.alike]
  | .type d => by simp [Fragment.alike, Datatype.alike_refl d]
  | .typed d n r => by simp [Fragment.alike, Datatype.alike_refl d]

/-- A list of fragments is written like itself, item by item. -/
theorem Fragment.alikeList_refl : (fs : List Fragment) → Fragment.alikeList fs fs = true
  | [] => rfl
  | f :: fs => by simp [Fragment.alikeList, Fragment.alike_refl f, Fragment.alikeList_refl fs]

end

/-- Being built alike is equality, which makes it decidable. -/
theorem Datatype.alike_iff {d e : Datatype} : d.alike e = true ↔ d = e :=
  ⟨Datatype.eq_of_alike d e, fun h => h ▸ Datatype.alike_refl d⟩

instance : DecidableEq Datatype := fun _ _ => decidable_of_iff _ Datatype.alike_iff

deriving instance DecidableEq for TypedVar

end StoryValues
