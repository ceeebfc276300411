import StoryValues.Pattern.Destructure

/-
  NOTICES.  A host can watch patterns being built: each pattern that is made or remade is noticed by
  the name of its macro, once it and everything in it is finished.  Leaving letter case out of account
  remakes a pattern and all patterns in it that were not remade before.
-/

namespace StoryValues

mutual

/-- The patterns that are remade when letter case is left out of account. -/
def Datatype.foldNotices : Datatype → List String
  | .named .. => []
  | .pattern shape parts folded _ =>
    if folded then []
    else Fragment.innerNotices parts ++ Fragment.typedNotices parts ++ [shape.name]

/-- The patterns remade among the fragments themselves. -/
def Fragment.innerNotices : List Fragment → List String
  | [] => []
  | .type d :: fs => d.foldNotices ++ Fragment.innerNotices fs
  | _ :: fs => Fragment.innerNotices fs

/-- The patterns remade as datatypes of typed variables. -/
def Fragment.typedNotices : List Fragment → List String
  | [] => []
  | .typed d _ _ :: fs => d.foldNotices ++ Fragment.typedNotices fs
  | _ :: fs => Fragment.typedNotices fs

end

mutual

/-- The patterns made when the typed variables of a datatype are asked for. -/
def Datatype.varNotices (fold : Bool) : Datatype → List String
  | .named .. => []
  | .pattern shape parts folded _ =>
    Fragment.varNotices (folded || fold) ((folded || fold) && shape != .insensitive) parts

/-- The patterns made when the typed variables in fragments are asked for. -/
def Fragment.varNotices (wrap inner : Bool) : List Fragment → List String
  | [] => []
  | .text _ :: fs => Fragment.varNotices wrap inner fs
  | .type d :: fs => d.varNotices inner ++ Fragment.varNotices wrap inner fs
  | .typed d _ _ :: fs =>
    (if wrap then d.foldNotices ++ [Shape.insensitive.name] else []) ++ d.varNotices false
      ++ Fragment.varNotices wrap inner fs

end

namespace Pattern

/-- The patterns remade to be fragments of one that leaves letter case out of account. -/
def argNotices : List Value → List String
  | [] => []
  | .datatype d :: vs => d.foldNotices ++ argNotices vs
  | .typedVar v :: vs => v.datatype.foldNotices ++ argNotices vs
  | _ :: vs => argNotices vs

/-- The patterns noticed while the pattern of a macro is built from these arguments. -/
def buildNotices (name : String) (args : List Value) (built : Bool) : List String :=
  (if name = Shape.insensitive.name then argNotices args else [])
    ++ (if built then [name] else [])

end Pattern

end StoryValues
