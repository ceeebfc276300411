import StoryValues.Datatype.Basic
import StoryValues.Pattern.Step
import StoryValues.Text.Alphanumeric
import StoryValues.Text.Blank
import StoryValues.Text.Digit

/-
  MATCHING a datatype against text.  Each fragment of a pattern is a `Step`; the shape of the pattern
  says how the steps go together, and the whole text has to be read.

  1. **Classes.**  Six datatypes are classes of single characters and one is a line end.  `string`
     reads as little of any text as will do, spread or not.
  2. **Letter case.**  A folded pattern reads letters in either case, its own and those of all patterns
     in it; the classes of upper and lower case then are one.
  3. **Captures** are numbered from the outside in and from left to right (`Fragment.captures` counts
     them), in the order in which typed variables are written.
-/

namespace StoryValues

/-! ## Characters -/

/-- The characters of a datatype of single characters. -/
def classOf? (fold : Bool) (name : String) : Option (Char → Bool) :=
  match name with
  | "alphanumeric" => some isAlphanumeric
  | "whitespace" => some isBlank
  | "digit" => some isDigit
  | "uppercase" => some (if fold then Case.isCased else Case.isUppercase)
  | "lowercase" => some (if fold then Case.isCased else Case.isLowercase)
  | "anycase" => some Case.isCased
  | _ => none

/-- The step of a datatype of single characters or line ends. -/
def pieceOf? (fold : Bool) (name : String) : Option Step :=
  if name = "newline" then some Step.newline else (classOf? fold name).map Step.char

/-- What stands for a character of a text. -/
def letterTest (fold : Bool) (c : Char) : Char → Bool :=
  if fold then fun x => (Case.variants c).contains x else fun x => x == c

/-! ## Bounds -/

namespace Bounds

/-- The fewest turns. -/
def least : Bounds → Nat
  | once => 1
  | atLeast min => min.truncate.toNat
  | between min _ => min.truncate.toNat

/-- The most turns, if there is a most. -/
def most : Bounds → Option Nat
  | once => none
  | atLeast _ => none
  | between _ max => if max.isInfinite then none else some max.truncate.toNat

/-- The number of turns from which on they cannot be counted. -/
def tooMany : Nat := 4294967295

/-- Whether a bound is too large to be counted up to. -/
def overflows (b : Bounds) : Bool :=
  tooMany ≤ b.least || b.most.any (tooMany ≤ ·)

end Bounds

/-! ## Steps -/

mutual

/-- How many captures a datatype makes. -/
def Datatype.captures : Datatype → Nat
  | .named .. => 0
  | .pattern _ parts _ _ => Fragment.capturesIn parts

/-- How many captures a fragment makes. -/
def Fragment.captures : Fragment → Nat
  | .text _ => 0
  | .type d => d.captures
  | .typed d _ _ => 1 + d.captures

/-- How many captures fragments make together. -/
def Fragment.capturesIn : List Fragment → Nat
  | [] => 0
  | f :: fs => f.captures + Fragment.capturesIn fs

end

mutual

/-- Whether a pattern repeats something too often to be counted. -/
def Datatype.overflows : Datatype → Bool
  | .named .. => false
  | .pattern shape parts _ _ =>
    (match shape with
      | .repeated bounds => bounds.overflows
      | _ => false) || Fragment.overflowsIn parts

/-- Whether a fragment repeats something too often to be counted. -/
def Fragment.overflows : Fragment → Bool
  | .text _ => false
  | .type d => d.overflows
  | .typed d _ _ => d.overflows

/-- Whether one of these fragments repeats something too often to be counted. -/
def Fragment.overflowsIn : List Fragment → Bool
  | [] => false
  | f :: fs => f.overflows || Fragment.overflowsIn fs

end

mutual

/-- The step of a datatype.  `fold` says that letter case does not matter here, `more` that the
datatype is taken as spread, and captures count from `base`. -/
def Datatype.step (fold more : Bool) (base : Nat) : Datatype → Step
  | .named name spread =>
    if name = "string" then Step.anything
    else match pieceOf? fold name with
      | some piece => if spread || more then piece.star else piece
      | none => Step.never
  | .pattern shape parts folded spread =>
    let inside := Fragment.steps (fold || folded) base parts
    let once := match shape with
      | .sequence | .insensitive => inside
      | .either => Fragment.choices (fold || folded) base parts
      | .optional => inside.optional
      | .repeated bounds => inside.repeated bounds.least bounds.most
      | .notBefore => inside.notBefore
    if spread || more then once.star else once

/-- The step of a fragment. -/
def Fragment.step (fold : Bool) (base : Nat) : Fragment → Step
  | .text s => Step.text (s.toList.map (letterTest fold))
  | .type d => d.step fold false base
  | .typed d _ rest => Step.capture base (d.step fold rest (base + 1))

/-- The steps of fragments, one after another. -/
def Fragment.steps (fold : Bool) (base : Nat) : List Fragment → Step
  | [] => Step.done
  | f :: fs => Step.andThen (f.step fold base) (Fragment.steps fold (base + f.captures) fs)

/-- The steps of fragments, the first that leads on; of none, the step that reads nothing. -/
def Fragment.choices (fold : Bool) (base : Nat) : List Fragment → Step
  | [] => Step.done
  | [f] => f.step fold base
  | f :: fs => Step.orElse (f.step fold base) (Fragment.choices fold (base + f.captures) fs)

end

namespace Datatype

/-- The captures of a datatype that reads a whole text, if it does. -/
def fullMatch? (d : Datatype) (s : String) : Except Fault (Option Captures) :=
  if d.overflows then .error .repetitionTooLarge
  else .ok ((d.step false false 0).whole s.toList)

/-- Whether a datatype reads a whole text. -/
def readsAll (d : Datatype) (s : String) : Except Fault Bool :=
  (d.fullMatch? s).map Option.isSome

example :
    (((pattern .either [.text "a", .text "b"] false false).step false false 0).whole
      ['b']).isSome = true := by decide +kernel

end Datatype

end StoryValues
