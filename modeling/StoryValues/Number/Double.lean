import StoryValues.Tag

/-
  DOUBLES, as exact data.  A double is kept as its three fields: a sign, one of 2047 exponents and
  a fraction of 52 bits.  Its value is then a whole number of **units** of 2^-1074, the distance
  between the smallest doubles, so every comparison and every intermediate result is an exact
  computation on integers.

  1. **Order.**  Non-negative doubles, listed in increasing order, are numbered by
     `index = exponent * 2^52 + fraction`.  Indices below 2^53 count units one by one; from there on
     each run of 2^52 indices doubles the step.
  2. **Rounding.**  `indexOf num den` is the index of the double nearest to the quotient of units
     `num / den`, a tie going to the even index.  A carry out of the fraction moves to the next
     exponent without a special case, and indices past the last exponent are infinite.
  3. **Arithmetic.**  Each operation computes its exact result and rounds once.

  A result that is no number carries no tag; one that is read from outside may carry a tag, since
  such data are told apart by identity.
-/

namespace StoryValues

/-- A power of two. -/
def twoTo (k : Nat) : Nat := Nat.pow 2 k

theorem twoTo_pos (k : Nat) : 0 < twoTo k := Nat.pow_pos (by decide)

/-- A double in binary: sign and fields of a finite one, an infinity, or no number at all. -/
inductive Double where
  | finite (negative : Bool) (exponent : Fin 2047) (fraction : Fin (twoTo 52))
  | infinite (negative : Bool)
  | nan (tag : Tag)
  deriving DecidableEq

/-- `num / den` rounded to a whole number, a tie going to the even one. -/
def roundHalfEven (num den : Nat) : Nat :=
  let q := num / den
  match compare (2 * (num % den)) den with
  | .lt => q
  | .gt => q + 1
  | .eq => if q % 2 = 0 then q else q + 1

namespace Double

/-! ## Value -/

/-- How many units make one. -/
def unitsPerOne : Nat := twoTo 1074

/-- The distance from zero, in units, of the double with this index. -/
def unitsAt (index : Nat) : Nat :=
  let exponent := index / twoTo 52
  let fraction := index % twoTo 52
  if exponent = 0 then fraction else (twoTo 52 + fraction) * twoTo (exponent - 1)

/-- The place of a finite double among those of its sign, counted from zero. -/
def index (exponent : Fin 2047) (fraction : Fin (twoTo 52)) : Nat :=
  exponent.val * twoTo 52 + fraction.val

/-- The double of the given sign at an index; past the last finite one it is infinite. -/
def ofIndex (negative : Bool) (index : Nat) : Double :=
  if h : index / twoTo 52 < 2047 then
    .finite negative ⟨index / twoTo 52, h⟩ ⟨index % twoTo 52, Nat.mod_lt _ (twoTo_pos 52)⟩
  else
    .infinite negative

/-- The exact value in units; zero where there is no finite value. -/
def units : Double → Int
  | .finite negative e f =>
    let u : Int := unitsAt (index e f)
    if negative then -u else u
  | _ => 0

/-- Whether the sign is negative; a negative zero has one. -/
def isNegative : Double → Bool
  | .finite negative _ _ => negative
  | .infinite negative => negative
  | .nan _ => false

/-- Whether the value is a number, an infinity included. -/
def isNumber : Double → Bool
  | .nan _ => false
  | _ => true

/-- Whether the value is positive or negative infinity. -/
def isInfinite : Double → Bool
  | .infinite _ => true
  | _ => false

/-- Whether the value is finite and has no fractional part. -/
def isWhole : Double → Bool
  | x@(.finite ..) => x.units % unitsPerOne = 0
  | _ => false

/-- The whole part of a finite value, toward zero. -/
def truncate (x : Double) : Int := x.units.tdiv unitsPerOne

/-- The whole number nearest to a finite value, a tie going to the even one. -/
def round (x : Double) : Int :=
  let n : Int := roundHalfEven x.units.natAbs unitsPerOne
  if x.units < 0 then -n else n

/-! ## Rounding -/

/-- The index of the double nearest to `num / den` units. -/
def indexOf (num den : Nat) : Nat :=
  let shift := (num / den).log2 - 52
  shift * twoTo 52 + roundHalfEven num (den * twoTo shift)

/-- The double nearest to `num / den`, with the given sign. -/
def ofRatio (negative : Bool) (num den : Nat) : Double :=
  ofIndex negative (indexOf (num * unitsPerOne) den)

/-- The double nearest to a number of units; zero is positive. -/
def ofUnits (u : Int) : Double := ofIndex (u < 0) (indexOf u.natAbs 1)

/-- A double that is not infinite. -/
def finite? : Double → Option Double
  | .infinite _ => none
  | x => some x

/-- The double nearest to an integer, unless that is beyond the last finite one. -/
def ofInt? (n : Int) : Option Double := finite? (ofRatio (n < 0) n.natAbs 1)

/-- The zero without a sign. -/
def zero : Double := ofIndex false 0

/-! ## Arithmetic: the exact result, rounded once -/

/-- The double of the other sign. -/
def neg : Double → Double
  | .finite s e f => .finite (!s) e f
  | .infinite s => .infinite (!s)
  | .nan t => .nan t

/-- The rounded sum.  Opposite infinities have none; a zero sum is negative only if both terms are. -/
def add : Double → Double → Double
  | .nan _, _ | _, .nan _ => .nan none
  | .infinite s, .infinite t => if s = t then .infinite s else .nan none
  | .infinite s, _ | _, .infinite s => .infinite s
  | x@(.finite s ..), y@(.finite t ..) =>
    let u := x.units + y.units
    if u = 0 then ofIndex (s && t) 0 else ofUnits u

/-- The rounded difference. -/
def sub (x y : Double) : Double := add x (neg y)

/-- The rounded product.  Zero times an infinity has none. -/
def mul : Double → Double → Double
  | .nan _, _ | _, .nan _ => .nan none
  | .infinite s, y => if y.isInfinite || y.units != 0 then .infinite (s != y.isNegative) else .nan none
  | x, .infinite t => if x.units != 0 then .infinite (x.isNegative != t) else .nan none
  | x@(.finite s ..), y@(.finite t ..) =>
    ofIndex (s != t) (indexOf (x.units * y.units).natAbs unitsPerOne)

/-- The rounded quotient by anything but zero. -/
def div : Double → Double → Double
  | .nan _, _ | _, .nan _ => .nan none
  | .infinite _, .infinite _ => .nan none
  | .infinite s, y => .infinite (s != y.isNegative)
  | x, .infinite t => ofIndex (x.isNegative != t) 0
  | x@(.finite s ..), y@(.finite t ..) => ofRatio (s != t) x.units.natAbs y.units.natAbs

/-- The remainder that has the sign of the divisor, for any divisor but zero. -/
def mod : Double → Double → Double
  | .nan _, _ | _, .nan _ | .infinite _, _ => .nan none
  | x@(.finite ..), .infinite t =>
    if x.units = 0 then ofIndex t 0 else if x.isNegative = t then x else .infinite t
  | x@(.finite ..), y@(.finite t ..) =>
    let r := x.units.tmod y.units
    if r = 0 then ofIndex t 0
    else if decide (r < 0) = t then ofUnits r
    else ofUnits (r + y.units)

/-- Whether two doubles have the same value.  One that is no number has the value of none. -/
def sameValue : Double → Double → Bool
  | .nan _, _ | _, .nan _ => false
  | .infinite s, .infinite t => s = t
  | .infinite _, _ | _, .infinite _ => false
  | x, y => x.units = y.units

example : (ofRatio false 1 2).units = twoTo 1073 := by decide +kernel
example : add (ofRatio false 1 10) (ofRatio false 2 10) ≠ ofRatio false 3 10 := by decide +kernel
example : ofRatio false (twoTo 1024) 1 = .infinite false := by decide +kernel

end Double

end StoryValues
