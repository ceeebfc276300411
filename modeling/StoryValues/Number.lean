import StoryValues.Fault
import StoryValues.Number.Decimal
import StoryValues.Text.Digit

/-
  NUMBERS of a story: integers of any size and doubles, each kept as what it is.

  1. **Comparison is exact.**  An integer and a double are compared by value, never by converting
     one into the other, so `sameValue` is an equivalence on everything that is a number.
  2. **Arithmetic on two integers is exact;** as soon as a double takes part both operands become
     doubles.  An integer too large for that is a fault (`Fault.integerTooLarge`).
  3. **Printing.**  Whole values print as digits alone, whichever kind they are, so numbers of one
     value have one text (`Number.written`).  An integer of more than `maxDigits` digits is not printed
     at all: writing it is a fault (`Fault.integerTooLong`).
-/

namespace StoryValues

/-- A number of a story, or a double that is no number. -/
inductive Number where
  | int (n : Int)
  | real (x : Double)
  deriving DecidableEq

namespace Number

/-! ## Value and order -/

/-- Whether this is a number at all. -/
def isNumber : Number → Bool
  | .int _ => true
  | .real x => x.isNumber

/-- Whether this is one of the two infinities. -/
def isInfinite : Number → Bool
  | .int _ => false
  | .real x => x.isInfinite

/-- The value in units, for anything finite. -/
def units : Number → Int
  | .int n => n * Double.unitsPerOne
  | .real x => x.units

/-- Position on the line: below, on, or above the finite numbers. -/
def side : Number → Int
  | .real (.infinite negative) => if negative then -1 else 1
  | _ => 0

/-- Whether two numbers have the same value; what is no number has the value of none. -/
def sameValue (a b : Number) : Bool :=
  a.isNumber && b.isNumber && a.side == b.side && a.units == b.units

/-- Whether the first value is less than the second; false where either is no number. -/
def lt (a b : Number) : Bool :=
  a.isNumber && b.isNumber && (a.side < b.side || (a.side == b.side && a.units < b.units))

/-- Whether the first value is at most the second; false where either is no number. -/
def le (a b : Number) : Bool := a.lt b || a.sameValue b

/-! ## Conversion -/

/-- The nearest double. -/
def toDouble : Number → Except Fault Double
  | .int n => (Double.ofInt? n).elim (.error .integerTooLarge) .ok
  | .real x => .ok x

/-- Whether the value is whole.  The test looks at the nearest double of an integer, so an integer
beyond all doubles is a fault. -/
def isWhole (n : Number) : Except Fault Bool :=
  n.toDouble.map fun x => x.isWhole

/-- The whole part, toward zero, of a finite value. -/
def truncate : Number → Int
  | .int n => n
  | .real x => x.truncate

/-- The nearest integer, a tie going to the even one. -/
def round : Number → Except Fault Int
  | .int n => .ok n
  | .real x => match x with
    | .finite .. => .ok x.round
    | .infinite _ => .error .infiniteToInteger
    | .nan _ => .error .nanToInteger

/-! ## Arithmetic -/

/-- Applies an exact operation to two integers, else a rounded one to two doubles. -/
def combine (exact : Int → Int → Int) (rounded : Double → Double → Double) :
    Number → Number → Except Fault Number
  | .int a, .int b => .ok (.int (exact a b))
  | a, b => do
    let x ← a.toDouble
    let y ← b.toDouble
    return .real (rounded x y)

/-- The sum. -/
def add : Number → Number → Except Fault Number := combine (· + ·) Double.add

/-- The difference. -/
def sub : Number → Number → Except Fault Number := combine (· - ·) Double.sub

/-- The product. -/
def mul : Number → Number → Except Fault Number := combine (· * ·) Double.mul

/-- Whether this is zero, of either kind and sign. -/
def isZero : Number → Bool
  | .int n => n == 0
  | .real x => match x with
    | .finite .. => x.units == 0
    | _ => false

/-- The rounded quotient.  Two integers are divided exactly before rounding. -/
def div (a b : Number) : Except Fault Number :=
  match a, b with
  | .int m, .int n =>
    if n = 0 then .error (.divisionByZero "division by zero")
    else match Double.ofRatio (decide (m < 0) != decide (n < 0)) m.natAbs n.natAbs with
      | .infinite _ => .error .quotientTooLarge
      | x => .ok (.real x)
  | a, b => do
    let x ← a.toDouble
    let y ← b.toDouble
    if (Number.real y).isZero then throw (.divisionByZero "float division by zero")
    return .real (x.div y)

/-- The remainder with the sign of the divisor. -/
def mod (a b : Number) : Except Fault Number :=
  if b.isZero then .error (.divisionByZero "modulo by zero") else combine Int.fmod Double.mod a b

/-! ## Text -/

/-- Whether a number can be written: an integer of at most `maxDigits` digits, and any double. -/
def isShort : Number → Bool
  | .int n => n.natAbs < tenTo maxDigits
  | .real _ => true

/-- An integer in the range of doubles has few digits. -/
theorem isShort_of_lt {n : Int} (h : n.natAbs < twoTo 1024) : (Number.int n).isShort = true := by
  have hpow : twoTo 1024 < tenTo maxDigits := by decide +kernel
  rw [isShort, decide_eq_true_eq]
  exact Nat.lt_trans h hpow

/-- The text of a number in a story, however long: whole values as digits, others with their fewest
digits. -/
def written : Number → String
  | .int n => toString n
  | .real x => match x with
    | .infinite negative => if negative then "-Infinity" else "Infinity"
    | _ => if x.isWhole then toString x.truncate else x.text

/-- How a story writes a number. -/
def format (n : Number) : Except Fault String :=
  if n.isShort then .ok n.written else .error .integerTooLong

/-- A number that is short enough is written as its text. -/
theorem format_of_isShort {n : Number} (h : n.isShort = true) : n.format = .ok n.written := if_pos h

/-- An integer with too many digits is not written, which is a fault.  Every double is short enough. -/
theorem format_of_not_isShort {n : Number} (h : n.isShort = false) : n.format = .error .integerTooLong :=
  if_neg (ne_true_of_eq_false h)

/-- What was written is the text of a number that is not too long. -/
theorem format_eq_ok {n : Number} {s : String} : n.format = .ok s ↔ n.isShort = true ∧ n.written = s := by
  unfold format
  split
  · simp [*]
  · simp [*]

/-- How the kinds of number are told apart: doubles always show a point or an exponent. -/
def text : Number → Except Fault String
  | .int n => (Number.int n).format
  | .real x => .ok x.text

example : sameValue (.int 1) (.real (.ofRatio false 1 1)) = true := by decide +kernel
example : (Number.real (.ofRatio false 5 2)).format.toOption = some "2.5" := by decide +kernel
example : (Number.int (10 ^ 4300)).isShort = false := by decide +kernel

end Number

end StoryValues
