import StoryValues.Number.Double

/-
  DECIMAL TEXT of doubles: which digits, how they are laid out, and how they are read.

  1. **Which digits.**  A decimal *reads back* to a double when no other double is nearer to it, the
     midpoint between two neighbours belonging to the one of even index.  `shortest` takes the first
     grid 10^p, coarsest first, on which one of the two grid points around the value reads back; of
     two such points the nearer, and at equal distance the even one.
  2. **Layout.**  A value from 10^-4 up to but not including 10^16 is written with a point, others
     with a signed exponent of at least two digits.
  3. **Reading.**  Digits, an optional point and an optional exponent make an exact quotient, which
     is rounded once.
-/

namespace StoryValues

/-- A power of ten. -/
def tenTo (k : Nat) : Nat := Nat.pow 10 k

/-- A power of five. -/
def fiveTo (k : Nat) : Nat := Nat.pow 5 k

/-- The number `digits * 10 ^ exponent`. -/
structure Decimal where
  digits : Nat
  exponent : Int
  deriving DecidableEq

namespace Decimal

/-! ## Which digits -/

/-- A positive double of the given index, measured on the grid of multiples of `10 ^ p`: the value is
`value / grid` grid steps, and its neighbours' midpoints are `low / (2 * grid)` and
`high / (2 * grid)`. -/
structure Measure where
  value : Nat
  low : Nat
  high : Nat
  grid : Nat

/-- The measure of the double of this index on the grid of `10 ^ p`. -/
def Measure.of (index : Nat) (p : Int) : Measure :=
  let scale := tenTo (-p).toNat
  let u := Double.unitsAt index
  { value := u * scale
    low := (Double.unitsAt (index - 1) + u) * scale
    high := (u + Double.unitsAt (index + 1)) * scale
    grid := Double.unitsPerOne * tenTo p.toNat }

/-- Whether no double is nearer to `d` grid steps than the measured one. -/
def Measure.readsBack (m : Measure) (index d : Nat) : Bool :=
  let twice := 2 * d * m.grid
  if index % 2 = 0 then m.low ≤ twice && twice ≤ m.high else m.low < twice && twice < m.high

/-- The grid point next to the value that reads back, if there is one. -/
def Measure.pick? (m : Measure) (index : Nat) : Option Nat :=
  let below := m.value / m.grid
  match m.readsBack index below, m.readsBack index (below + 1) with
  | false, false => none
  | true, false => some below
  | false, true => some (below + 1)
  | true, true =>
    match compare (2 * m.value) ((2 * below + 1) * m.grid) with
    | .lt => some below
    | .gt => some (below + 1)
    | .eq => some (if below % 2 = 0 then below else below + 1)

/-- The least `k` with value below `10 ^ k`, near a guess from the binary logarithm. -/
def magnitude (index : Nat) : Int :=
  let u := Double.unitsAt index
  let guess := ((u.log2 : Int) - 1074) * 30103 / 100000
  let below (k : Int) : Bool := u * tenTo (-k).toNat < Double.unitsPerOne * tenTo k.toNat
  ([guess - 1, guess, guess + 1].find? below).getD (guess + 2)

/-- Moves trailing zeros of the digits into the exponent. -/
def strip (d : Nat) (p : Int) : Decimal :=
  if h : d ≠ 0 ∧ d % 10 = 0 then strip (d / 10) (p + 1) else ⟨d, p⟩
termination_by d
decreasing_by exact Nat.div_lt_self (by omega) (by omega)

/-- The fewest digits that read back to the positive double of this index. -/
def shortest (index : Nat) : Decimal :=
  let k := magnitude index
  let found := (List.range 17).findSome? fun (n : Nat) =>
    let p := k - ((n : Int) + 1)
    ((Measure.of index p).pick? index).map fun d => strip d p
  found.getD (strip (Double.unitsAt index * fiveTo 1074) (-1074))

/-! ## Layout -/

/-- Decisions of a notation for doubles. -/
structure Layout where
  /-- exponents of the leading digit from here … -/
  pointFrom : Int
  /-- … up to but not including here are written with a point -/
  pointBelow : Int
  /-- least number of digits of a written exponent -/
  exponentWidth : Nat

/-- Values from 10^-4 and below 10^16 are written with a point; a written exponent has a sign and at
least two digits. -/
def plain : Layout := ⟨-4, 16, 2⟩

/-- So many zeros. -/
def zeros (n : Nat) : String := String.ofList (List.replicate n '0')

/-- Pads digits with zeros on the left. -/
def padLeft (width : Nat) (s : String) : String := zeros (width - s.length) ++ s

/-- Lays out a positive decimal.  A whole number below the limit still shows a point and a zero. -/
def render (layout : Layout) (d : Decimal) : String :=
  let ds := toString d.digits
  let count : Int := ds.length
  let e := d.exponent + count - 1
  if layout.pointFrom ≤ e ∧ e < layout.pointBelow then
    if e < 0 then "0." ++ zeros (-e - 1).toNat ++ ds
    else if e + 1 < count then
      let split := (e + 1).toNat
      String.ofList (ds.toList.take split) ++ "." ++ String.ofList (ds.toList.drop split)
    else ds ++ zeros (e + 1 - count).toNat ++ ".0"
  else
    let tail := String.ofList (ds.toList.drop 1)
    String.ofList (ds.toList.take 1) ++ (if tail = "" then "" else "." ++ tail)
      ++ "e" ++ (if e < 0 then "-" else "+") ++ padLeft layout.exponentWidth (toString e.natAbs)

end Decimal

namespace Double

/-- The text of any double: fewest digits that read back, always with a point or an exponent. -/
def text : Double → String
  | .nan _ => "nan"
  | .infinite negative => if negative then "-inf" else "inf"
  | .finite negative e f =>
    let body := if index e f = 0 then "0.0" else (Decimal.shortest (index e f)).render Decimal.plain
    if negative then "-" ++ body else body

/-! ## Reading -/

/-- The value of ASCII digits written one after another. -/
def digitsValue (ds : List Char) : Nat :=
  ds.foldl (fun n c => 10 * n + (c.toNat - '0'.toNat)) 0

/-- The nearest double to `digits * 10 ^ exponent`. -/
def ofDecimal (negative : Bool) (d : Decimal) : Double :=
  ofRatio negative (d.digits * tenTo d.exponent.toNat) (tenTo (-d.exponent).toNat)

/-- Splits a sign off the front. -/
def splitSign : List Char → Bool × List Char
  | '-' :: cs => (true, cs)
  | '+' :: cs => (false, cs)
  | cs => (false, cs)

/-- Reads an exponent mark with its signed digits; an empty text is the exponent zero. -/
def readExponent : List Char → Option Int
  | [] => some 0
  | c :: cs =>
    let (negative, ds) := splitSign cs
    if (c = 'e' ∨ c = 'E') ∧ ds ≠ [] ∧ ds.all Char.isDigit then
      some (if negative then -(digitsValue ds : Int) else digitsValue ds)
    else none

/-- Reads a decimal: ASCII digits with an optional point and an optional exponent. -/
def readDecimal? (cs : List Char) : Option Decimal :=
  let whole := cs.takeWhile Char.isDigit
  let rest := cs.dropWhile Char.isDigit
  let (part, rest) := match rest with
    | '.' :: r => (r.takeWhile Char.isDigit, r.dropWhile Char.isDigit)
    | r => ([], r)
  if whole = [] ∧ part = [] then none
  else (readExponent rest).map fun e => ⟨digitsValue (whole ++ part), e - part.length⟩

/-- Reads a double: a sign, then `inf`, `nan`, or a decimal. -/
def read? (s : String) : Option Double :=
  let (negative, cs) := splitSign s.toList
  if cs = "inf".toList then some (.infinite negative)
  else if cs = "nan".toList then some (.nan none)
  else (readDecimal? cs).map (ofDecimal negative)

example : (add (ofRatio false 1 10) (ofRatio false 2 10)).text = "0.30000000000000004" := by decide +kernel
example : (ofRatio true 3 2).text = "-1.5" ∧ (ofRatio false (tenTo 16) 1).text = "1e+16" := by decide +kernel

end Double

end StoryValues
