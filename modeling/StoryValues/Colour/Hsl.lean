import StoryValues.Value.Basic

/-
  HUE, SATURATION AND LIGHTNESS, and the blending of colours.

  A hue is an angle in degrees and wraps around; saturation and lightness are fractions.  All
  formulas are evaluated operation by operation in the arithmetic of `Number`, so they round where it
  rounds and fault where it faults.
-/

namespace StoryValues

namespace Colour

/-! ## Constants -/

/-- The double nearest to a quotient. -/
def ratio (num den : Nat) : Number := .real (Double.ofRatio false num den)

def one : Number := ratio 1 1
def two : Number := ratio 2 1
def four : Number := ratio 4 1
def six : Number := ratio 6 1
def half : Number := ratio 1 2
def sixth : Number := ratio 1 6
def third : Number := ratio 1 3
def twoThirds : Number := ratio 2 3
def blending : Number := ratio 6 10

/-! ## To channels -/

/-- The value of a channel whose hue is this far around the circle, between two levels. -/
def level (low high hue : Number) : Except Fault Number := do
  let hue ← hue.mod one
  let step (part : Number) : Except Fault Number := do
    low.add (← (← (← high.sub low).mul part).mul six)
  if hue.lt sixth then step hue
  else if hue.lt half then return high
  else if hue.lt twoThirds then step (← twoThirds.sub hue)
  else return low

/-- The three channels, as fractions, of a hue in turns with a lightness and a saturation. -/
def levels (hue lightness saturation : Number) : Except Fault (Number × Number × Number) := do
  if saturation.isZero then return (lightness, lightness, lightness)
  let high ←
    if lightness.le half then lightness.mul (← one.add saturation)
    else (← lightness.add saturation).sub (← lightness.mul saturation)
  let low ← (← two.mul lightness).sub high
  let red ← level low high (← hue.add third)
  let green ← level low high hue
  let blue ← level low high (← hue.sub third)
  return (red, green, blue)

/-- A fraction as a whole channel. -/
def wholeChannel (fraction : Number) : Except Fault Number := do
  return .int (← (← fraction.mul (.int 255)).round)

/-- The colour of a hue in degrees, a saturation and a lightness. -/
def ofHsl (hue saturation lightness alpha : Number) : Except Fault Colour := do
  let turn ← (← hue.mod (.int 360)).div (.int 360)
  let (red, green, blue) ← levels turn lightness saturation
  return ⟨← wholeChannel red, ← wholeChannel green, ← wholeChannel blue, alpha⟩

/-! ## From channels -/

/-- Hue in degrees, saturation, lightness and opacity. -/
structure Hsla where
  hue : Number
  saturation : Number
  lightness : Number
  alpha : Number

/-- The larger of two numbers, the first if neither is. -/
def larger (a b : Number) : Number := if a.lt b then b else a

/-- The smaller of two numbers, the first if neither is. -/
def smaller (a b : Number) : Number := if b.lt a then b else a

/-- Hue in turns, lightness and saturation of three fractions. -/
def analyse (r g b : Number) : Except Fault (Number × Number × Number) := do
  let top := larger (larger r g) b
  let bottom := smaller (smaller r g) b
  let sum ← top.add bottom
  let range ← top.sub bottom
  let lightness ← sum.div two
  if bottom.sameValue top then return (.real .zero, lightness, .real .zero)
  let saturation ←
    if lightness.le half then range.div sum else range.div (← two.sub sum)
  let gap (c : Number) : Except Fault Number := do (← top.sub c).div range
  let red ← gap r
  let green ← gap g
  let blue ← gap b
  let hue ←
    if r.sameValue top then blue.sub green
    else if g.sameValue top then (← two.add red).sub blue
    else (← four.add green).sub red
  return (← (← hue.div six).mod one, lightness, saturation)

/-- A colour by hue, saturation and lightness; the hue is a whole number of degrees below 360. -/
def toHsla (c : Colour) : Except Fault Hsla := do
  let fraction (channel : Number) := channel.div (.int 255)
  let (hue, lightness, saturation) ←
    analyse (← fraction c.red) (← fraction c.green) (← fraction c.blue)
  let degrees ← (← hue.mul (.int 360)).round
  return ⟨.int (degrees.fmod 360), saturation, lightness, c.alpha⟩

/-! ## Blending -/

/-- A blended channel: six tenths of the sum, rounded, and 255 at most. -/
def blendChannel (a b : Number) : Except Fault Number := do
  let n : Number := .int (← (← (← a.add b).mul blending).round)
  return smaller n (.int 255)

/-- Two colours as one.  The opacity is the mean of theirs. -/
def blend (c d : Colour) : Except Fault Colour := do
  return ⟨← blendChannel c.red d.red, ← blendChannel c.green d.green,
    ← blendChannel c.blue d.blue, ← (← c.alpha.add d.alpha).div (.int 2)⟩

end Colour

end StoryValues
