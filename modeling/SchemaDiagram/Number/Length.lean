import SchemaDiagram.Number.Binary

/-! # The length of a vector

The length of a vector of two doubles is the root of the sum of their squares. The coordinates are
scaled into the unit square, every square is taken apart into products that lose nothing, the sum
carries along what its additions cut off, and the root is corrected once by the error of its own
square.

* **`lengthOfFloats x y`** — the length of `(x, y)`. -/

namespace SchemaDiagram

/-- The leading and the trailing half of a double of size below one. -/
def splitHalves (x : Float) : Float × Float :=
  let t := x * 134217729
  let leading := t - (t - x)
  (leading, x - leading)

/-- A sum that starts at one, with what its additions have cut off: of leading products, of mixed
ones and of trailing ones. -/
structure SquareSum where
  /-- The sum. -/
  total : Float
  /-- What the leading products have lost. -/
  leading : Float
  /-- What the mixed products have lost. -/
  mixed : Float
  /-- What the trailing products have lost. -/
  trailing : Float

namespace SquareSum

/-- The empty sum. -/
def start : SquareSum := ⟨1, 0, 0, 0⟩

/-- The sum without the one that it starts at. -/
def value (s : SquareSum) : Float := s.total - 1 + (s.leading + s.mixed + s.trailing)

/-- The sum with a leading product. -/
def addLeading (s : SquareSum) (x : Float) : SquareSum :=
  { s with total := s.total + x, leading := s.leading + ((s.total - (s.total + x)) + x) }

/-- The sum with a mixed product. -/
def addMixed (s : SquareSum) (x : Float) : SquareSum :=
  { s with total := s.total + x, mixed := s.mixed + ((s.total - (s.total + x)) + x) }

/-- The sum with a trailing product. -/
def addTrailing (s : SquareSum) (x : Float) : SquareSum :=
  { s with total := s.total + x, trailing := s.trailing + ((s.total - (s.total + x)) + x) }

/-- The sum with the square of a number; the square of the trailing half is too small for the
total. -/
def addSquare (s : SquareSum) (x : Float) : SquareSum :=
  let (a, b) := splitHalves x
  let s := (s.addLeading (a * a)).addMixed (2 * a * b)
  { s with trailing := s.trailing + b * b }

/-- The sum without the square of a number. -/
def subtractSquare (s : SquareSum) (x : Float) : SquareSum :=
  let (a, b) := splitHalves x
  ((s.addLeading (-a * a)).addMixed (-2 * a * b)).addTrailing (-b * b)

end SquareSum

/-- The least binary exponent whose inverse power is a double. -/
def leastScale : Int := -1023

/-- The length of a vector of two doubles that are finite and not negative; `most` is the larger. -/
def finiteLength (x y most : Float) : Float :=
  let (_, exponent) := most.frExp
  if leastScale ≤ exponent then
    let scale := Float.scaleB 1 (-exponent)
    let sum := (SquareSum.start.addSquare (x * scale)).addSquare (y * scale)
    let root := sum.value.sqrt
    (root + (sum.subtractSquare root).value / (2 * root)) / scale
  else
    -- Such numbers are too small to be scaled by a power of two.
    let a := x / most
    let b := y / most
    let sum := (SquareSum.start.addLeading (a * a)).addLeading (b * b)
    most * (sum.total - 1 + sum.leading).sqrt

/-- The length of the vector `(x, y)`: infinite when one coordinate is, else no number when one
coordinate is none. -/
def lengthOfFloats (x y : Float) : Float :=
  let x := x.abs
  let y := y.abs
  if x.isInf || y.isInf then nearestFloat false (Nat.pow 2 2000) 1
  else if x.isNaN || y.isNaN then x + y
  else
    let most := if x < y then y else x
    if most == 0 then most else finiteLength x y most

end SchemaDiagram
