/-! # Lengths

The layout computes with coordinates of any type that has the four operations and an order. One
operation is not among those and is given by a class: the length of a vector. -/

namespace SchemaDiagram

/-- Coordinates with a length of a vector. -/
class Metric (K : Type) where
  /-- The length of the vector with the two coordinates. -/
  length : K → K → K

/-- The larger of two coordinates, the first one where neither is larger. -/
def larger {K : Type} [LT K] [DecidableLT K] (a b : K) : K := if a < b then b else a

/-- The smaller of two coordinates, the first one where neither is smaller. -/
def smaller {K : Type} [LT K] [DecidableLT K] (a b : K) : K := if b < a then b else a

/-- The distance from zero. -/
def magnitude {K : Type} [NatCast K] [Sub K] [LT K] [DecidableLT K] (a : K) : K :=
  if a < ((0 : Nat) : K) then ((0 : Nat) : K) - a else a

/-- Whether lengths can be divided by a scale: it is not zero or below. -/
def isScale {K : Type} [NatCast K] [LE K] [DecidableLE K] (scale : K) : Bool :=
  !decide (scale ≤ ((0 : Nat) : K))

end SchemaDiagram
