import SchemaDiagram.Number.Metric

/-! # Points and rectangles

The canvas has its origin at the top left; `y` grows downwards. Coordinates are of any type with the
operations that a function needs, so that the same geometry runs on mixed numbers and can be
reasoned about on exact ones. -/

namespace SchemaDiagram

variable {K : Type}

/-- A point of the canvas. -/
structure Point (K : Type) where
  /-- The distance from the left edge. -/
  x : K
  /-- The distance from the top edge. -/
  y : K
deriving DecidableEq, Repr

namespace Point

/-- The point moved by `dx` and `dy`. -/
def offset [Add K] (p : Point K) (dx dy : K) : Point K := ⟨p.x + dx, p.y + dy⟩

/-- The point half way between two points. -/
def midpoint [Add K] [Div K] [NatCast K] (p q : Point K) : Point K :=
  ⟨(p.x + q.x) / ((2 : Nat) : K), (p.y + q.y) / ((2 : Nat) : K)⟩

/-- The point at a distance from `p` on the ray through `target`; `p` itself where the two are
equal. -/
def towards [Add K] [Sub K] [Mul K] [Div K] [NatCast K] [LE K] [DecidableLE K] [Metric K]
    (p target : Point K) (distance : K) : Point K :=
  let dx := target.x - p.x
  let dy := target.y - p.y
  let length := Metric.length dx dy
  let zero : K := ((0 : Nat) : K)
  let ratio := distance / if length ≤ zero ∧ zero ≤ length then ((1 : Nat) : K) else length
  ⟨p.x + dx * ratio, p.y + dy * ratio⟩

end Point

/-- A rectangle with its sides along the axes. -/
structure Rect (K : Type) where
  /-- The left edge. -/
  x : K
  /-- The top edge. -/
  y : K
  /-- The extent to the right. -/
  width : K
  /-- The extent downwards. -/
  height : K
deriving DecidableEq, Repr

namespace Rect

/-- The right edge. -/
def right [Add K] (r : Rect K) : K := r.x + r.width

/-- The bottom edge. -/
def bottom [Add K] (r : Rect K) : K := r.y + r.height

/-- The middle between left and right. -/
def centerX [Add K] [Div K] [NatCast K] (r : Rect K) : K := r.x + r.width / ((2 : Nat) : K)

/-- The middle between top and bottom. -/
def centerY [Add K] [Div K] [NatCast K] (r : Rect K) : K := r.y + r.height / ((2 : Nat) : K)

/-- Whether the horizontal extents of two rectangles have inner points in common. -/
def SpansOverlap [Add K] [LT K] (r s : Rect K) : Prop := r.x < s.right ∧ s.x < r.right

instance [Add K] [LT K] [DecidableLT K] (r s : Rect K) : Decidable (r.SpansOverlap s) :=
  inferInstanceAs (Decidable (r.x < s.right ∧ s.x < r.right))

/-- The least rectangle around two rectangles. -/
def union [Add K] [Sub K] [LT K] [DecidableLT K] (r s : Rect K) : Rect K :=
  let left := smaller r.x s.x
  let top := smaller r.y s.y
  ⟨left, top, larger r.right s.right - left, larger r.bottom s.bottom - top⟩

end Rect

end SchemaDiagram
