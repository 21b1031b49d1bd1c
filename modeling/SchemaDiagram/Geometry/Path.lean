import SchemaDiagram.Geometry.Rect
import SchemaDiagram.Model.Display
import SchemaDiagram.Number.Decimal
import SchemaDiagram.Number.Mixed

/-! # Connection paths

A path leads from `start` over two control points `p₁` and `p₂` to `stop`: the control points are
the ends of the path pushed out sideways. Each line style draws another sequence of commands
between them. Every sequence begins with a move to `start` and ends at `stop`. -/

namespace SchemaDiagram

/-- What a path command draws. -/
inductive PathOp where
  | move
  | line
  | quadratic
  | cubic
deriving DecidableEq, Repr

/-- The letter of a command. -/
def PathOp.letter : PathOp → Char
  | move => 'M'
  | line => 'L'
  | quadratic => 'Q'
  | cubic => 'C'

/-- A command with its points, the last of which is where it ends. -/
structure PathCommand (K : Type) where
  /-- What is drawn. -/
  op : PathOp
  /-- The points before the last one. -/
  controls : List (Point K)
  /-- Where the command ends. -/
  target : Point K
deriving DecidableEq, Repr

namespace PathCommand

variable {K : Type}

/-- The points of the command in order. -/
def points (c : PathCommand K) : List (Point K) := c.controls ++ [c.target]

/-- Moves without drawing. -/
def moveTo (p : Point K) : PathCommand K := ⟨.move, [], p⟩

/-- Draws a straight line. -/
def lineTo (p : Point K) : PathCommand K := ⟨.line, [], p⟩

/-- Draws a curve with one control point. -/
def quadraticTo (control p : Point K) : PathCommand K := ⟨.quadratic, [control], p⟩

/-- Draws a curve with two control points. -/
def cubicTo (first second p : Point K) : PathCommand K := ⟨.cubic, [first, second], p⟩

end PathCommand

section Styles

variable {K : Type}

/-- One curve. -/
def curvePath (start p₁ p₂ stop : Point K) : List (PathCommand K) :=
  [.moveTo start, .cubicTo p₁ p₂ stop]

/-- Straight lines through the control points. -/
def obliquePath (start p₁ p₂ stop : Point K) : List (PathCommand K) :=
  [.moveTo start, .lineTo p₁, .lineTo p₂, .lineTo stop]

/-- Straight lines with a curve between the control points. -/
def roundObliquePath [Add K] [Div K] [NatCast K] (start p₁ p₂ stop : Point K) :
    List (PathCommand K) :=
  [.moveTo start, .lineTo p₁, .quadraticTo (p₁.midpoint p₂) p₂, .lineTo stop]

/-- The two corners of a path along the axes: its vertical run lies half way between the control
points. -/
def corners [Add K] [Div K] [NatCast K] (start p₁ p₂ stop : Point K) : Point K × Point K :=
  let middle := (p₁.x + p₂.x) / ((2 : Nat) : K)
  (⟨middle, start.y⟩, ⟨middle, stop.y⟩)

/-- Lines along the axes. -/
def rectilinearPath [Add K] [Div K] [NatCast K] (start p₁ p₂ stop : Point K) :
    List (PathCommand K) :=
  let (c₁, c₂) := corners start p₁ p₂ stop
  [.moveTo start, .lineTo c₁, .lineTo c₂, .lineTo stop]

/-- The coordinate `a` moved by `step` to the right (downwards) where `forward` holds, else to the
left (upwards). -/
def along [Add K] [Sub K] (forward : Bool) (a step : K) : K :=
  if forward then a + step else a - step

/-- The radius of the fillets: at most the given one, half of the vertical run and half of either
horizontal run. -/
def filletRadius [Sub K] [Div K] [NatCast K] [LT K] [DecidableLT K]
    (radius : K) (start c₁ c₂ stop : Point K) : K :=
  let half (a b : K) : K := magnitude (a - b) / ((2 : Nat) : K)
  smaller (smaller (smaller radius (half c₂.y c₁.y)) (half c₁.x start.x)) (half stop.x c₂.x)

/-- Lines along the axes with rounded corners. -/
def roundRectilinearPath [Add K] [Sub K] [Div K] [NatCast K] [LT K] [DecidableLT K]
    (radius : K) (start p₁ p₂ stop : Point K) : List (PathCommand K) :=
  let (c₁, c₂) := corners start p₁ p₂ stop
  -- With this radius no fillet is longer than its run.
  let r := filletRadius radius start c₁ c₂ stop
  let down := decide (start.y < stop.y)
  let right₁ := decide (start.x < c₁.x)
  let right₂ := decide (c₂.x < stop.x)
  [.moveTo start,
    .lineTo ⟨along (!right₁) c₁.x r, c₁.y⟩,
    .quadraticTo c₁ ⟨c₁.x, along down c₁.y r⟩,
    .lineTo ⟨c₂.x, along (!down) c₂.y r⟩,
    .quadraticTo c₂ ⟨along right₂ c₂.x r, c₂.y⟩,
    .lineTo stop]

/-- The path in the given style. -/
def buildPath [Add K] [Sub K] [Div K] [NatCast K] [LT K] [DecidableLT K]
    (style : LineStyle) (radius : K) (start p₁ p₂ stop : Point K) : List (PathCommand K) :=
  match style with
  | .curve => curvePath start p₁ p₂ stop
  | .rectilinear => rectilinearPath start p₁ p₂ stop
  | .roundRectilinear => roundRectilinearPath radius start p₁ p₂ stop
  | .oblique => obliquePath start p₁ p₂ stop
  | .roundOblique => roundObliquePath start p₁ p₂ stop

end Styles

/-! ## Written paths -/

/-- A double with at most two places, without needless zeros and without a negative zero. -/
def coordinateDigits (x : Float) : Text :=
  let s := Text.dropTail '.' (Text.dropTail '0' (fixedText 2 x))
  if s = "-0".toList then "0" else s

/-- A coordinate in a drawing. -/
def coordinateText (a : Mixed) : Except NumberFault Text := a.toFloat.map coordinateDigits

/-- The two coordinates of a point. -/
def Point.text (p : Point Mixed) : Except NumberFault Text := do
  return concat [← coordinateText p.x, " ", ← coordinateText p.y]

/-- A command with its letter and points. -/
def PathCommand.text (c : PathCommand Mixed) : Except NumberFault Text := do
  let points ← c.points.mapM Point.text
  return c.op.letter :: ' ' :: Text.join [' '] points

/-- A path in the notation of drawings. -/
def pathText (commands : List (PathCommand Mixed)) : Except NumberFault Text := do
  return Text.join [' '] (← commands.mapM PathCommand.text)

end SchemaDiagram
