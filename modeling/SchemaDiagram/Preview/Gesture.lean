import SchemaDiagram.Edit.Change
import SchemaDiagram.Failure
import SchemaDiagram.Geometry.Rect
import SchemaDiagram.Routing.Fault

/-! # Gestures

A table or a sticky note is dragged or resized with the pointer. Its rectangle follows every move;
only the end of the gesture writes, as one change with whole numbers. The pointer moves on the
screen, so its way is divided by the scale of the canvas.

* **`GestureController.beginGesture`**, **`GestureController.moved`**, **`GestureController.idle`**
* **`GestureController.releaseWith`**, **`GestureController.release`** — the end of a gesture.
* **`Gesture.rectAt`** — the rectangle when the pointer is at a point.
* **`Gesture.change`** — the change that a gesture ends in. -/

namespace SchemaDiagram

/-- What a gesture does. -/
inductive GestureMode where
  | drag
  | resize
deriving DecidableEq, Repr

/-- The name of a mode. -/
def GestureMode.name : GestureMode → String
  | drag => "drag"
  | resize => "resize"

/-- A gesture under way. -/
structure Gesture (K : Type) where
  /-- What it does. -/
  mode : GestureMode
  /-- What is dragged or resized. -/
  kind : EntityKind
  /-- The name of the entity. -/
  name : Text
  /-- Its rectangle at the start. -/
  initial : Rect K
  /-- Where the pointer was at the start. -/
  pointer : Point K
  /-- Its rectangle now. -/
  current : Rect K

/-- Follows gestures. -/
structure GestureController (K : Type) where
  /-- The least width, and the least height of a note. -/
  minSize : K
  /-- The size of the canvas on the screen. -/
  scale : K
  /-- The gesture under way. -/
  active : Option (Gesture K)

section

variable {K : Type} [Add K] [Sub K] [Div K] [LT K] [DecidableLT K]

/-- The rectangle of a gesture when the pointer is at a point. -/
def Gesture.rectAt (g : Gesture K) (minSize scale : K) (pointer : Point K) : Rect K :=
  let dx := (pointer.x - g.pointer.x) / scale
  let dy := (pointer.y - g.pointer.y) / scale
  let start := g.initial
  match g.mode, g.kind with
  | .drag, _ => ⟨start.x + dx, start.y + dy, start.width, start.height⟩
  | .resize, .note =>
    ⟨start.x, start.y, larger minSize (start.width + dx), larger minSize (start.height + dy)⟩
  | .resize, _ => ⟨start.x, start.y, larger minSize (start.width + dx), start.height⟩

/-- The change of an entity to a rectangle of whole numbers. -/
def changeOfRect (kind : EntityKind) (name : Text) (x y width height : Int) : Change :=
  match kind with
  | .note => .moveNote name (.int x) (.int y) (.int width) (.int height)
  | _ => .moveTable name (.int x) (.int y) (some (.int width))

/-- The change that a gesture ends in, with a rule for rounding. -/
def Gesture.change {ε : Type} (round : K → Except ε Int) (g : Gesture K) : Except ε Change := do
  let x ← round g.current.x
  let y ← round g.current.y
  let width ← round g.current.width
  let height ← round g.current.height
  return changeOfRect g.kind g.name x y width height

namespace GestureController

/-- No gesture is under way. -/
def idle (c : GestureController K) : GestureController K := { c with active := none }

/-- Begins a gesture in place of the one under way. A project has no place to drag. -/
def beginGesture (c : GestureController K) (mode : GestureMode) (kind : EntityKind) (name : Text)
    (rect : Rect K) (pointer : Point K) : Except Failure (GestureController K) :=
  if kind = .project then
    .error (.invalidEdit "the project cannot be dragged" [("name", .text name)])
  else .ok { c with active := some ⟨mode, kind, name, rect, pointer, rect⟩ }

/-- The controller after the pointer has moved to a point. -/
def moved (c : GestureController K) (pointer : Point K) : GestureController K :=
  { c with active := c.active.map fun g =>
      { g with current := g.rectAt c.minSize c.scale pointer } }

/-- The rectangle of the gesture under way. -/
def rect? (c : GestureController K) : Option (Rect K) := c.active.map (·.current)

/-- Ends the gesture under way with its change, if there is one, with a rule for rounding. -/
def releaseWith {ε : Type} (round : K → Except ε Int) (c : GestureController K) :
    GestureController K × Except ε (Option Change) :=
  (c.idle, match c.active with
    | some g => (g.change round).map some
    | none => .ok none)

end GestureController

end

namespace GestureController

/-- Sets the scale; one that is not above zero is refused. -/
def setScale {K : Type} [NatCast K] [LE K] [DecidableLE K] (c : GestureController K) (scale : K) :
    Option (GestureController K) :=
  if isScale scale then some { c with scale } else none

/-- Moves the pointer; a rectangle that cannot be calculated leaves the gesture as it was. -/
def move (c : GestureController Mixed) (pointer : Point Mixed) :
    Except NumberFault (GestureController Mixed) :=
  let after := c.moved pointer
  unlessFault ((after.rect?.map (·.numbers)).getD []) after

/-- Ends the gesture under way; its change has the nearest whole numbers. -/
def release (c : GestureController Mixed) :
    GestureController Mixed × Except NumberFault (Option Change) :=
  c.releaseWith Mixed.roundHalfUp

end GestureController

end SchemaDiagram
