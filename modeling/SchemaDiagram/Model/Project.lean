import SchemaDiagram.Model.Display
import SchemaDiagram.Number.Mixed
import SchemaDiagram.OrderedMap

/-! # Project settings

The project block of a document is an open map of scalars. Keys keep their spelling and are found in
any case. The typed views read the known keys; a value of another type reads as absent, a number
that has no double or no integer part is a fault. -/

namespace SchemaDiagram

/-- A number, truth value or text of a document. -/
inductive Scalar where
  /-- A whole number. -/
  | int (n : Int)
  /-- A double. -/
  | float (x : Float)
  /-- A truth value. -/
  | bool (b : Bool)
  /-- A text. -/
  | text (s : Text)

/-- Whether a scalar counts as given: zero, `false` and the empty text do not. -/
def Scalar.isGiven : Scalar → Bool
  | int n => n != 0
  | float x => x != 0
  | bool b => b
  | text s => !s.isEmpty

/-- The settings of a project. -/
structure ProjectSettings where
  /-- The values by key in the order of the block. -/
  values : OrderedMap Scalar

namespace ProjectSettings

/-- The first value whose key is the given one in any case. -/
def get? (p : ProjectSettings) (key : Text) : Option Scalar :=
  (p.values.find? (·.1.lower = key.lower)).map (·.2)

/-- The number under a key as a double. -/
def number? (p : ProjectSettings) (key : Text) : Except NumberFault (Option Float) :=
  match p.get? key with
  | some (.int n) => (Mixed.whole n).toFloat.map some
  | some (.float x) => .ok (some x)
  | _ => .ok none

/-- The number under a key when it is above zero. -/
def positive? (p : ProjectSettings) (key : Text) : Except NumberFault (Option Float) :=
  (p.number? key).map fun x? => x?.filter (0 < ·)

/-- The zoom factor. -/
def zoom? (p : ProjectSettings) : Except NumberFault (Option Float) := p.positive? "zoom"

/-- The horizontal shift of the canvas. -/
def panX? (p : ProjectSettings) : Except NumberFault (Option Float) := p.number? "panX"

/-- The vertical shift of the canvas. -/
def panY? (p : ProjectSettings) : Except NumberFault (Option Float) := p.number? "panY"

/-- The size of a grid cell, without its fraction. -/
def gridSize? (p : ProjectSettings) : Except NumberFault (Option Int) := do
  match ← p.positive? "gridSize" with
  | none => return none
  | some x =>
    match floorOfFloat? x with
    | some n => return some n
    | none => throw .infinitePart

/-- Whether the grid is drawn. -/
def showGrid? (p : ProjectSettings) : Option Bool :=
  match p.get? "showGrid" with
  | some (.bool b) => some b
  | some (.text s) =>
    if s.lower = "true".toList then some true
    else if s.lower = "false".toList then some false
    else none
  | _ => none

/-- The text under a key. -/
def text? (p : ProjectSettings) (key : Text) : Option Text :=
  match p.get? key with
  | some (.text s) => some s
  | _ => none

/-- How connections are drawn. -/
def lineStyle? (p : ProjectSettings) : Option LineStyle :=
  (p.text? "lineStyle").bind LineStyle.ofName?

/-- The kind of database, under either spelling of its key. -/
def databaseType? (p : ProjectSettings) : Option Text :=
  match p.get? "database_type" with
  | some value =>
    if value.isGiven then p.text? "database_type" else p.text? "databaseType"
  | none => p.text? "databaseType"

/-- The note on the project. -/
def note? (p : ProjectSettings) : Option Text := p.text? "note"

end ProjectSettings

/-- The display settings with those of a project in place of the shared ones. A grid size outside
its bounds does not count. -/
def effectiveDisplay (display : DisplaySettings) (p : ProjectSettings) :
    Except NumberFault DisplaySettings := do
  let display := { display with lineStyle := p.lineStyle?.getD display.lineStyle }
  let display := { display with showGrid := p.showGrid?.getD display.showGrid }
  match ← p.gridSize? with
  | some size =>
    if DisplaySettings.leastGrid ≤ size ∧ size ≤ DisplaySettings.largestGrid then
      return { display with gridSize := size }
    else return display
  | none => return display

/-- The part of the canvas that is shown. -/
structure Viewport where
  /-- The zoom factor. -/
  zoom : Float
  /-- The horizontal shift. -/
  panX : Float
  /-- The vertical shift. -/
  panY : Float

/-- The unmoved canvas at its own size. -/
def Viewport.default : Viewport := ⟨1, 0, 0⟩

/-- The number that is given, or the default where none is given or a zero of either sign. -/
def nonzeroOr (default : Float) : Option Float → Float
  | some x => if x == 0 then default else x
  | none => default

/-- The part of the canvas that a project asks for. -/
def viewportOf (p : ProjectSettings) : Except NumberFault Viewport := do
  let zoom ← p.zoom?
  let panX ← p.panX?
  let panY ← p.panY?
  return ⟨nonzeroOr 1 zoom, nonzeroOr 0 panX, nonzeroOr 0 panY⟩

end SchemaDiagram
