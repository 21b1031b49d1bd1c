import SchemaDiagram.Geometry.Rect
import SchemaDiagram.Model.Schema

/-! # Placing tables and notes

A table that sets no position takes the grid cell of its index, each axis by itself. Without
measured rectangles the boxes of tables, fields and notes are estimated from row sizes.

* **`placeTables`** — the top left corner of every table.
* **`estimateBoxes`** — the boxes by the ids under which they are drawn.
* **`MeasuredRects`** — boxes on a screen, mapped to the canvas. -/

namespace SchemaDiagram

/-- The sizes that placement and estimated boxes are made of. -/
structure LayoutConfig (K : Type) where
  /-- How many tables stand in a row. -/
  columns : Nat
  /-- The distance between two columns of tables. -/
  gapX : K
  /-- The distance between two rows of tables. -/
  gapY : K
  /-- The distance of the first table from both edges. -/
  origin : K
  /-- The width of a table that sets none. -/
  tableWidth : K
  /-- The height of a table header. -/
  headerHeight : K
  /-- The height of a field. -/
  rowHeight : K

namespace LayoutConfig

variable {K L : Type}

/-- The same sizes as coordinates of another type. -/
def map (f : K → L) (c : LayoutConfig K) : LayoutConfig L :=
  ⟨c.columns, f c.gapX, f c.gapY, f c.origin, f c.tableWidth, f c.headerHeight, f c.rowHeight⟩

/-- The sizes where none are given. -/
def default : LayoutConfig Float := ⟨3, 350, 300, 50, 220, 36, 28⟩

end LayoutConfig

variable {K : Type} [Add K] [Mul K] [NatCast K]

/-- The corner of the grid cell with the given index. -/
def gridPosition (layout : LayoutConfig K) (index : Nat) : Point K :=
  ⟨layout.origin + ((index % layout.columns : Nat) : K) * layout.gapX,
    layout.origin + ((index / layout.columns : Nat) : K) * layout.gapY⟩

/-- The corner of a table: its own position where it sets one, else that of its grid cell. -/
def tableCorner (layout : LayoutConfig K) (num : Mixed → K) (index : Nat) (t : Table) : Point K :=
  let cell := gridPosition layout index
  ⟨(t.x.map num).getD cell.x, (t.y.map num).getD cell.y⟩

/-- The corners of tables by their identifiers. -/
def placeTables (layout : LayoutConfig K) (num : Mixed → K) (tables : List Table) :
    OrderedMap (Point K) :=
  .ofList (tables.zipIdx.map fun (t, index) => (t.id, tableCorner layout num index t))

/-! ## Estimated boxes -/

/-- The height of a sticky note that sets none. -/
def estimatedNoteHeight : Mixed := .whole 120

/-- Whether a number is zero. -/
def Mixed.isZero (a : Mixed) : Bool := a.same (.whole 0)

/-- The width of a table; a width of zero does not count as set. -/
def tableWidth (layout : LayoutConfig K) (num : Mixed → K) (t : Table) : K :=
  match t.width with
  | some w => if w.isZero then layout.tableWidth else num w
  | none => layout.tableWidth

/-- The estimated height of a table. -/
def tableHeight (layout : LayoutConfig K) (t : Table) : K :=
  layout.headerHeight + layout.rowHeight * (t.fields.length : K)

/-- The boxes of a table at the given corner: its own, then those of its fields from top to
bottom. -/
def tableBoxes (layout : LayoutConfig K) (num : Mixed → K) (corner : Point K) (t : Table) :
    List (Text × Rect K) :=
  let width := tableWidth layout num t
  (tableAnchor t.id, ⟨corner.x, corner.y, width, tableHeight layout t⟩) ::
    t.fields.zipIdx.map fun (f, row) =>
      (columnAnchor t.id f.name,
        ⟨corner.x, corner.y + layout.headerHeight + (row : K) * layout.rowHeight, width,
          layout.rowHeight⟩)

/-- The box of a sticky note. -/
def noteBox (num : Mixed → K) (n : Note) : Text × Rect K :=
  (noteAnchor n.id, ⟨num n.x, num n.y, num n.width, num (n.height.getD estimatedNoteHeight)⟩)

/-- The estimated boxes by the ids under which they are drawn. Tables without a corner are left
out. -/
def estimateBoxes (layout : LayoutConfig K) (num : Mixed → K) (schema : Schema)
    (corners : OrderedMap (Point K)) : OrderedMap (Rect K) :=
  .ofList <|
    (schema.tables.flatMap fun t =>
      match corners.get? t.id with
      | some corner => tableBoxes layout num corner t
      | none => []) ++
    schema.notes.map (noteBox num)

/-! ## Measured boxes -/

/-- Boxes on a screen: the canvas is scaled and its corner stands at `origin`. -/
structure MeasuredRects (K : Type) where
  /-- The boxes on the screen. -/
  rects : OrderedMap (Rect K)
  /-- The size of the canvas on the screen. -/
  scale : K
  /-- The corner of the canvas on the screen. -/
  origin : Point K

/-- The box of an id on the canvas. -/
def MeasuredRects.rect? {K : Type} [Sub K] [Div K] (m : MeasuredRects K) (id : Text) :
    Option (Rect K) :=
  (m.rects.get? id).map fun r =>
    ⟨(r.x - m.origin.x) / m.scale, (r.y - m.origin.y) / m.scale, r.width / m.scale,
      r.height / m.scale⟩

end SchemaDiagram
