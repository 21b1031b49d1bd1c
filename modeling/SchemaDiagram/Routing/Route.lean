import SchemaDiagram.Geometry.Path
import SchemaDiagram.Model.Schema
import SchemaDiagram.Order.Arrange

/-! # Routing connections

One path is drawn for every pair of columns of a reference whose two ends can be found. Routing goes
in passes over the *ends* of the connections:

1. **Sides** (`chooseSides`): rectangles that overlap sideways are joined on their right edges by a
   U-turn; else the left one is left on its right and the right one entered on its left.
2. **Slots** (`slotOf`): the ends that share an anchor are ordered by the middle of their other ends
   and spread evenly over the row. A glyph that is new in the row is pushed out one step further.
3. **Lanes** (`laneOf`): the ends on one side of a table are ordered from top to bottom, rows within
   one unit of each other by their other ends. A group that leads down has its outermost lane on
   top, any other group at the bottom.
4. **Paths** (`drawConnection`): the run off an end is a third of the distance between certain
   bounds, and longer by one spacing for each lane. -/

namespace SchemaDiagram

/-! ## Connections and their ends -/

/-- An edge of a rectangle at which a connection ends. -/
inductive Side where
  | left
  | right
deriving DecidableEq, Repr

/-- The name of a side. -/
def Side.name : Side → String
  | left => "left"
  | right => "right"

/-- The distances that routing works with. -/
structure RouterConfig (K : Type) where
  /-- The least run off an end. -/
  minStraight : K
  /-- The largest run off an end. -/
  maxStraight : K
  /-- The distance of two lanes. -/
  laneSpacing : K
  /-- The distance of a glyph from its end. -/
  labelOffset : K
  /-- How much further out a glyph is for each step. -/
  labelStagger : K
  /-- The largest radius of a rounded corner. -/
  cornerRadius : K
  /-- The least distance of a U-turn from the right edges. -/
  uTurnMin : K
  /-- How much further out a U-turn is for each unit between its ends. -/
  uTurnRatio : K

namespace RouterConfig

variable {K L : Type}

/-- The same distances as coordinates of another type. -/
def map (f : K → L) (c : RouterConfig K) : RouterConfig L :=
  ⟨f c.minStraight, f c.maxStraight, f c.laneSpacing, f c.labelOffset, f c.labelStagger,
    f c.cornerRadius, f c.uTurnMin, f c.uTurnRatio⟩

/-- The distances where none are given. -/
def default : RouterConfig Float := ⟨15, 40, 12, 25, 16, 15, 40, 0.4⟩

end RouterConfig

/-- One end of a connection. -/
structure ConnectionEnd (K : Type) where
  /-- The id of the column. -/
  anchor : Text
  /-- The id of the table. -/
  tableAnchor : Text
  /-- The rectangle that the connection ends at. -/
  rect : Rect K
  /-- The edge at which it ends. -/
  side : Side
  /-- The middle of the rectangle at the other end. -/
  otherY : K
  /-- The glyph at this end, empty for the further pairs of a reference. -/
  glyph : Text

/-- A pair of columns whose two ends have been found. -/
structure Connection (K : Type) where
  /-- The index of the reference. -/
  relationshipIndex : Nat
  /-- The index of the pair in the reference. -/
  pairIndex : Nat
  /-- The color of the reference. -/
  color : Option Text
  /-- The end at the first table. -/
  source : ConnectionEnd K
  /-- The end at the second table. -/
  target : ConnectionEnd K
  /-- Whether both ends are on the right. -/
  uTurn : Bool

/-- The key of a pair of columns. -/
def pairKey (relationshipIndex pairIndex : Nat) : Text :=
  concat ["rel-", Text.ofNat relationshipIndex, "-", Text.ofNat pairIndex]

/-- The key of a connection. -/
def Connection.key {K : Type} (c : Connection K) : Text := pairKey c.relationshipIndex c.pairIndex

/-- A glyph near an end. -/
structure ConnectionLabel (K : Type) where
  /-- The glyph. -/
  text : Text
  /-- Where it stands. -/
  position : Point K
  /-- How many steps it is pushed out. -/
  stagger : Nat

/-- The place of an end among the ends that share its anchor. -/
structure Slot where
  /-- The index of the end from the top. -/
  index : Nat
  /-- How many ends there are. -/
  total : Nat
  /-- How many steps the glyph of the end is pushed out. -/
  stagger : Nat
deriving DecidableEq, Repr

/-- A drawn connection. -/
structure ConnectionPath (K : Type) where
  /-- The connection. -/
  connection : Connection K
  /-- The style in which it is drawn. -/
  style : LineStyle
  /-- Where it starts. -/
  start : Point K
  /-- Where it ends. -/
  stop : Point K
  /-- The control point next to its start. -/
  controlStart : Point K
  /-- The control point next to its end. -/
  controlEnd : Point K
  /-- What is drawn. -/
  commands : List (PathCommand K)
  /-- The glyph at its start. -/
  startLabel : Option (ConnectionLabel K)
  /-- The glyph at its end. -/
  endLabel : Option (ConnectionLabel K)
  /-- The slot of its start. -/
  fromSlot : Slot
  /-- The slot of its end. -/
  toSlot : Slot
  /-- The lane of its start. -/
  fromLane : Nat
  /-- The lane of its end. -/
  toLane : Nat

/-- The key of a drawn connection. -/
def ConnectionPath.key {K : Type} (p : ConnectionPath K) : Text := p.connection.key

/-- A marker at an end of a drawn connection. -/
structure AnchorMarker (K : Type) where
  /-- The id of the column. -/
  anchor : Text
  /-- Where the marker stands. -/
  position : Point K
  /-- The key of the connection. -/
  pathKey : Text

/-- The drawn connections of a diagram. -/
structure RoutingResult (K : Type) where
  /-- The paths in the order of their keys. -/
  paths : List (ConnectionPath K)
  /-- The markers at the two ends of each path. -/
  anchors : List (AnchorMarker K)
  /-- The keys of the pairs that have no path. -/
  unresolved : List Text

namespace RoutingResult

variable {K : Type}

/-- No connections. -/
def empty : RoutingResult K := ⟨[], [], []⟩

/-- The path with the given key. -/
def path? (r : RoutingResult K) (key : Text) : Option (ConnectionPath K) :=
  r.paths.find? (·.key = key)

/-- The paths of the reference with a number; no paths for a number that no reference has. -/
def ofRelationship (r : RoutingResult K) (index : Int) : List (ConnectionPath K) :=
  r.paths.filter fun path => path.connection.relationshipIndex = index

end RoutingResult

variable {K : Type} [Add K] [Sub K] [Mul K] [Div K] [NatCast K] [LT K] [DecidableLT K] [LE K]
  [DecidableLE K] [Metric K]

/-! ## First pass: ends and sides -/

/-- The edges by which two rectangles are joined, and whether the connection is a U-turn. -/
def chooseSides (source target : Rect K) : Side × Side × Bool :=
  if source.SpansOverlap target then (.right, .right, true)
  else if source.x < target.x then (.right, .left, false)
  else (.left, .right, false)

/-- The identifier of the table that a reference names: that of a table of the schema, else the name
made into an identifier. -/
def tableIdOf (schema : Option Schema) (name : Text) : Text :=
  ((schema.bind (·.resolve name)).map (·.id)).getD (sanitizeId name)

/-- The rectangle of a column, or else of its table. -/
def measure (rects : Text → Option (Rect K)) (tableId column : Text) : Option (Rect K) :=
  (rects (columnAnchor tableId column)).or (rects (tableAnchor tableId))

/-- The connection between two columns with their rectangles. -/
def makeConnection (r : Relationship) (relationshipIndex pairIndex : Nat)
    (fromId toId fromColumn toColumn : Text) (source target : Rect K) : Connection K :=
  let (fromSide, toSide, uTurn) := chooseSides source target
  let glyph (g : Text) : Text := if pairIndex = 0 then g else []
  { relationshipIndex
    pairIndex
    color := r.color
    source :=
      { anchor := columnAnchor fromId fromColumn
        tableAnchor := tableAnchor fromId
        rect := source
        side := fromSide
        otherY := target.centerY
        glyph := glyph r.cardinality.glyphs.1 }
    target :=
      { anchor := columnAnchor toId toColumn
        tableAnchor := tableAnchor toId
        rect := target
        side := toSide
        otherY := source.centerY
        glyph := glyph r.cardinality.glyphs.2 }
    uTurn }

/-- What becomes of the pairs of columns of a reference: connections, or keys of pairs without a
rectangle. -/
def connectPairs (schema : Option Schema) (rects : Text → Option (Rect K)) (r : Relationship)
    (relationshipIndex : Nat) : List (Connection K ⊕ Text) :=
  let fromId := tableIdOf schema r.fromTable
  let toId := tableIdOf schema r.toTable
  r.pairs.zipIdx.map fun ((fromColumn, toColumn), pairIndex) =>
    match measure rects fromId fromColumn, measure rects toId toColumn with
    | some source, some target =>
      .inl (makeConnection r relationshipIndex pairIndex fromId toId fromColumn toColumn source
        target)
    | _, _ => .inr (pairKey relationshipIndex pairIndex)

/-! ## Second pass: slots -/

/-- Both ends of every connection, in order. -/
def allEnds (connections : List (Connection K)) : List (ConnectionEnd K) :=
  connections.flatMap fun c => [c.source, c.target]

/-- The ends that share an anchor, with their places among all ends, in the order of their other
ends. -/
def anchorGroup (ends : List (ConnectionEnd K)) (anchor : Text) : List (ConnectionEnd K × Nat) :=
  arrange (fun a b => decide (a.1.otherY < b.1.otherY))
    (ends.zipIdx.filter (·.1.anchor = anchor))

/-- How many different glyphs there are, the empty one apart. -/
def glyphCount (glyphs : List Text) : Nat := (glyphs.filter (· != [])).eraseDups.length

/-- The slot of the end at the given place among all ends. -/
def slotOf (ends : List (ConnectionEnd K)) (e : ConnectionEnd K) (place : Nat) : Slot :=
  -- Slots count from the end whose other end is highest.
  let group := anchorGroup ends e.anchor
  let index := group.findIdx (·.2 = place)
  let before := (group.take index).map (·.1.glyph)
  -- Only the first glyph of each kind is pushed out; the others lie on top of it.
  let stagger := if e.glyph = [] ∨ e.glyph ∈ before then 0 else glyphCount before
  ⟨index, group.length, stagger⟩

/-! ## Third pass: lanes -/

/-- Whether one end stands above another one: rows within one unit of each other are ordered by
their other ends. -/
def isAbove (a b : ConnectionEnd K) : Bool :=
  if ((1 : Nat) : K) < magnitude (a.rect.y - b.rect.y) then decide (a.rect.y < b.rect.y)
  else decide (a.otherY < b.otherY)

/-- The sum of some coordinates, added one after another. -/
def total (values : List K) : K := values.foldl (· + ·) ((0 : Nat) : K)

/-- The mean of some coordinates. -/
def mean (values : List K) : K := total values / (values.length : K)

/-- The lane of the end at the given place among all ends. -/
def laneOf (ends : List (ConnectionEnd K)) (e : ConnectionEnd K) (place : Nat) : Nat :=
  let group := ends.zipIdx.filter fun other =>
    decide (other.1.tableAnchor = e.tableAnchor ∧ other.1.side = e.side)
  if group.length ≤ 1 then 0
  else
    -- A group leads down where its own rows lie above the rows that it leads to.
    let own := mean (group.map (·.1.rect.y))
    let other := mean (group.map (·.1.otherY))
    let index := (arrange (fun a b => isAbove a.1 b.1) group).findIdx (·.2 = place)
    if own < other then group.length - 1 - index else index

/-! ## Fourth pass: paths -/

/-- Where a connection ends at an edge: on the row, in its slot. -/
def anchorPoint (e : ConnectionEnd K) (slot : Slot) : Point K :=
  ⟨match e.side with
    | .right => e.rect.right
    | .left => e.rect.x,
    e.rect.y + e.rect.height * ((slot.index + 1 : Nat) : K) / ((slot.total + 1 : Nat) : K)⟩

/-- The glyph of an end on the way to its control point. -/
def labelOf (config : RouterConfig K) (e : ConnectionEnd K) (slot : Slot)
    (anchor toward : Point K) : Option (ConnectionLabel K) :=
  if e.glyph = [] then none
  else
    let distance := config.labelOffset + (slot.stagger : K) * config.labelStagger
    some ⟨e.glyph, anchor.towards toward distance, slot.stagger⟩

/-- The control points of a connection between two points. -/
def controlPoints (config : RouterConfig K) (c : Connection K) (start stop : Point K)
    (fromLane toLane : Nat) : Point K × Point K :=
  let spread (lane : Nat) : K := (lane : K) * config.laneSpacing
  if c.uTurn then
    -- Both ends are on the right, so the bow goes out beyond the one further right.
    let bow := larger config.uTurnMin (magnitude (stop.y - start.y) * config.uTurnRatio)
    let x := larger start.x stop.x + bow + spread (max fromLane toLane)
    (⟨x, start.y⟩, ⟨x, stop.y⟩)
  else
    -- A third of the way is left for the vertical run in the middle.
    let third := magnitude (stop.x - start.x) / ((3 : Nat) : K)
    let base := larger config.minStraight (smaller config.maxStraight third)
    let out (side : Side) (p : Point K) (lane : Nat) : Point K :=
      ⟨along (side = .right) p.x (base + spread lane), p.y⟩
    (out c.source.side start fromLane, out c.target.side stop toLane)

/-- Draws a connection whose ends stand at the places `2 * index` and `2 * index + 1` among all
ends. -/
def drawConnection (config : RouterConfig K) (style : LineStyle) (ends : List (ConnectionEnd K))
    (c : Connection K) (index : Nat) : ConnectionPath K :=
  let fromSlot := slotOf ends c.source (2 * index)
  let toSlot := slotOf ends c.target (2 * index + 1)
  let fromLane := laneOf ends c.source (2 * index)
  let toLane := laneOf ends c.target (2 * index + 1)
  let start := anchorPoint c.source fromSlot
  let stop := anchorPoint c.target toSlot
  let (p₁, p₂) := controlPoints config c start stop fromLane toLane
  { connection := c
    style
    start
    stop
    controlStart := p₁
    controlEnd := p₂
    commands := buildPath style config.cornerRadius start p₁ p₂ stop
    startLabel := labelOf config c.source fromSlot start p₁
    endLabel := labelOf config c.target toSlot stop p₂
    fromSlot
    toSlot
    fromLane
    toLane }

/-- The markers at the two ends of a path. -/
def ConnectionPath.markers {K : Type} (p : ConnectionPath K) : List (AnchorMarker K) :=
  [⟨p.connection.source.anchor, p.start, p.key⟩, ⟨p.connection.target.anchor, p.stop, p.key⟩]

/-- The drawn connections of some references. -/
def route (config : RouterConfig K) (rects : Text → Option (Rect K)) (style : LineStyle)
    (schema : Option Schema) (relationships : List Relationship) : RoutingResult K :=
  let results := relationships.zipIdx.flatMap fun (r, index) => connectPairs schema rects r index
  let connections := results.filterMap fun
    | .inl c => some c
    | .inr _ => none
  let unresolved := results.filterMap fun
    | .inl _ => none
    | .inr key => some key
  -- Connection `index` has its ends at the places `2 * index` and `2 * index + 1`.
  let ends := allEnds connections
  let paths := connections.zipIdx.map fun (c, index) => drawConnection config style ends c index
  ⟨paths, paths.flatMap (·.markers), unresolved⟩

/-- The drawn connections of a schema. -/
def routeSchema (config : RouterConfig K) (rects : Text → Option (Rect K)) (style : LineStyle)
    (schema : Schema) : RoutingResult K :=
  route config rects style (some schema) schema.relationships

end SchemaDiagram
