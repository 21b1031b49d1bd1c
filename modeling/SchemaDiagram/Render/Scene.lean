import SchemaDiagram.Config.Export
import SchemaDiagram.Declaration.Format
import SchemaDiagram.Routing.Fault

/-! # Scenes

A scene is all that is needed to draw a diagram, or the error that stands in its place. Drawing a
text never fails: what goes wrong on the way becomes the error of the scene.

* **`layOut`**, **`sceneOfLayout`** — the boxes and connections of a schema, and its scene.
* **`renderText`** — the scene of a text, with what is logged. -/

namespace SchemaDiagram

/-- A table with its box. -/
structure TableBox where
  /-- The table. -/
  table : Table
  /-- Its box. -/
  rect : Rect Mixed

/-- A sticky note with its box. -/
structure NoteBox where
  /-- The note. -/
  note : Note
  /-- Its box. -/
  rect : Rect Mixed

/-- Where the boxes of tables and columns are: the box of an id, if there is one. -/
abbrev RectProvider := Text → Option (Rect Mixed)

/-- All that is needed to draw a diagram. -/
structure Scene where
  /-- How it is drawn. -/
  display : DisplaySettings
  /-- The part of the canvas that is shown. -/
  viewport : Viewport
  /-- The tables in order. -/
  tables : List TableBox
  /-- The sticky notes in order. -/
  notes : List NoteBox
  /-- The connections. -/
  routing : RoutingResult Mixed
  /-- The error that stands in place of the diagram. -/
  error : Option Text

namespace Scene

/-- A scene without contents. -/
def blank (display : DisplaySettings) : Scene := ⟨display, .default, [], [], .empty, none⟩

/-- A scene with an error in place of the diagram. -/
def failed (display : DisplaySettings) (message : Text) : Scene :=
  { blank display with error := some message }

/-- Whether there is no error. -/
def isOk (s : Scene) : Bool := s.error.isNone

/-- Whether there is nothing to see. -/
def isEmpty (s : Scene) : Bool := s.isOk && s.tables.isEmpty && s.notes.isEmpty

/-- The box of the table with the given identifier. -/
def tableBox? (s : Scene) (id : Text) : Option TableBox := s.tables.find? (·.table.id = id)

/-- A connection as a data document. -/
def pathJson (p : ConnectionPath Mixed) : Except NumberFault Json := do
  let drawn ← pathText p.commands
  let glyph (l : Option (ConnectionLabel Mixed)) : Json := .ofText? (l.map (·.text))
  return .object [("key", .text p.key), ("from", .text p.connection.source.anchor),
    ("to", .text p.connection.target.anchor), ("d", .text drawn),
    ("start_label", glyph p.startLabel), ("end_label", glyph p.endLabel),
    ("color", .ofText? p.connection.color)]

/-- The members of a scene as a data document. -/
def members (s : Scene) : Except NumberFault (OrderedMap Json) := do
  let paths ← s.routing.paths.mapM pathJson
  return [("error", .ofText? s.error),
    ("display", s.display.toJson),
    ("viewport", .object [("zoom", .float s.viewport.zoom), ("pan_x", .float s.viewport.panX),
      ("pan_y", .float s.viewport.panY)]),
    ("paths", .list paths), ("unresolved", .texts s.routing.unresolved)]

end Scene

/-! ## Laying out -/

/-- What has been laid out before the view of it is known. -/
structure SceneLayout where
  /-- How it is drawn. -/
  display : DisplaySettings
  /-- The boxes by their ids. -/
  boxes : OrderedMap (Rect Mixed)
  /-- The connections. -/
  routing : RoutingResult Mixed

/-- Places the tables of a schema and routes its connections between the given boxes, or else
between the estimated ones. -/
def layOut (config : DiagramConfig) (display : DisplaySettings) (rects : Option RectProvider)
    (schema : Schema) : Except NumberFault SceneLayout := do
  let display ← effectiveDisplay display schema.project
  let layout := config.layout.map Mixed.real
  let corners := placeTables layout id schema.tables
  let boxes ← checkedBoxes (estimateBoxes layout id schema corners)
  -- Measured boxes replace the estimated ones for routing as a whole.
  let provider := rects.getD boxes.get?
  let routing ←
    (routeSchema (config.router.map Mixed.real) provider display.lineStyle schema).checked
  return ⟨display, boxes, routing⟩

/-- The boxes of the tables of a schema, the given ones before the estimated ones. -/
def tableBoxesOf (rects : Option RectProvider) (boxes : OrderedMap (Rect Mixed))
    (schema : Schema) : List TableBox :=
  schema.tables.filterMap fun t =>
    let id := tableAnchor t.id
    ((rects.bind (· id)).or (boxes.get? id)).map fun rect => ⟨t, rect⟩

/-- The boxes of the sticky notes of a schema. -/
def noteBoxesOf (boxes : OrderedMap (Rect Mixed)) (schema : Schema) : List NoteBox :=
  schema.notes.filterMap fun n => (boxes.get? (noteAnchor n.id)).map fun rect => ⟨n, rect⟩

/-- The scene of a schema that has been laid out. -/
def sceneOfLayout (rects : Option RectProvider) (schema : Schema) (laid : SceneLayout) :
    Except NumberFault Scene := do
  let viewport ← viewportOf schema.project
  return ⟨laid.display, viewport, tableBoxesOf rects laid.boxes schema,
    noteBoxesOf laid.boxes schema, laid.routing, none⟩

/-! ## Drawing a text -/

/-- A scene with what is logged on the way to it. -/
structure Rendering where
  /-- The scene. -/
  scene : Scene
  /-- What is logged. -/
  log : List LogEvent

/-- A number of things as a field of an event. -/
def countField {α : Type} (key : String) (items : List α) : Text × Json := (key, .int items.length)

/-- The event of a text that has been read. -/
def parsedEvent (s : Schema) : LogEvent :=
  ⟨.debug, "schema_parsed", [countField "tables" s.tables,
    countField "relationships" s.relationships, countField "notes" s.notes,
    countField "diagnostics" s.diagnostics]⟩

/-- The event of connections that have been routed. -/
def routedEvent (s : Schema) (laid : SceneLayout) : LogEvent :=
  ⟨.debug, "connections_routed", [countField "relationships" s.relationships,
    countField "paths" laid.routing.paths, countField "unresolved" laid.routing.unresolved,
    ("style", .text laid.display.lineStyle.name)]⟩

/-- The event of a scene that is complete. -/
def renderedEvent (s : Schema) (scene : Scene) : LogEvent :=
  ⟨.debug, "scene_rendered", [countField "tables" scene.tables, countField "notes" scene.notes,
    countField "paths" scene.routing.paths, countField "diagnostics" s.diagnostics]⟩

/-- The failure that a fault of a calculation is for whoever asked for the drawing. -/
def renderFailure (f : NumberFault) : Failure := .renderFailed f.message []

/-- A rendering that a failure ended. -/
def Rendering.ofFailure (display : DisplaySettings) (f : Failure) : Rendering :=
  ⟨.failed display f.message,
    [⟨.warning, "render_failed", [("error", .text f.code.name), ("message", .text f.message)]⟩]⟩

/-- A rendering that a fault ended, after some events. -/
def Rendering.ofFault (display : DisplaySettings) (before : List LogEvent) (f : NumberFault) :
    Rendering :=
  ⟨.failed display (renderFailure f).message,
    before ++ [⟨.error, "render_failed", [("error", .text f.category)]⟩]⟩

/-- The rendering of a schema that has been read. -/
def renderSchema (config : DiagramConfig) (display : DisplaySettings)
    (rects : Option RectProvider) (schema : Schema) : Rendering :=
  let parsed := [parsedEvent schema]
  match layOut config display rects schema with
  | .error f => .ofFault display parsed f
  | .ok laid =>
    let routed := parsed ++ [routedEvent schema laid]
    match sceneOfLayout rects schema laid with
    | .error f => .ofFault display routed f
    | .ok scene => ⟨scene, routed ++ [renderedEvent schema scene]⟩

/-- The rendering of a text. A blank text is an empty scene. -/
def renderText (config : DiagramConfig) (display : DisplaySettings) (rects : Option RectProvider)
    (format text : Text) : Rendering :=
  if text.trim.isEmpty then ⟨.blank display, []⟩
  else match parseSchema text format with
    | .error f => .ofFailure display f
    | .ok schema => renderSchema config display rects schema

end SchemaDiagram
