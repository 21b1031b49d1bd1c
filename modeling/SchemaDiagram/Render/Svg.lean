import SchemaDiagram.Render.Scene
import SchemaDiagram.Text.Lines

/-! # Drawings

A scene is drawn as an SVG document: first the tree of its elements, then the written form of that
tree. The texts of a scene have no part in the tree; they are escaped where they are written.
Coordinates, paths and the names that the program gives are written as they are.

* **`escapeXml`** — the written form of a text.
* **`drawing`** — the elements of a scene.
* **`svgText`** — the document. -/

namespace SchemaDiagram

/-! ## Texts and values -/

/-- The text with a word in place of every character `c`. -/
def Text.replaceChar (s : Text) (c : Char) (word : Text) : Text :=
  s.flatMap fun d => if d = c then word else [d]

/-- The characters that are replaced in texts and attributes, in turn. The words hold the first of
them, so it has to come first. -/
def xmlEntities : List (Char × Text) :=
  [('&', "&amp;"), ('<', "&lt;"), ('>', "&gt;"), ('"', "&quot;"), ('\x27', "&apos;")]

/-- The written form of a text. -/
def escapeXml (s : Text) : Text :=
  xmlEntities.foldl (fun s entity => s.replaceChar entity.1 entity.2) s

/-- The value of an attribute. -/
inductive SvgValue where
  /-- A text of the scene. -/
  | words (s : Text)
  /-- A text that is written as it is. -/
  | plain (s : Text)
  /-- A coordinate. -/
  | number (a : Mixed)
  /-- A path. -/
  | path (commands : List (PathCommand Mixed))
  /-- The width and the height of a canvas that is mapped onto itself. -/
  | canvas (width height : Mixed)

/-- The written form of a value. -/
def SvgValue.text : SvgValue → Except NumberFault Text
  | words s => .ok (escapeXml s)
  | plain s => .ok s
  | number a => coordinateText a
  | path commands => pathText commands
  | canvas width height => do
    return concat ["0 0 ", ← coordinateText width, " ", ← coordinateText height]

/-! ## Elements and their written form -/

/-- An element, with values of some kind. -/
inductive SvgNode (V : Type) where
  /-- A text that is shown. -/
  | text (attributes : List (String × V)) (words : Text)
  /-- An element whose contents follow on the same line. -/
  | element (name : String) (attributes : List (String × V)) (contents : List (SvgNode V))
  /-- An element whose contents stand on lines of their own. -/
  | group (name : String) (attributes : List (String × V)) (contents : List (SvgNode V))

namespace SvgNode

/-- The values of attributes through `f`. -/
def mapAttributes {V W ε : Type} (f : V → Except ε W) (attributes : List (String × V)) :
    Except ε (List (String × W)) :=
  attributes.mapM fun a => do return (a.1, ← f a.2)

mutual

/-- A node with its values through `f`. -/
def mapValues {V W ε : Type} (f : V → Except ε W) : SvgNode V → Except ε (SvgNode W)
  | text attributes words => do return text (← mapAttributes f attributes) words
  | element name attributes nodes => do
    return element name (← mapAttributes f attributes) (← mapAllValues f nodes)
  | group name attributes nodes => do
    return group name (← mapAttributes f attributes) (← mapAllValues f nodes)

/-- Nodes with their values through `f`. -/
def mapAllValues {V W ε : Type} (f : V → Except ε W) :
    List (SvgNode V) → Except ε (List (SvgNode W))
  | [] => .ok []
  | node :: nodes => do return (← mapValues f node) :: (← mapAllValues f nodes)

end

/-- An attribute with a blank before it. -/
def attributeText (a : String × Text) : Text := concat [" ", a.1, "=\"", a.2, "\""]

/-- The start of an element without its closing bracket. -/
def openingText (name : String) (attributes : List (String × Text)) : Text :=
  concat ["<", name, attributes.flatMap attributeText]

/-- The end of an element. -/
def closingText (name : String) : Text := concat ["</", name, ">"]

mutual

/-- A node on one line. -/
def inlineText : SvgNode Text → Text
  | text attributes words =>
    concat [openingText "text" attributes, ">", escapeXml words, closingText "text"]
  | element name attributes [] => openingText name attributes ++ " />".toList
  | element name attributes (node :: nodes) =>
    concat [openingText name attributes, ">", inlineText node, inlineTexts nodes, closingText name]
  | group name attributes nodes =>
    concat [openingText name attributes, ">", inlineTexts nodes, closingText name]

/-- Nodes on one line. -/
def inlineTexts : List (SvgNode Text) → Text
  | [] => []
  | node :: nodes => inlineText node ++ inlineTexts nodes

end

mutual

/-- The lines of a node that is `depth` levels deep. -/
def lines (depth : Nat) : SvgNode Text → List Text
  | group name attributes nodes =>
    let indent := List.replicate (2 * depth) ' '
    [concat [indent, openingText name attributes, ">"]] ++ linesOf (depth + 1) nodes ++
      [indent ++ closingText name]
  | text attributes words =>
    [List.replicate (2 * depth) ' ' ++ inlineText (text attributes words)]
  | element name attributes nodes =>
    [List.replicate (2 * depth) ' ' ++ inlineText (element name attributes nodes)]

/-- The lines of nodes that are `depth` levels deep. -/
def linesOf (depth : Nat) : List (SvgNode Text) → List Text
  | [] => []
  | node :: nodes => lines depth node ++ linesOf depth nodes

end

/-- The line that a document begins with. -/
def firstLine : Text := "<?xml version=\"1.0\" encoding=\"UTF-8\"?>"

/-- The document with the given root element. -/
def document (root : SvgNode Text) : Text :=
  (firstLine :: root.lines 0).flatMap (· ++ ['\n'])

end SvgNode

/-! ## Colors -/

/-- The colors of a theme. -/
structure Palette where
  /-- The canvas. -/
  background : String
  /-- The grid. -/
  grid : String
  /-- The inside of a table. -/
  tableFill : String
  /-- The lines around tables. -/
  tableStroke : String
  /-- The header of a table that sets no color. -/
  headerFill : String
  /-- The name of a table. -/
  headerText : String
  /-- The names of fields. -/
  rowText : String
  /-- The types of fields. -/
  typeText : String
  /-- Connections that set no color, and markers. -/
  line : String
  /-- Glyphs. -/
  label : String
  /-- An error. -/
  error : String

/-- The colors of the light theme. -/
def Palette.light : Palette :=
  { background := "#f3f6fb"
    grid := "#e1e7f0"
    tableFill := "#ffffff"
    tableStroke := "#556b8a"
    headerFill := "#dae7f8"
    headerText := "#1a2a44"
    rowText := "#27374d"
    typeText := "#7a8699"
    line := "#1f5a95"
    label := "#1f5a95"
    error := "#b3261e" }

/-- The colors of the dark theme. -/
def Palette.dark : Palette :=
  { background := "#1e1f22"
    grid := "#2b2d31"
    tableFill := "#2b2d30"
    tableStroke := "#6f7b8f"
    headerFill := "#3c4a5e"
    headerText := "#e8edf5"
    rowText := "#d0d6e0"
    typeText := "#8b95a5"
    line := "#6fa8dc"
    label := "#9cc3ea"
    error := "#f2b8b5" }

/-- The colors of a theme. -/
def Theme.palette : Theme → Palette
  | .light => .light
  | .dark => .dark

/-! ## The elements of a scene -/

namespace Drawing

/-- A whole number as a coordinate. -/
def whole (n : Int) : Mixed := .whole n

/-- A fixed attribute value. -/
def fixed (s : String) : SvgValue := .plain s

/-- The typeface of names and messages. -/
def sans : SvgValue := fixed "Segoe UI, Arial, sans-serif"

/-- The typeface of fields. -/
def mono : SvgValue := fixed "Consolas, Courier New, monospace"

/-- The color that is set, or the one of the theme. -/
def colorOr (color : Option Text) (base : String) : SvgValue :=
  match color with
  | some [] | none => fixed base
  | some c => .words c

/-- The attributes of a rectangle. -/
def rectAttributes (x y width height : Mixed) : List (String × SvgValue) :=
  [("x", .number x), ("y", .number y), ("width", .number width), ("height", .number height)]

/-- The space right of and below everything. -/
def margin : Mixed := whole 40

/-- The boxes of everything that is drawn. -/
def extents (s : Scene) : List (Rect Mixed) :=
  s.tables.map (·.rect) ++ s.notes.map (·.rect) ++
    (s.routing.paths.flatMap fun p => p.commands.flatMap (·.points)).map fun p =>
      ⟨p.x, p.y, whole 0, whole 0⟩

/-- The width and the height of a drawing. -/
def size (s : Scene) : Mixed × Mixed :=
  match extents s with
  | [] => (whole 400, whole 200)
  | first :: rest =>
    let all := rest.foldl Rect.union first
    (larger all.right (whole 0) + margin, larger all.bottom (whole 0) + margin)

/-- The background grid. -/
def grid (cell : Int) (width height : Mixed) (palette : Palette) : List (SvgNode SvgValue) :=
  let n := Text.ofInt cell
  [.element "defs" [] [.element "pattern" [("id", fixed "grid"), ("width", .plain n),
      ("height", .plain n), ("patternUnits", fixed "userSpaceOnUse")]
      [.element "path" [("d", .plain (concat ["M ", n, " 0 L 0 0 0 ", n])), ("fill", fixed "none"),
        ("stroke", fixed palette.grid), ("stroke-width", fixed "1")] []]],
    .element "rect" (rectAttributes (whole 0) (whole 0) width height ++
      [("fill", fixed "url(#grid)")]) []]

/-- The name of a field with its marks. -/
def fieldTitle (f : Field) : Text :=
  let marks : List Text := (if f.isPrimaryKey then ["PK".toList] else []) ++
    if f.isForeignKey then ["FK".toList] else []
  if marks.isEmpty then f.name else concat [f.name, " (", Text.join ", " marks, ")"]

/-- The name and the type of a field. -/
def fieldRow (layout : LayoutConfig Mixed) (palette : Palette) (box : TableBox) (f : Field)
    (row : Nat) : List (SvgNode SvgValue) :=
  let top := box.rect.y + layout.headerHeight + whole row * layout.rowHeight
  let baseline := top + layout.rowHeight / whole 2 + whole 4
  let weight := if f.isPrimaryKey then [("font-weight", fixed "bold")] else []
  [.text ([("id", .words (columnAnchor box.table.id f.name)), ("x", .number (box.rect.x + whole 8)),
      ("y", .number baseline), ("font-family", mono), ("font-size", fixed "11")] ++ weight ++
      [("fill", fixed palette.rowText)]) (fieldTitle f),
    .text [("x", .number (box.rect.right - whole 8)), ("y", .number baseline),
      ("text-anchor", fixed "end"), ("font-family", mono), ("font-size", fixed "11"),
      ("fill", fixed palette.typeText)] f.type]

/-- A table. -/
def table (layout : LayoutConfig Mixed) (palette : Palette) (box : TableBox) :
    SvgNode SvgValue :=
  let r := box.rect
  let outline := [("stroke", fixed palette.tableStroke), ("stroke-width", fixed "2")]
  .group "g" [("class", fixed "db-table"), ("id", .words (tableAnchor box.table.id))] <|
    [.element "rect" (rectAttributes r.x r.y r.width r.height ++
        [("fill", fixed palette.tableFill)] ++ outline) [],
      .element "rect" (rectAttributes r.x r.y r.width layout.headerHeight ++
        [("fill", colorOr box.table.color palette.headerFill)] ++ outline) [],
      .text [("x", .number (r.x + whole 8)),
        ("y", .number (r.y + layout.headerHeight / whole 2 + whole 5)), ("font-family", sans),
        ("font-size", fixed "13"), ("font-weight", fixed "bold"),
        ("fill", fixed palette.headerText)] box.table.name] ++
    box.table.fields.zipIdx.flatMap fun (f, row) => fieldRow layout palette box f row

/-- The lines of a sticky note from a height on. -/
def noteLines (x y : Mixed) : List Text → List (SvgNode SvgValue)
  | [] => []
  | line :: rest =>
    .text [("x", .number x), ("y", .number y), ("font-family", sans), ("font-size", fixed "12"),
      ("fill", fixed "#3b3b3b")] line :: noteLines x (y + whole 16) rest

/-- A sticky note. -/
def note (box : NoteBox) : SvgNode SvgValue :=
  let r := box.rect
  let lines := match Text.lines box.note.content with
    | [] => [[]]
    | lines => lines
  .group "g" [("class", fixed "sticky-note"), ("id", .words (noteAnchor box.note.id))] <|
    .element "rect" (rectAttributes r.x r.y r.width r.height ++
      [("fill", .words box.note.color), ("stroke", fixed "#d4c36a")]) [] ::
    noteLines (r.x + whole 10) (r.y + whole 20) lines

/-- The glyph at an end of a connection. -/
def glyph (palette : Palette) (l : ConnectionLabel Mixed) : SvgNode SvgValue :=
  .text [("x", .number l.position.x), ("y", .number (l.position.y - whole 4)),
    ("text-anchor", fixed "middle"), ("font-family", sans), ("font-size", fixed "11"),
    ("font-weight", fixed "bold"), ("fill", fixed palette.label)] l.text

/-- A connection with its glyphs. -/
def connection (palette : Palette) (p : ConnectionPath Mixed) : List (SvgNode SvgValue) :=
  .element "path" [("class", fixed "connection"), ("id", .plain p.key), ("d", .path p.commands),
      ("fill", fixed "none"), ("stroke", colorOr p.connection.color palette.line),
      ("stroke-width", fixed "2")] [] ::
    (p.startLabel.toList ++ p.endLabel.toList).map (glyph palette)

/-- A marker. -/
def marker (palette : Palette) (m : AnchorMarker Mixed) : SvgNode SvgValue :=
  .element "circle" [("cx", .number m.position.x), ("cy", .number m.position.y),
    ("r", fixed "3"), ("fill", fixed palette.line)] []

/-- The message of a scene that is an error. -/
def message (palette : Palette) (error : Text) : SvgNode SvgValue :=
  .text [("class", fixed "error"), ("x", fixed "20"), ("y", fixed "40"), ("font-family", sans),
    ("font-size", fixed "14"), ("fill", fixed palette.error)] ("Error: ".toList ++ error)

/-- What is drawn on the canvas of a scene. -/
def contents (layout : LayoutConfig Mixed) (s : Scene) : List (SvgNode SvgValue) :=
  let palette := s.display.theme.palette
  let (width, height) := size s
  match s.error with
  | some error => [message palette error]
  | none =>
    (if s.display.showGrid then grid s.display.gridSize width height palette else []) ++
      s.notes.map note ++ s.routing.paths.flatMap (connection palette) ++
      s.routing.anchors.map (marker palette) ++ s.tables.map (table layout palette)

end Drawing

/-- The root element of a scene. -/
def drawing (layout : LayoutConfig Float) (s : Scene) : SvgNode SvgValue :=
  let (width, height) := Drawing.size s
  .group "svg" [("xmlns", Drawing.fixed "http://www.w3.org/2000/svg"),
    ("width", .number width), ("height", .number height), ("viewBox", .canvas width height)] <|
    .element "rect" (Drawing.rectAttributes (.whole 0) (.whole 0) width height ++
      [("fill", Drawing.fixed s.display.theme.palette.background)]) [] ::
    Drawing.contents (layout.map Mixed.real) s

/-- The document of a scene. -/
def svgText (layout : LayoutConfig Float) (s : Scene) : Except NumberFault Text := do
  let root ← (drawing layout s).mapValues SvgValue.text
  return root.document

end SchemaDiagram
