import SchemaDiagram.Routing.Route

/-! # Highlighting

The pointer over a line, a column or a table lights up the lines there with their columns and
markers. At most one set of ids is lit. -/

namespace SchemaDiagram

/-- The ids that are lit. -/
structure HighlightSet where
  /-- The keys of lines. -/
  paths : List Text
  /-- The ids of columns and tables. -/
  elements : List Text
  /-- The ids of the columns whose markers are lit. -/
  anchors : List Text
deriving DecidableEq, Repr

namespace HighlightSet

/-- Whether an id is lit. -/
def contains (s : HighlightSet) (id : Text) : Bool :=
  s.paths.contains id || s.elements.contains id || s.anchors.contains id

/-- The ids of some lines, with one more element. Every id occurs once, in code point order. -/
def ofPaths {K : Type} (paths : List (ConnectionPath K)) (elements : List Text) : HighlightSet :=
  let anchors := paths.flatMap fun p => [p.connection.source.anchor, p.connection.target.anchor]
  let inOrder (ids : List Text) : List Text := Text.sort ids.eraseDups
  ⟨inOrder (paths.map (·.key)), inOrder (elements ++ anchors), inOrder anchors⟩

end HighlightSet

section

variable {K : Type}

/-- What a line lights up; nothing where there is no such line. -/
def highlightLine (r : RoutingResult K) (key : Text) : Option HighlightSet :=
  (r.path? key).map fun p => .ofPaths [p] []

/-- What a column lights up. -/
def highlightColumn (r : RoutingResult K) (anchor : Text) : HighlightSet :=
  .ofPaths (r.paths.filter fun p =>
    p.connection.source.anchor = anchor || p.connection.target.anchor = anchor) [anchor]

/-- What a table lights up. -/
def highlightTable (r : RoutingResult K) (anchor : Text) : HighlightSet :=
  .ofPaths (r.paths.filter fun p =>
    p.connection.source.tableAnchor = anchor || p.connection.target.tableAnchor = anchor) [anchor]

end

end SchemaDiagram
