import SchemaDiagram.Console.Columns
import SchemaDiagram.Model.Schema
import SchemaDiagram.Number.Decimal
import SchemaDiagram.Text.Lines

/-! # The summary of a schema

What a schema holds, for the console: a heading with counts, the tables in columns, the references
and the reports. Names from the document are shown as they are. -/

namespace SchemaDiagram

/-- The heading of the summary of a file. -/
def summaryHeading (fileName : Text) (s : Schema) : Text :=
  concat ["[bold]", escapeMarkup fileName, "[/bold]: ",
    counted s.tables.length "table" none, ", ",
    counted s.relationships.length "relationship" none, ", ",
    counted s.notes.length "note" none]

/-- Where a table stands, in short numbers. -/
def positionSummary (t : Table) : Except NumberFault Text :=
  match t.x, t.y with
  | some x, some y => do
    let x ← x.toFloat
    let y ← y.toFloat
    return concat [summaryText x, ", ", summaryText y]
  | _, _ => .ok "auto"

/-- The first line of a note. -/
def noteSummary (note : Option Text) : Text := ((Text.lines (note.getD [])).head?).getD []

/-- The headings of the columns. -/
def tableHeadings : List Text := ["Table", "Fields", "Position", "Note"]

/-- The alignments of the columns. -/
def tableAlignments : List Alignment := [.left, .right, .left, .left]

/-- The markup of the cells of a table. -/
def tableCells (t : Table) : Except NumberFault (List Text) := do
  let position ← positionSummary t
  return [escapeMarkup t.name, Text.ofNat t.fields.length, position,
    escapeMarkup (noteSummary t.note)]

/-- An end of a reference. -/
def endSummary (table : Text) (columns : List Text) : Text :=
  escapeMarkup (concat [table, ".(", Text.join ", " columns, ")"])

/-- The markup of a reference. -/
def referenceSummary (r : Relationship) : Text :=
  concat ["  ", endSummary r.fromTable r.fromColumns, " [cyan]", r.cardinality.text, "[/cyan] ",
    endSummary r.toTable r.toColumns]

/-- The style of reports of a severity. -/
def Severity.style : Severity → Text
  | error => "red"
  | warning => "yellow"
  | info => "cyan"
  | hint => "dim"

/-- The markup of a report. -/
def reportSummary (d : Diagnostic) : Text :=
  concat ["  [", d.severity.style, "]", escapeMarkup d.text, "[/", d.severity.style, "]"]

end SchemaDiagram
