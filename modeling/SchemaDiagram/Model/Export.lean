import SchemaDiagram.Json
import SchemaDiagram.Model.Schema

/-! # Schemas as data documents

Everything that is known about a schema, for other programs.

* **`Schema.toJson`** — the whole schema. -/

namespace SchemaDiagram

/-- A number as it is kept. -/
def Mixed.toJson : Mixed → Json
  | whole n => .int n
  | real x => .float x
  | fault f => .text f.message

/-- A number where there is one. -/
def Mixed.toJson? (a : Option Mixed) : Json := (a.map toJson).getD .null

/-- A scalar as it is kept. -/
def Scalar.toJson : Scalar → Json
  | int n => .int n
  | float x => .float x
  | bool b => .bool b
  | text s => .text s

/-- A report. -/
def Diagnostic.toJson (d : Diagnostic) : Json :=
  .object [("message", .text d.problem.message),
    ("line", (d.line.map fun (n : Nat) => Json.int n).getD .null),
    ("severity", .text d.severity.name),
    ("code", .ofText? (d.problem.code.map String.toList))]

/-- A reference in a field. -/
def InlineRef.toJson (r : InlineRef) : Json :=
  .object [("operator", .text r.operator), ("to_table", .text r.table),
    ("to_column", .text r.column)]

/-- A field. -/
def Field.toJson (f : Field) : Json :=
  .object [("name", .text f.name), ("type", .text f.type), ("is_pk", .bool f.isPrimaryKey),
    ("is_unique", .bool f.isUnique), ("is_not_null", .bool f.isNotNull),
    ("is_fk", .bool f.isForeignKey), ("is_increment", .bool f.isIncrement),
    ("note", .ofText? f.note), ("default", .ofText? f.default),
    ("enum_values", (f.enumValues.map Json.texts).getD .null),
    ("inline_ref", (f.inlineRef.map InlineRef.toJson).getD .null), ("settings", .ofMap f.settings)]

/-- An index. -/
def IndexEntry.toJson (index : IndexEntry) : Json :=
  .object [("columns", .texts index.columns), ("settings", .ofMap index.settings),
    ("raw", .text index.raw)]

/-- A table. -/
def Table.toJson (t : Table) : Json :=
  .object [("id", .text t.id), ("name", .text t.name),
    ("fields", .list (t.fields.map Field.toJson)), ("alias", .ofText? t.aliasName),
    ("note", .ofText? t.note), ("color", .ofText? t.color), ("width", Mixed.toJson? t.width),
    ("x", Mixed.toJson? t.x), ("y", Mixed.toJson? t.y), ("settings", .ofMap t.settings),
    ("indexes", .list (t.indexes.map IndexEntry.toJson))]

/-- A reference between tables. -/
def Relationship.toJson (r : Relationship) : Json :=
  .object [("from_table", .text r.fromTable), ("from_columns", .texts r.fromColumns),
    ("to_table", .text r.toTable), ("to_columns", .texts r.toColumns),
    ("cardinality", .text r.cardinality.text), ("settings", .ofMap r.settings),
    ("name", .ofText? r.name)]

/-- A sticky note. -/
def Note.toJson (n : Note) : Json :=
  .object [("id", .text n.id), ("name", .text n.name), ("content", .text n.content),
    ("x", n.x.toJson), ("y", n.y.toJson), ("width", n.width.toJson),
    ("height", Mixed.toJson? n.height), ("color", .text n.color)]

/-- An enum. -/
def EnumDef.toJson (e : EnumDef) : Json :=
  .object [("name", .text e.name), ("values", .texts e.values), ("notes", .ofMap e.notes)]

/-- The whole schema. -/
def Schema.toJson (s : Schema) : Json :=
  .object [("tables", .list (s.tables.map Table.toJson)),
    ("relationships", .list (s.relationships.map Relationship.toJson)),
    ("notes", .list (s.notes.map Note.toJson)), ("enums", .list (s.enums.map EnumDef.toJson)),
    ("project", .object (s.project.values.mapValues Scalar.toJson)),
    ("project_name", .ofText? s.projectName),
    ("diagnostics", .list (s.diagnostics.map Diagnostic.toJson))]

end SchemaDiagram
