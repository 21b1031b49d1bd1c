import SchemaDiagram.Model.Diagnostic
import SchemaDiagram.Model.Project
import SchemaDiagram.Model.Table

/-! # Schemas

A schema is what a document says: its tables, references, notes, enums and project, with reports on
everything that could not be read. -/

namespace SchemaDiagram

/-- The model of a document. -/
structure Schema where
  /-- The tables in order. -/
  tables : List Table
  /-- The references: those of fields first, then those of reference blocks. -/
  relationships : List Relationship
  /-- The sticky notes in order. -/
  notes : List Note
  /-- The enums in order. -/
  enums : List EnumDef
  /-- The project settings. -/
  project : ProjectSettings
  /-- The name of the project. -/
  projectName : Option Text
  /-- The reports in the order in which the problems were met. -/
  diagnostics : List Diagnostic

namespace Schema

/-- A schema without contents. -/
def empty : Schema := ⟨[], [], [], [], ⟨[]⟩, none, []⟩

/-- Whether no report is an error. -/
def isOk (s : Schema) : Bool := s.diagnostics.all (·.severity != .error)

/-- The name of the default schema before a dot. -/
def defaultSchemaHead : Text := defaultSchema ++ ['.']

/-- The table that a name in the document denotes: the table of that name, else one with that
alias, else the table of the name with the default schema added or removed. Double quotes and outer
blanks do not count. -/
def resolve (s : Schema) (name : Text) : Option Table :=
  let wanted := Text.trim (name.filter (· != '"'))
  let other := (Text.dropHead? defaultSchemaHead wanted).getD (defaultSchemaHead ++ wanted)
  (s.tables.find? (·.name = wanted)).or <|
    (s.tables.find? fun t => wanted != [] && t.aliasName = some wanted).or <|
      s.tables.find? (·.name = other)

/-- The first note with the given name. -/
def note? (s : Schema) (name : Text) : Option Note := s.notes.find? (·.name = name)

/-- The first enum with the given name. -/
def enum? (s : Schema) (name : Text) : Option EnumDef := s.enums.find? (·.name = name)

end Schema

end SchemaDiagram
