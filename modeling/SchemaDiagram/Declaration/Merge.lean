import SchemaDiagram.Model.Diagnostic
import SchemaDiagram.Model.Table

/-! # Merging partials into a table

The body of a table is a sequence of fields and injections of partials. Read from top to bottom, the
first occurrence of a field name fixes its place and the last one its attributes. Settings are
merged by key and indexes by their columns, in the order of the injections; what the table itself
says comes last. The note of the last injected partial that has one is kept for a table without a
note. -/

namespace SchemaDiagram

/-- An entry of a table body. -/
inductive TableEntry where
  /-- A field of the table itself. -/
  | field (f : Field)
  /-- The injection of a partial. -/
  | inject (name : Text) (line : Option Nat)

/-- The parts of a table with all injections resolved. -/
structure MergedTable where
  /-- The fields by name. -/
  fields : OrderedMap Field
  /-- The settings as they are written. -/
  settings : OrderedMap Text
  /-- The indexes by their columns. -/
  indexes : OrderedMap IndexEntry
  /-- The note of the last injected partial that has one. -/
  note : Option Text

namespace MergedTable

/-- A table without contents. -/
def empty : MergedTable := ⟨[], [], [], none⟩

/-- Writes indexes into the table. -/
def addIndexes (m : MergedTable) (indexes : List IndexEntry) : MergedTable :=
  { m with indexes := m.indexes.update (indexes.map fun index => (index.key, index)) }

/-- Writes a partial into the table. -/
def addPartial (m : MergedTable) (p : TablePartial) : MergedTable :=
  let merged := m.addIndexes p.indexes
  { merged with
    fields := m.fields.update (p.fields.map fun f => (f.name, f))
    settings := m.settings.update p.settings
    note := (p.note.filter (! ·.isEmpty)).or m.note }

/-- Writes a body entry into the table; an unknown partial changes nothing. -/
def addEntry (partials : OrderedMap TablePartial) (m : MergedTable) : TableEntry → MergedTable
  | .field f => { m with fields := m.fields.insert f.name f }
  | .inject name _ =>
    match partials.get? name with
    | some p => m.addPartial p
    | none => m

end MergedTable

/-- The report on an entry that injects an unknown partial. -/
def unknownInjection? (partials : OrderedMap TablePartial) (table : Text) :
    TableEntry → Option Diagnostic
  | .field _ => none
  | .inject name line =>
    match partials.get? name with
    | some _ => none
    | none => some ⟨.unknownPartial table name, line⟩

/-- The table that body entries, header settings and indexes of its own make. -/
def mergeTable (entries : List TableEntry) (partials : OrderedMap TablePartial)
    (header : OrderedMap Text) (indexes : List IndexEntry) : MergedTable :=
  let merged := (entries.foldl (MergedTable.addEntry partials) MergedTable.empty).addIndexes indexes
  { merged with settings := merged.settings.update header }

end SchemaDiagram
