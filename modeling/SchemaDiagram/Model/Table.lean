import SchemaDiagram.Number.Mixed
import SchemaDiagram.OrderedMap
import SchemaDiagram.Text.Blank
import SchemaDiagram.Text.LowerCase

/-! # Tables, references and notes

The parts of a schema: tables with their fields and indexes, partials that tables share, references
between tables, enums and sticky notes. A reference names tables and columns the way the document
spells them. -/

namespace SchemaDiagram

/-- The name as an identifier: every character but ASCII letters, digits and the underscore becomes
an underscore. -/
def sanitizeId (name : Text) : Text :=
  if name.isEmpty then "unnamed"
  else name.map fun c => if c.isAlphanum || c = '_' then c else '_'

/-- The id under which a column is drawn. -/
def columnAnchor (tableId column : Text) : Text := concat ["col-", tableId, "-", column]

/-- The id under which a table is drawn. -/
def tableAnchor (tableId : Text) : Text := "table-".toList ++ tableId

/-- The id under which a sticky note is drawn. -/
def noteAnchor (noteId : Text) : Text := "note-".toList ++ noteId

/-- The schema that a name without one belongs to. -/
def defaultSchema : Text := "public"

/-- How many rows of one table belong to how many of the other. -/
inductive Cardinality where
  | oneToOne
  | oneToMany
  | manyToOne
  | manyToMany
deriving DecidableEq, Repr

namespace Cardinality

/-- The glyphs at the two ends of a connection. -/
def glyphs : Cardinality → Text × Text
  | oneToOne => ("1", "1")
  | oneToMany => ("1", "n")
  | manyToOne => ("n", "1")
  | manyToMany => ("m", "n")

/-- The two glyphs with a colon between them. -/
def text (c : Cardinality) : Text := c.glyphs.1 ++ ':' :: c.glyphs.2

/-- The cardinality that an operator stands for; an operator without a meaning of its own stands
for one to many. -/
def ofOperator (operator : Text) : Cardinality :=
  let operator := operator.trim
  if operator = ">".toList then manyToOne
  else if operator = "-".toList then oneToOne
  else if operator = "<>".toList then manyToMany
  else oneToMany

/-- The cardinality read from the other end. -/
def reverse : Cardinality → Cardinality
  | oneToMany => manyToOne
  | manyToOne => oneToMany
  | c => c

end Cardinality

/-- A reference in the settings of a field. -/
structure InlineRef where
  /-- The operator between the field and its target. -/
  operator : Text
  /-- The table that is referred to. -/
  table : Text
  /-- The column that is referred to. -/
  column : Text
deriving DecidableEq, Repr

/-- A column of a table. -/
structure Field where
  /-- The name of the column. -/
  name : Text
  /-- Its type. -/
  type : Text
  /-- Whether it is the primary key. -/
  isPrimaryKey : Bool
  /-- Whether its values are unique. -/
  isUnique : Bool
  /-- Whether it must have a value. -/
  isNotNull : Bool
  /-- Whether it refers to another column. -/
  isForeignKey : Bool
  /-- Whether its values are counted up. -/
  isIncrement : Bool
  /-- The note on it. -/
  note : Option Text
  /-- Its default value. -/
  default : Option Text
  /-- The values of the enum that is its type. -/
  enumValues : Option (List Text)
  /-- The reference in its settings. -/
  inlineRef : Option InlineRef
  /-- Its settings as they are written. -/
  settings : OrderedMap Text
deriving DecidableEq

/-- An entry of an index block. -/
structure IndexEntry where
  /-- The columns or expressions of the index. -/
  columns : List Text
  /-- Its settings as they are written. -/
  settings : OrderedMap Text
  /-- The line that it was read from. -/
  raw : Text
deriving DecidableEq

/-- The identity of an index when partials are merged: its columns in small letters and in code
point order, joined by bars. -/
def IndexEntry.key (index : IndexEntry) : Text :=
  Text.join ['|'] (Text.sort (index.columns.map Text.lower))

/-- A table. -/
structure Table where
  /-- The identifier of the table, different from those of all other tables. -/
  id : Text
  /-- The name without quotes. -/
  name : Text
  /-- The columns. -/
  fields : List Field
  /-- The name after `as`. -/
  aliasName : Option Text
  /-- The note on the table. -/
  note : Option Text
  /-- The color of its header. -/
  color : Option Text
  /-- Its width, if it has one of its own. -/
  width : Option Mixed
  /-- Its left edge, if it is placed. -/
  x : Option Mixed
  /-- Its top edge, if it is placed. -/
  y : Option Mixed
  /-- Its settings as they are written, those of its partials included. -/
  settings : OrderedMap Text
  /-- Its indexes, those of its partials included. -/
  indexes : List IndexEntry

/-- The part of a name before its last dot. -/
def schemaOfName (name : Text) : Text :=
  match Text.cutLast ['.'] name with
  | some (schema, _) => schema
  | none => defaultSchema

/-- The part of a name behind its last dot. -/
def shortName (name : Text) : Text :=
  match Text.cutLast ['.'] name with
  | some (_, short) => short
  | none => name

/-- The first field with the given name. -/
def Table.field? (t : Table) (name : Text) : Option Field := t.fields.find? (·.name = name)

/-- A bundle of fields, settings and indexes that tables take in. -/
structure TablePartial where
  /-- The name of the partial. -/
  name : Text
  /-- Its fields. -/
  fields : List Field
  /-- Its settings as they are written. -/
  settings : OrderedMap Text
  /-- Its indexes. -/
  indexes : List IndexEntry
  /-- Its note. -/
  note : Option Text

/-- A reference between the columns of two tables. -/
structure Relationship where
  /-- The name of the first table. -/
  fromTable : Text
  /-- The columns of the first table. -/
  fromColumns : List Text
  /-- The name of the second table. -/
  toTable : Text
  /-- The columns of the second table. -/
  toColumns : List Text
  /-- How many rows belong together. -/
  cardinality : Cardinality
  /-- The settings as they are written. -/
  settings : OrderedMap Text
  /-- The name of the reference. -/
  name : Option Text
deriving DecidableEq

namespace Relationship

/-- The columns that belong together by their place; columns without a partner are left out. -/
def pairs (r : Relationship) : List (Text × Text) := r.fromColumns.zip r.toColumns

/-- The color of the connection, without quotes around it. -/
def color (r : Relationship) : Option Text :=
  match r.settings.get? "color" with
  | some value =>
    let isQuote (c : Char) : Bool := c = '\x27' || c = '"'
    if value.isEmpty then none
    else some ((value.dropWhile isQuote).reverse.dropWhile isQuote).reverse
  | none => none

/-- The same reference, written from the other end. -/
def reverse (r : Relationship) : Relationship :=
  { r with
    fromTable := r.toTable
    fromColumns := r.toColumns
    toTable := r.fromTable
    toColumns := r.fromColumns
    cardinality := r.cardinality.reverse }

end Relationship

/-- A sticky note. -/
structure Note where
  /-- The identifier of the note, different from those of all other notes. -/
  id : Text
  /-- The name without quotes. -/
  name : Text
  /-- What is written on it. -/
  content : Text
  /-- Its left edge. -/
  x : Mixed
  /-- Its top edge. -/
  y : Mixed
  /-- Its width. -/
  width : Mixed
  /-- Its height, if it has one of its own. -/
  height : Option Mixed
  /-- Its color. -/
  color : Text

/-- An enum with its values. -/
structure EnumDef where
  /-- The name without quotes. -/
  name : Text
  /-- The values in order. -/
  values : List Text
  /-- The notes on values. -/
  notes : OrderedMap Text
deriving DecidableEq

end SchemaDiagram
