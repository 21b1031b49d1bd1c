import SchemaDiagram.Declaration.Field
import SchemaDiagram.Declaration.Index
import SchemaDiagram.Declaration.Merge
import SchemaDiagram.Declaration.Reference
import SchemaDiagram.Model.Schema
import SchemaDiagram.Source.Block
import SchemaDiagram.Source.Segment

/-! # Reading a document

A document is cleaned, split into blocks, and every block is read by itself: a block that cannot be
read is reported and skipped, all others are kept.

* **`freshId`** — an identifier that differs from all earlier ones.
* **`readTables`**, **`readNotes`**, **`readEnums`**, **`readPartials`**, **`readRefs`**,
  **`readProject`** — what the blocks of one keyword say.
* **`readSchema`** — the model of a document. -/

namespace SchemaDiagram

/-- A value with the reports that reading it gave. -/
structure Reported (α : Type) where
  /-- What was read. -/
  value : α
  /-- The reports in order. -/
  problems : List Diagnostic

/-- A report on a block. -/
def Block.report (b : Block) (problem : Problem) : Diagnostic := ⟨problem, some b.line⟩

/-- The name of a block that has a name. -/
def Block.properName? (b : Block) : Option Text := b.name.filter (! ·.isEmpty)

/-! ## Identifiers -/

/-- The identifier with the `n`-th suffix: none, `_2`, `_3`, … -/
def suffixedId (base : Text) : Nat → Text
  | 0 => base
  | n + 1 => base ++ '_' :: Text.ofNat (n + 2)

/-- The first of the suffixed identifiers that is not taken. -/
def freshId (base : Text) (taken : List Text) : Text :=
  (((List.range (taken.length + 1)).map (suffixedId base)).find? (! taken.contains ·)).getD base

/-! ## Projects and enums -/

/-- A property value of a project: a text between quotes, a truth value, a number, or any other
text. -/
def readScalar (raw : Text) : Scalar :=
  -- Quotes make a text of anything; else the narrowest reading counts.
  let value := raw.trim
  let isEnclosed (mark : Char) : Bool :=
    2 ≤ value.length && value.head? = some mark && value.getLast? = some mark
  if isEnclosed '\x27' || isEnclosed '"' then .text (unquote value)
  else if value.lower = "true".toList then .bool true
  else if value.lower = "false".toList then .bool false
  else match readInt? value with
    | some n => .int n
    | none =>
      match readFloat? value with
      | some x => .float x
      | none => .text value

/-- The text of a note block without quotes and blanks around it. -/
def noteContent (b : Block) (text : Text) : Text :=
  Text.trim (unquote (Text.trim (b.bodyText text)))

/-- The settings of a project block. -/
def projectValues (b : Block) (text : Text) : OrderedMap Scalar :=
  let fromProperties := OrderedMap.ofList (b.properties.map fun property =>
    (if property.key.lower = "note".toList then "note" else property.key,
      readScalar property.value))
  (b.childrenNamed "note").foldl (fun m child => m.insert "note" (.text (noteContent child text)))
    fromProperties

/-- The name and settings of the first project block. -/
def readProject (tree : BlockTree) : Reported (Option Text × ProjectSettings) :=
  match tree.withKeyword "project" with
  | [] => ⟨(none, ⟨[]⟩), []⟩
  | first :: others =>
    ⟨(first.name, ⟨projectValues first tree.text⟩),
      others.map (·.report .extraProject) ++
        first.lines.map fun line => ⟨.strayProjectLine line.text, some line.line⟩⟩

/-- A value of an enum with its note and reports on its settings. -/
def readEnumValue (line : BodyLine) : Reported (Text × Option Text) :=
  let (head, settingsText) := splitBracket line.text
  let typed := interpretSettings (parseSettings (settingsText.getD [])) .enumValue (some line.line)
  ⟨(unquote head.trim, (typed.text? "note").filter (! ·.isEmpty)), typed.problems⟩

/-- The enum that a block declares. -/
def readEnum (name : Text) (b : Block) : Reported EnumDef :=
  let values := b.lines.map readEnumValue
  let notes := values.filterMap fun v => v.value.2.map (v.value.1, ·)
  ⟨⟨name, values.map (·.value.1), .ofList notes⟩, values.flatMap (·.problems)⟩

/-- The enums by name; a later enum replaces an earlier one of its name. -/
def readEnums (tree : BlockTree) : Reported (OrderedMap EnumDef) :=
  let blocks := tree.withKeyword "enum"
  let read (b : Block) : Option EnumDef × List Diagnostic :=
    match b.properName? with
    | none => (none, [b.report .unnamedEnum])
    | some name => let e := readEnum name b; (some e.value, e.problems)
  let results := blocks.map read
  ⟨.ofList ((results.filterMap (·.1)).map fun e => (e.name, e)), results.flatMap (·.2)⟩

/-! ## Tables and partials -/

/-- The body of a table or partial. -/
structure TableBody where
  /-- The fields and injections in order. -/
  entries : List TableEntry
  /-- The indexes in order. -/
  indexes : List IndexEntry
  /-- The note in the body. -/
  note : Option Text

/-- The indexes of an index block. -/
def readIndexes (b : Block) : Reported (List IndexEntry) :=
  let results := b.lines.map fun line => readIndex line.text (some line.line)
  ⟨results.filterMap (·.1), results.flatMap (·.2)⟩

/-- What a block inside a table says: indexes or a note. -/
def readInnerBlock (text owner : Text) (b : Block) : Reported (List IndexEntry × Option Text) :=
  if b.keyword = "indexes".toList then
    let indexes := readIndexes b
    ⟨(indexes.value, none), indexes.problems⟩
  else if b.keyword = "note".toList then ⟨([], some (noteContent b text)), []⟩
  else ⟨([], none), [b.report (.unsupportedInnerBlock b.keyword owner)]⟩

/-- What a property inside a table says: a note. -/
def readInnerProperty (owner : Text) (p : Property) : Reported (Option Text) :=
  if p.key.lower = "note".toList then ⟨some (unquote p.value.trim), []⟩
  else ⟨none, [⟨.unexpectedProperty p.key owner, some p.line⟩]⟩

/-- The entries that a line of a table declares: an injection, or fields. Doc comments belong to the
first field. -/
def readEntries (line : BodyLine) : Reported (List TableEntry) :=
  match line.text with
  | '~' :: rest => ⟨[.inject (unquote (Text.trim rest)) (some line.line)], []⟩
  | _ =>
    let results := match splitDeclarations line.text with
      | [] => []
      | first :: others =>
        readField first line.doc (some line.line) ::
          others.map fun declaration => readField declaration [] (some line.line)
    ⟨results.filterMap fun r => r.1.map .field, results.flatMap (·.2)⟩

/-- The body of a table or partial with the given name. -/
def readTableBody (text owner : Text) (b : Block) : Reported TableBody :=
  let inner := b.children.map (readInnerBlock text owner)
  let properties := b.properties.map (readInnerProperty owner)
  let lines := b.lines.map readEntries
  -- A note among the properties comes after the note blocks, wherever it stands.
  let notes := inner.filterMap (·.value.2) ++ properties.filterMap (·.value)
  ⟨⟨lines.flatMap (·.value), inner.flatMap (·.value.1), notes.getLast?⟩,
    inner.flatMap (·.problems) ++ properties.flatMap (·.problems) ++ lines.flatMap (·.problems)⟩

/-- The partial that a block declares; a partial takes in no partials. -/
def readPartial (text name : Text) (b : Block) : Reported TablePartial :=
  let body := readTableBody text name b
  let fields := body.value.entries.filterMap fun
    | .field f => some (f.name, f)
    | .inject .. => none
  let injections := body.value.entries.filterMap fun
    | .field _ => none
    | .inject other line => some ⟨.nestedInjection name other, line⟩
  ⟨{ name
     fields := (OrderedMap.ofList fields).values
     settings := parseSettings (b.settingsText text)
     indexes := body.value.indexes
     note := body.value.note },
    body.problems ++ injections⟩

/-- The partials by name; a later partial replaces an earlier one of its name. -/
def readPartials (tree : BlockTree) : Reported (OrderedMap TablePartial) :=
  let read (b : Block) : Option TablePartial × List Diagnostic :=
    match b.properName? with
    | none => (none, [b.report .unnamedPartial])
    | some name => let p := readPartial tree.text name b; (some p.value, p.problems)
  let results := (tree.withKeyword "tablepartial").map read
  ⟨.ofList ((results.filterMap (·.1)).map fun p => (p.name, p)), results.flatMap (·.2)⟩

/-- What tables need to know of other blocks. -/
structure TableContext where
  /-- The cleaned text. -/
  text : Text
  /-- The partials by name. -/
  partials : OrderedMap TablePartial
  /-- The enums by name. -/
  enums : OrderedMap EnumDef

namespace TableContext

/-- The enum that is the type of a field, by its name or by its name without a schema. -/
def enumOf? (context : TableContext) (type : Text) : Option EnumDef :=
  (context.enums.get? type).or
    (context.enums.values.reverse.find? fun e => shortName e.name = type)

/-- The field with the values of the enum that is its type. -/
def withEnum (context : TableContext) (f : Field) : Field :=
  match context.enumOf? f.type with
  | some e => { f with enumValues := some e.values }
  | none => f

/-- The table that a block declares under the given identifier. -/
def readTable (context : TableContext) (id name : Text) (b : Block) : Reported Table :=
  let body := readTableBody context.text name b
  let header := parseSettings (b.settingsText context.text)
  let merged := mergeTable body.value.entries context.partials header body.value.indexes
  let typed := interpretSettings merged.settings .table (some b.line)
  let docNote := if b.doc.isEmpty then none else some (Text.join ['\n'] b.doc)
  ⟨{ id
     name
     fields := merged.fields.values.map context.withEnum
     aliasName := b.aliasName
     -- The body, the header, the doc comments and the partials, in this order.
     note := (((body.value.note.filter (! ·.isEmpty)).or (typed.text? "note")).or docNote).or
       merged.note
     color := (typed.text? "color").or (typed.text? "headercolor")
     width := typed.number? "width"
     x := typed.number? "x"
     y := typed.number? "y"
     settings := merged.settings
     indexes := merged.indexes.values },
    body.problems ++ body.value.entries.filterMap (unknownInjection? context.partials name) ++
      typed.problems⟩

/-- The tables that blocks declare, where `earlier` holds the tables before them. -/
def readTables (context : TableContext) (earlier : List Table) : List Block → Reported (List Table)
  | [] => ⟨[], []⟩
  | b :: rest =>
    match b.properName? with
    | none =>
      let later := readTables context earlier rest
      ⟨later.value, b.report .unnamedTable :: later.problems⟩
    | some name =>
      -- A second table of a name is reported and kept under an identifier of its own.
      let repeated := if earlier.any (·.name = name) then [b.report (.duplicateTable name)] else []
      let table := context.readTable (freshId (sanitizeId name) (earlier.map (·.id))) name b
      let later := readTables context (earlier ++ [table.value]) rest
      ⟨table.value :: later.value, repeated ++ table.problems ++ later.problems⟩

end TableContext

/-- The references in the fields of a table. -/
def Table.inlineReferences (t : Table) : List Relationship :=
  t.fields.filterMap fun f => f.inlineRef.map fun ref =>
    { fromTable := t.name
      fromColumns := [f.name]
      toTable := ref.table
      toColumns := [ref.column]
      cardinality := .ofOperator ref.operator
      settings := []
      name := none }

/-! ## References and sticky notes -/

/-- The references of the reference blocks. -/
def readRefs (tree : BlockTree) : Reported (List Relationship) :=
  let read (b : Block) : List Relationship × List Diagnostic :=
    let results := b.lines.map fun line => readReference line.text (some line.line) b.name
    (results.filterMap (·.1),
      (if b.lines.isEmpty then [b.report .emptyRef] else []) ++ results.flatMap (·.2))
  let results := (tree.withKeyword "ref").map read
  ⟨results.flatMap (·.1), results.flatMap (·.2)⟩

/-- The width of a sticky note that has none of its own. -/
def defaultNoteWidth : Mixed := .whole 250

/-- The color of a sticky note that has none of its own. -/
def defaultNoteColor : Text := "#fff9c4"

/-- The sticky note that a block declares under the given identifier. -/
def readNote (text id name : Text) (b : Block) : Reported Note :=
  let typed := interpretSettings (parseSettings (b.settingsText text)) .note (some b.line)
  ⟨{ id
     name
     content := noteContent b text
     x := (typed.number? "x").getD (.whole 0)
     y := (typed.number? "y").getD (.whole 0)
     width := (typed.number? "width").getD defaultNoteWidth
     height := typed.number? "height"
     color := (typed.text? "color").getD defaultNoteColor },
    typed.problems⟩

/-- The sticky notes that blocks declare, where `taken` holds the identifiers before them. -/
def readNotes (text : Text) (taken : List Text) : List Block → Reported (List Note)
  | [] => ⟨[], []⟩
  | b :: rest =>
    match b.properName? with
    | none =>
      let later := readNotes text taken rest
      ⟨later.value, b.report .unnamedNote :: later.problems⟩
    | some name =>
      let id := freshId (sanitizeId name) taken
      let note := readNote text id name b
      let later := readNotes text (taken ++ [id]) rest
      ⟨note.value :: later.value, note.problems ++ later.problems⟩

/-! ## Documents -/

/-- The keywords of the blocks that a document may hold. -/
def knownKeywords : List Text :=
  ["project", "enum", "tablepartial", "table", "ref", "note", "tablegroup"]

/-- The model of the tree of a cleaned document. -/
def schemaOfTree (tree : BlockTree) : Schema :=
  let enums := readEnums tree
  let project := readProject tree
  let partials := readPartials tree
  let context : TableContext := ⟨tree.text, partials.value, enums.value⟩
  let tables := context.readTables [] (tree.withKeyword "table")
  let refs := readRefs tree
  let notes := readNotes tree.text [] (tree.withKeyword "note")
  let unsupported := (tree.blocks.filter (! knownKeywords.contains ·.keyword)).map fun b =>
    b.report (.unsupportedBlock b.keyword)
  { tables := tables.value
    relationships := tables.value.flatMap (·.inlineReferences) ++ refs.value
    notes := notes.value
    enums := enums.value.values
    project := project.value.2
    projectName := project.value.1
    diagnostics := tree.problems ++ enums.problems ++ project.problems ++ partials.problems ++
      tables.problems ++ refs.problems ++ notes.problems ++ unsupported }

/-- The model of a document. -/
def readSchema (text : Text) : Schema := schemaOfTree (parseBlocks (clean text))

end SchemaDiagram
