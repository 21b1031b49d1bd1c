import SchemaDiagram.Proofs.Naming
import SchemaDiagram.Proofs.ShownTables

/-! # Rows of tables

The fields of a table have different names, as a field that is written again takes the place of the
first one. So the boxes of a document, one for each table, each field and each sticky note, are
listed under ids that are all different, and none of them hides another. The boxes of the fields
stand one below the other, from the header down to the bottom edge of the table.

* **`nodup_names_readSchema`** — the fields of a table.
* **`Schema.anchors`** — the ids of a document, and **`estimateBoxes_readSchema`** — its boxes are
  under these.
* **`Tiles`** — rectangles that stand one below the other.
* **`estimatedBoxes_stacked`** — every box once, and the rows of every table. -/

namespace SchemaDiagram

/-! ## Fields by their names -/

/-- **Fields under their names**, each name once. -/
structure ByName (fields : OrderedMap Field) : Prop where
  /-- No name twice. -/
  nodup : fields.keys.Nodup
  /-- Every field is under its own name. -/
  name_eq : ∀ e ∈ fields, e.1 = e.2.name

namespace ByName

variable {fields : OrderedMap Field}

/-- A field is inserted under its own name. -/
theorem insert (h : ByName fields) (f : Field) : ByName (fields.insert f.name f) where
  nodup := OrderedMap.nodup_keys_insert h.nodup f.name f
  name_eq e he := by
    obtain he | rfl := OrderedMap.mem_of_mem_insert he
    · exact h.name_eq e he
    · rfl

/-- Fields are written under their own names. -/
theorem update (h : ByName fields) (more : List Field) :
    ByName (fields.update (more.map fun f => (f.name, f))) := by
  induction more generalizing fields with
  | nil => exact h
  | cons f more ih => exact ih (h.insert f)

/-- The names are those of the fields. -/
theorem map_name_values (h : ByName fields) : fields.values.map (·.name) = fields.keys := by
  rw [OrderedMap.values, OrderedMap.keys, List.map_map]
  exact List.map_congr_left fun e he => (h.name_eq e he).symm

end ByName

namespace MergedTable

variable {m : MergedTable}

/-- An entry of a table leaves every field under its own name. -/
theorem byName_addEntry (partials : OrderedMap TablePartial) (h : ByName m.fields)
    (entry : TableEntry) :
    ByName (m.addEntry partials entry).fields := by
  cases entry with
  | field f => exact h.insert f
  | inject name line =>
    rw [addEntry]
    split
    next p _ => exact h.update p.fields
    next => exact h

/-- The entries of a table leave every field under its own name. -/
theorem byName_foldl (partials : OrderedMap TablePartial) (entries : List TableEntry)
    (h : ByName m.fields) :
    ByName (entries.foldl (addEntry partials) m).fields := by
  induction entries generalizing m with
  | nil => exact h
  | cons entry entries ih => exact ih (byName_addEntry partials h entry)

end MergedTable

/-- The fields of a table with its partials merged into it are under their names. -/
theorem byName_mergeTable (entries : List TableEntry) (partials : OrderedMap TablePartial)
    (header : OrderedMap Text) (indexes : List IndexEntry) :
    ByName (mergeTable entries partials header indexes).fields :=
  MergedTable.byName_foldl partials entries ⟨List.nodup_nil, fun _ h => absurd h List.not_mem_nil⟩

/-- A field keeps its name when its enum is looked up. -/
theorem TableContext.name_withEnum (context : TableContext) (f : Field) :
    (context.withEnum f).name = f.name := by
  unfold TableContext.withEnum
  split <;> rfl

/-- No two fields of a table that is read have the same name. -/
theorem nodup_names_readTable (context : TableContext) (id name : Text) (b : Block) :
    ((context.readTable id name b).value.fields.map (·.name)).Nodup := by
  have hmerged : ∀ fields : OrderedMap Field, ByName fields →
      ((fields.values.map context.withEnum).map (·.name)).Nodup := fun fields h => by
    have hname : (·.name) ∘ context.withEnum = (·.name) := funext context.name_withEnum
    rw [List.map_map, hname, h.map_name_values]
    exact h.nodup
  exact hmerged _ (byName_mergeTable ..)

/-- **The fields of a table have different names.** -/
theorem nodup_names_readSchema {text : Text} {t : Table} (h : t ∈ (readSchema text).tables) :
    (t.fields.map (·.name)).Nodup := by
  obtain ⟨i, hi⟩ := List.mem_iff_getElem?.1 h
  obtain ⟨b, -, -, ht⟩ := (exists_getElem?_of_forall₂ (readTables_forall₂ _ [] _)).1 t hi
  rw [ht]
  exact nodup_names_readTable ..

/-! ## Different ids -/

/-- The ids under which a table and its fields are drawn. -/
def Table.anchors (t : Table) : List Text :=
  tableAnchor t.id :: t.fields.map fun f => columnAnchor t.id f.name

/-- **The ids under which a document is drawn**: one for each table, followed by one for each of its
fields, then one for each note. -/
def Schema.anchors (s : Schema) : List Text :=
  s.tables.flatMap Table.anchors ++ s.notes.map fun n => noteAnchor n.id

/-- Every anchor that a table lists is one of its anchors. -/
theorem isAnchorOf_anchors {t : Table} {key : Text} (h : key ∈ t.anchors) :
    IsAnchorOf t.id key := by
  obtain rfl | h := List.mem_cons.1 h
  · exact .inl rfl
  · obtain ⟨f, -, rfl⟩ := List.mem_map.1 h
    exact .inr ⟨_, rfl⟩

/-- Different columns of a table have different anchors. -/
theorem columnAnchor_injective (id : Text) : Function.Injective (columnAnchor id) := fun a b h => by
  simpa [columnAnchor, concat] using h

/-- The anchors of a table are different when the names of its fields are. -/
theorem Table.nodup_anchors {t : Table} (h : (t.fields.map (·.name)).Nodup) : t.anchors.Nodup := by
  refine List.nodup_cons.2 ⟨fun hmem => ?_, ?_⟩
  · obtain ⟨f, -, heq⟩ := List.mem_map.1 hmem
    exact tableAnchor_ne_columnAnchor t.id t.id f.name heq.symm
  · have hids := h.map (columnAnchor_injective t.id)
    rwa [List.map_map] at hids

/-- The ids of a schema are all different. -/
theorem Schema.nodup_anchors {s : Schema} (htables : (s.tables.map (·.id)).Nodup)
    (hids : ∀ t ∈ s.tables, IsIdentifier t.id)
      (hfields : ∀ t ∈ s.tables, (t.fields.map (·.name)).Nodup)
    (hnotes : (s.notes.map (·.id)).Nodup) : s.anchors.Nodup := by
  refine List.nodup_append.2 ⟨List.nodup_flatMap.2 ⟨fun t ht =>
    Table.nodup_anchors (hfields t ht), ?_⟩, ?_, ?_⟩
  · -- Anchors of two tables have different identifiers in them.
    refine (List.pairwise_map.1 htables).imp_of_mem fun hs ht hne => ?_
    rw [Function.onFun, List.disjoint_left]
    exact fun key hkey hkey' =>
      hne ((isAnchorOf_anchors hkey).unique (hids _ hs) (hids _ ht) (isAnchorOf_anchors hkey'))
  · -- Anchors of notes differ as their identifiers do.
    have hnodup := hnotes.map (f := noteAnchor) fun a b h => List.append_cancel_left h
    rwa [List.map_map] at hnodup
  · -- No anchor of a table is one of a note.
    rintro key hkey other hother rfl
    obtain ⟨t, -, hanchor⟩ := List.mem_flatMap.1 hkey
    obtain ⟨n, -, rfl⟩ := List.mem_map.1 hother
    exact not_isAnchorOf_noteAnchor t.id n.id (isAnchorOf_anchors hanchor)

/-- **The ids of a document are all different.** -/
theorem nodup_anchors_readSchema (text : Text) : (readSchema text).anchors.Nodup :=
  Schema.nodup_anchors (nodup_ids_readSchema text) (fun _ => isIdentifier_readSchema)
    (fun _ => nodup_names_readSchema) (nodup_notes_readSchema text)

section Boxes

variable {K : Type} [Add K] [Mul K] [NatCast K] (layout : LayoutConfig K) (num : Mixed → K)

/-- The boxes of a table stand under its anchors, in order. -/
theorem keys_tableBoxes (corner : Point K) (t : Table) :
    OrderedMap.keys (tableBoxes layout num corner t) = t.anchors := by
  rw [OrderedMap.keys, tableBoxes, Table.anchors, List.map_cons, List.map_map]
  conv_rhs => rw [← List.zipIdx_map_fst 0 t.fields, List.map_map]
  rfl

/-- The boxes of a schema stand under its anchors, in order. -/
theorem keys_boxes (s : Schema) : (s.boxes layout num).keys = s.anchors := by
  have htables : ∀ l : List (Table × Nat),
      (l.flatMap fun x => tableBoxes layout num (tableCorner layout num x.2 x.1) x.1).map (·.1)
        = (l.map (·.1)).flatMap Table.anchors := fun l => by
    rw [List.map_flatMap, List.flatMap_map]
    exact List.flatMap_congr fun x _ => keys_tableBoxes layout num _ x.1
  rw [OrderedMap.keys, Schema.boxes, List.map_append, htables, List.zipIdx_map_fst, List.map_map]
  rfl

/-- **The boxes of a document** are those of its tables and notes, each once and in order. -/
theorem estimateBoxes_readSchema (text : Text) :
    let schema := readSchema text
    estimateBoxes layout num schema (placeTables layout num schema.tables)
      = schema.boxes layout num := by
  intro schema
  rw [estimateBoxes_placeTables layout num (nodup_ids_readSchema text)]
  refine OrderedMap.ofList_of_nodup ?_
  rw [keys_boxes]
  exact nodup_anchors_readSchema text

/-- Every box of a table of a document is found under its id. -/
theorem get?_estimateBoxes (text : Text) {t : Table} {index : Nat}
    (ht : (readSchema text).tables[index]? = some t)
    {box : Text × Rect K} (h : box ∈ tableBoxes layout num (tableCorner layout num index t) t) :
    let schema := readSchema text
    (estimateBoxes layout num schema (placeTables layout num schema.tables)).get? box.1
      = some box.2 := by
  intro schema
  rw [estimateBoxes_readSchema]
  refine OrderedMap.get?_of_mem ?_ (List.mem_append_left _ (List.mem_flatMap.2 ⟨(t, index), ?_, h⟩))
  · rw [keys_boxes]
    exact nodup_anchors_readSchema text
  · exact List.mem_zipIdx_iff_getElem?.2 ht

end Boxes

/-! ## Rows -/

section Rows

variable {K : Type} [CommRing K]

/-- **Rectangles of one width below each other**, the first one from `top` on and every other one
from the bottom edge of the one before, the last one down to `bottom`. -/
def Tiles (left width bottom : K) : K → List (Rect K) → Prop
  | top, [] => top = bottom
  | top, r :: rest =>
    r.x = left ∧ r.width = width ∧ r.y = top ∧ Tiles left width bottom r.bottom rest

variable (layout : LayoutConfig K) (num : Mixed → K)

/-- The box of the field at a row of a table. -/
def rowBox (corner : Point K) (t : Table) (row : Nat) : Rect K :=
  ⟨corner.x, corner.y + layout.headerHeight + (row : K) * layout.rowHeight, tableWidth layout num t,
    layout.rowHeight⟩

/-- Some rows that follow each other stand below each other. -/
theorem tiles_rowBox (corner : Point K) (t : Table) (start count : Nat) :
    Tiles corner.x (tableWidth layout num t)
      (corner.y + layout.headerHeight + ((start + count : Nat) : K) * layout.rowHeight)
      (corner.y + layout.headerHeight + (start : K) * layout.rowHeight)
      ((List.range' start count).map (rowBox layout num corner t)) := by
  induction count generalizing start with
  | zero => rfl
  | succ count ih =>
    -- The bottom of a row is the top of the next one.
    have hbottom : (rowBox layout num corner t start).bottom
        = corner.y + layout.headerHeight + ((start + 1 : Nat) : K) * layout.rowHeight := by
      rw [Rect.bottom, rowBox]
      push_cast
      ring
    have hnext := ih (start + 1)
    rw [Nat.succ_add_eq_add_succ] at hnext
    rw [List.range'_succ, List.map_cons]
    refine ⟨rfl, rfl, rfl, ?_⟩
    rw [hbottom]
    exact hnext

/-- Every row of a table has its box. -/
theorem mem_tableBoxes_row (corner : Point K) {t : Table} {row : Nat} {f : Field}
    (h : t.fields[row]? = some f) :
    (columnAnchor t.id f.name, rowBox layout num corner t row) ∈ tableBoxes layout num corner t :=
  List.mem_cons_of_mem _ (List.mem_map.2 ⟨(f, row), List.mem_zipIdx_iff_getElem?.2 h, rfl⟩)

variable [LinearOrder K] [IsStrictOrderedRing K]

/-- No row of some that tile starts above the first one. -/
theorem Tiles.le_of_mem {left width bottom top : K} {rows : List (Rect K)}
    (h : Tiles left width bottom top rows) (hheight : ∀ r ∈ rows, 0 ≤ r.height) :
      ∀ r ∈ rows, top ≤ r.y := by
  induction rows generalizing top with
  | nil => exact fun r hr => absurd hr List.not_mem_nil
  | cons r rest ih =>
    obtain ⟨-, -, rfl, hrest⟩ := h
    obtain ⟨hr, hheight⟩ := List.forall_mem_cons.1 hheight
    have hbelow : r.y ≤ r.bottom := le_add_of_nonneg_right hr
    exact List.forall_mem_cons.2 ⟨le_rfl, fun s hs => hbelow.trans (ih hrest hheight s hs)⟩

/-- Rectangles below each other do not overlap. -/
theorem Tiles.pairwise {left width bottom top : K} {rows : List (Rect K)}
    (h : Tiles left width bottom top rows) (hheight : ∀ r ∈ rows, 0 ≤ r.height) :
    rows.Pairwise fun r s => r.bottom ≤ s.y := by
  induction rows generalizing top with
  | nil => exact .nil
  | cons r rest ih =>
    obtain ⟨-, -, -, hrest⟩ := h
    obtain ⟨-, hheight⟩ := List.forall_mem_cons.1 hheight
    exact .cons (hrest.le_of_mem hheight) (ih hrest hheight)

/-- **The boxes of the fields of a table** stand below each other in the box of the table. -/
structure IsStacked (boxes : OrderedMap (Rect K)) (t : Table) (box : Rect K)
    (rows : List (Rect K)) :
    Prop where
  /-- The table has the box. -/
  table : boxes.get? (tableAnchor t.id) = some box
  /-- Its fields have the rows, in order. -/
  fields : t.fields.map (fun f => boxes.get? (columnAnchor t.id f.name)) = rows.map some
  /-- The rows fill the box from the header to its bottom edge, and are as wide as it. -/
  tiles : Tiles box.x box.width box.bottom (box.y + layout.headerHeight) rows
  /-- All rows have the same height. -/
  height : ∀ r ∈ rows, r.height = layout.rowHeight
  /-- They do not overlap, unless rows have a negative height. -/
  apart : 0 ≤ layout.rowHeight → rows.Pairwise fun r s => r.bottom ≤ s.y

/-- **The boxes of a schema**, with the sizes of the program and with exact ones. -/
structure HasBoxes (sizes : LayoutConfig Mixed) (schema : Schema) : Prop where
  /-- Every table, every field and every sticky note has one box. -/
  keys : (estimateBoxes sizes id schema (placeTables sizes id schema.tables)).keys = schema.anchors
  /-- No two of them share an id. -/
  nodup : schema.anchors.Nodup
  /-- So it is with exact sizes. -/
  exactKeys : (estimateBoxes layout num schema (placeTables layout num schema.tables)).keys
    = schema.anchors
  /-- The boxes of the fields of a table are stacked in its own. -/
  stacked : ∀ t ∈ schema.tables, ∃ box rows,
    IsStacked layout
    (estimateBoxes layout num schema (placeTables layout num schema.tables)) t box rows

/-- **Every table, every field of a table and every sticky note of a document has one box**, and no
two of them share an id. The boxes of the fields of a table stand below each other from its header
to its bottom edge, as wide as the table, and do not overlap. -/
theorem estimatedBoxes_stacked (sizes : LayoutConfig Mixed) (text : Text) :
    HasBoxes layout num sizes (readSchema text) := by
  refine ⟨?_, nodup_anchors_readSchema text, ?_, fun t ht => ?_⟩
  · rw [estimateBoxes_readSchema, keys_boxes]
  · rw [estimateBoxes_readSchema, keys_boxes]
  obtain ⟨index, hindex⟩ := List.mem_iff_getElem?.1 ht
  let corner := tableCorner layout num index t
  let rows := (List.range' 0 t.fields.length).map (rowBox layout num corner t)
  have hheight : ∀ r ∈ rows, r.height = layout.rowHeight := fun r hr => by
    obtain ⟨row, -, rfl⟩ := List.mem_map.1 hr
    rfl
  have htiles := tiles_rowBox layout num corner t 0 t.fields.length
  refine ⟨⟨corner.x, corner.y, tableWidth layout num t, tableHeight layout t⟩, rows, ?_, ?_, ?_,
    hheight, ?_⟩
  · exact get?_estimateBoxes layout num text hindex List.mem_cons_self
  · -- The rows are the boxes of the fields, in their order.
    refine List.ext_getElem (by simp [rows]) fun row hrow _ => ?_
    have hlt : row < t.fields.length := by simpa using hrow
    have hfield : t.fields[row]? = some t.fields[row] := List.getElem?_eq_getElem hlt
    simpa [rows] using
      get?_estimateBoxes layout num text hindex (mem_tableBoxes_row layout num corner hfield)
  · -- They fill the box of the table below its header.
    convert htiles using 1
    · simp [Rect.bottom, tableHeight, add_assoc, mul_comm]
    · simp
  · exact fun hrow => htiles.pairwise fun r hr => (hheight r hr).symm ▸ hrow

end Rows

/-- Two tables whose names make one identifier, a field that is declared by a partial and again
behind it, and a note of the name of a table. -/
def sharedNames : Text :=
  "TablePartial stamps \x7b made int \x7d
Table \"a b\" [x: 400, width: 260] \x7b
  id int
  ~stamps
  \"b-id\" int
  made date
\x7d
Table a_b \x7b \"b-id\" int \x7d
Note a_b \x7b 'later' \x7d".toList

/-- The exact value of a whole number. -/
def exactWhole : Mixed → ℚ
  | .whole n => n
  | _ => 0

/-- What is read of it. -/
theorem read_sharedNames :
    let schema := readSchema sharedNames
    schema.anchors = ["table-a_b", "col-a_b-id", "col-a_b-made", "col-a_b-b-id", "table-a_b_2",
        "col-a_b_2-b-id", "note-a_b"].map (·.toList) ∧
      (schema.tables.map fun t => (t.id, t.fields.length))
        = [("a_b".toList, 3), ("a_b_2".toList, 1)] := by
  decide +kernel

/-- The three rows of the first table stand below each other. -/
theorem estimatedBoxes_stacked_sharedNames :
    let schema := readSchema sharedNames
    let boxes :=
      estimateBoxes plainSizes exactWhole schema (placeTables plainSizes exactWhole schema.tables)
    boxes.keys = schema.anchors ∧ schema.anchors.Nodup ∧
      ∃ t ∈ schema.tables, t.id = "a_b".toList ∧ t.fields.length = 3 ∧
        ∃ box rows, boxes.get? (tableAnchor t.id) = some box ∧
          t.fields.map (fun f => boxes.get? (columnAnchor t.id f.name)) = rows.map some ∧
          Tiles box.x box.width box.bottom (box.y + plainSizes.headerHeight) rows ∧
          rows.Pairwise fun r s => r.bottom ≤ s.y := by
  intro schema boxes
  have hboxes :=
    estimatedBoxes_stacked plainSizes exactWhole (LayoutConfig.default.map Mixed.real) sharedNames
  -- The table is found by its identifier and the number of its fields.
  have hfirst : ("a_b".toList, 3) ∈ schema.tables.map fun t => (t.id, t.fields.length) := by
    rw [read_sharedNames.2]
    exact List.mem_cons_self
  obtain ⟨t, ht, hpair⟩ := List.mem_map.1 hfirst
  obtain ⟨hid, hlength⟩ := Prod.mk.inj hpair
  obtain ⟨box, rows, hstacked⟩ := hboxes.stacked t ht
  exact ⟨hboxes.exactKeys, hboxes.nodup, t, ht, hid, hlength, box, rows, hstacked.table,
    hstacked.fields, hstacked.tiles, hstacked.apart (by decide)⟩

end SchemaDiagram
