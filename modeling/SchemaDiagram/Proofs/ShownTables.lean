import SchemaDiagram.Layout.Placement
import SchemaDiagram.Proofs.FreshIds
import SchemaDiagram.Proofs.MapUpdate
import SchemaDiagram.Proofs.Slots

/-! # Tables that references are shown at

The tables of a document have different identifiers, and a rectangle is estimated for every table
and each of its columns under ids that belong to that table alone. A name in a reference leads to
the rectangles of the table that it denotes. A name that denotes none is made an identifier, which
leads to the rectangles of the table that has it, whatever that table is called. So a pair of
columns is drawn if its two names lead to tables in one of these ways.

* **`Schema.estimatedRects`** — the rectangles of a schema, and **`IsBoxOf`** — the one of a column.
* **`Schema.shownTable?`** — the table that a name leads to.
* **`routeSchema_shown`** — which pairs of columns of a document are drawn, and where. -/

namespace SchemaDiagram

/-! ## The boxes of a schema -/

/-- Whether an id is that of a table with the given identifier, or of one of its columns. -/
def IsAnchorOf (tableId key : Text) : Prop :=
  key = tableAnchor tableId ∨ ∃ column, key = columnAnchor tableId column

/-- The ids of tables, columns and notes begin differently. -/
theorem heads_of_anchors (id column : Text) : (tableAnchor id).head? = some 't' ∧
    (columnAnchor id column).head? = some 'c' ∧ (noteAnchor id).head? = some 'n' := ⟨rfl, rfl, rfl⟩

/-- The anchor of a table is never that of a column. -/
theorem tableAnchor_ne_columnAnchor (id id' column : Text) :
    tableAnchor id ≠ columnAnchor id' column := fun h => by
  have hhead := congrArg List.head? h
  rw [(heads_of_anchors id column).1, (heads_of_anchors id' column).2.1] at hhead
  exact absurd hhead (by decide)

/-- An id is that of one table only. -/
theorem IsAnchorOf.unique {id id' key : Text} (hid : IsIdentifier id) (hid' : IsIdentifier id')
    (h : IsAnchorOf id key) (h' : IsAnchorOf id' key) : id = id' := by
  obtain rfl | ⟨column, rfl⟩ := h <;> obtain h' | ⟨column', h'⟩ := h'
  · exact List.append_cancel_left h'
  · exact absurd h' (tableAnchor_ne_columnAnchor id id' column')
  · exact absurd h'.symm (tableAnchor_ne_columnAnchor id' id column)
  · exact (columnAnchor_inj hid hid' h').1

/-- The anchor of a note is none of a table. -/
theorem not_isAnchorOf_noteAnchor (id noteId : Text) : ¬IsAnchorOf id (noteAnchor noteId) := by
  have hnote := (heads_of_anchors noteId []).2.2
  rintro (h | ⟨column, h⟩)
  · rw [h, (heads_of_anchors id []).1] at hnote
    exact absurd hnote (by decide)
  · rw [h, (heads_of_anchors id column).2.1] at hnote
    exact absurd hnote (by decide)

section Boxes

variable {K : Type} [Add K] [Mul K] [NatCast K] (layout : LayoutConfig K) (num : Mixed → K)

/-- Every box of a table stands under one of its anchors. -/
theorem isAnchorOf_tableBoxes {corner : Point K} {t : Table} {box : Text × Rect K}
    (h : box ∈ tableBoxes layout num corner t) : IsAnchorOf t.id box.1 := by
  obtain rfl | h := List.mem_cons.1 h
  · exact .inl rfl
  · obtain ⟨⟨f, row⟩, -, rfl⟩ := List.mem_map.1 h
    exact .inr ⟨_, rfl⟩

/-- Every column of a table has a box. -/
theorem exists_columnBox (corner : Point K) {t : Table} {column : Text} {f : Field}
    (h : t.field? column = some f) :
    ∃ rect, (columnAnchor t.id column, rect) ∈ tableBoxes layout num corner t := by
  obtain ⟨row, hrow⟩ := List.mem_iff_getElem?.1 (List.mem_of_find?_eq_some h)
  have hname : f.name = column := by simpa using List.find?_some h
  have hmem : (f, row) ∈ t.fields.zipIdx := List.mem_zipIdx_iff_getElem?.2 hrow
  rw [← hname]
  exact ⟨_, List.mem_cons_of_mem _ (List.mem_map_of_mem hmem)⟩

/-- **The boxes of a schema** by the ids under which they are drawn: those of its tables, then its
notes. -/
def Schema.boxes (schema : Schema) : OrderedMap (Rect K) :=
  (schema.tables.zipIdx.flatMap fun x => tableBoxes layout num (tableCorner layout num x.2 x.1) x.1)
    ++ schema.notes.map (noteBox num)

variable {schema : Schema} (hnodup : (schema.tables.map (·.id)).Nodup)
include hnodup

/-- A table stands at its corner. -/
theorem get?_placeTables {t : Table} {index : Nat} (h : (t, index) ∈ schema.tables.zipIdx) :
    (placeTables layout num schema.tables).get? t.id = some (tableCorner layout num index t) := by
  have hkeys : OrderedMap.keys (schema.tables.zipIdx.map fun x =>
    (x.1.id, tableCorner layout num x.2 x.1))
      = schema.tables.map (·.id) := by
    rw [OrderedMap.keys, List.map_map]
    conv_rhs => rw [← List.zipIdx_map_fst 0 schema.tables, List.map_map]
    rfl
  rw [placeTables, OrderedMap.get?_ofList (hkeys ▸ hnodup)]
  exact OrderedMap.get?_of_mem (hkeys ▸ hnodup) (e := (t.id, tableCorner layout num index t))
    (List.mem_map_of_mem (f := fun x => (x.1.id, tableCorner layout num x.2 x.1)) h)

/-- The estimated boxes of a schema whose tables are placed. -/
theorem estimateBoxes_placeTables :
    estimateBoxes layout num schema (placeTables layout num schema.tables)
      = .ofList (schema.boxes layout num) := by
  have hplaced : ∀ f : Table → List (Text × Rect K),
      schema.tables.flatMap f = schema.tables.zipIdx.flatMap fun x => f x.1 := fun f => by
    conv_lhs => rw [← List.zipIdx_map_fst 0 schema.tables, List.flatMap_map]
  rw [estimateBoxes, Schema.boxes, hplaced]
  congr 2
  refine List.flatMap_congr fun x hx => ?_
  rw [get?_placeTables layout num hnodup hx]

/-- **The rectangles of a schema** as they are estimated, the tables in their places. -/
def Schema.estimatedRects (schema : Schema) : Text → Option (Rect K) :=
  (estimateBoxes layout num schema (placeTables layout num schema.tables)).get?

/-- **The rectangle of a column**: its box in the table, or the box of the table if it has no such
column. -/
def IsBoxOf (schema : Schema) (t : Table) (column : Text) (rect : Rect K) : Prop :=
  ∃ index, schema.tables[index]? = some t ∧
    ((columnAnchor t.id column, rect) ∈ tableBoxes layout num (tableCorner layout num index t) t ∨
      t.field? column = none ∧
        (tableAnchor t.id, rect) ∈ tableBoxes layout num (tableCorner layout num index t) t)

/-- Every box of a table is found. -/
theorem isSome_estimatedRects {t : Table} {index : Nat} (ht : schema.tables[index]? = some t)
    {box : Text × Rect K} (h : box ∈ tableBoxes layout num (tableCorner layout num index t) t) :
    (schema.estimatedRects layout num box.1).isSome := by
  rw [Schema.estimatedRects, estimateBoxes_placeTables layout num hnodup,
    OrderedMap.isSome_get?_ofList]
  refine OrderedMap.mem_keys (List.mem_append_left _ (List.mem_flatMap.2 ⟨(t, index), ?_, h⟩))
  exact List.mem_zipIdx_iff_getElem?.2 ht

variable (hids : ∀ t ∈ schema.tables, IsIdentifier t.id)
include hids

/-- The box under an id of a table is one of its boxes. -/
theorem exists_of_estimatedRects {id key : Text} {rect : Rect K} (hid : IsIdentifier id)
    (hkey : IsAnchorOf id key) (h : schema.estimatedRects layout num key = some rect) :
    ∃ t index, schema.tables[index]? = some t ∧ t.id = id ∧
      (key, rect) ∈ tableBoxes layout num (tableCorner layout num index t) t := by
  rw [Schema.estimatedRects, estimateBoxes_placeTables layout num hnodup] at h
  obtain hbox | hnote := List.mem_append.1 (OrderedMap.mem_of_get?_ofList h)
  · obtain ⟨⟨t, index⟩, ht, hbox⟩ := List.mem_flatMap.1 hbox
    have hmem := List.mem_zipIdx_iff_getElem?.1 ht
    exact ⟨t, index, hmem, (isAnchorOf_tableBoxes layout num hbox).unique
      (hids t (List.mem_of_getElem? hmem)) hid hkey, hbox⟩
  · obtain ⟨n, -, heq⟩ := List.mem_map.1 hnote
    obtain ⟨rfl, -⟩ := Prod.mk.inj heq
    exact absurd hkey (not_isAnchorOf_noteAnchor id n.id)

/-- A box under an id of a table is one of that table. -/
theorem box_of_estimatedRects {t : Table} (ht : t ∈ schema.tables) {key : Text}
    (hkey : IsAnchorOf t.id key)
    {rect : Rect K} (h : schema.estimatedRects layout num key = some rect) :
    ∃ index, schema.tables[index]? = some t ∧
      (key, rect) ∈ tableBoxes layout num (tableCorner layout num index t) t := by
  obtain ⟨s, index, hs, hid, hbox⟩ :=
    exists_of_estimatedRects layout num hnodup hids (hids t ht) hkey h
  obtain rfl : s = t := List.inj_on_of_nodup_map hnodup (List.mem_of_getElem? hs) ht hid
  exact ⟨index, hs, hbox⟩

/-- **A column of a table is found**, at its own box or at that of the table. -/
theorem exists_measure_estimatedRects {t : Table} (ht : t ∈ schema.tables) (column : Text) :
    ∃ rect, measure (schema.estimatedRects layout num) t.id column = some rect ∧
      IsBoxOf layout num schema t column rect := by
  unfold measure
  cases hcolumn : schema.estimatedRects layout num (columnAnchor t.id column) with
  | some rect =>
    obtain ⟨index, hindex, hbox⟩ :=
      box_of_estimatedRects layout num hnodup hids ht (.inr ⟨_, rfl⟩) hcolumn
    exact ⟨rect, rfl, index, hindex, .inl hbox⟩
  | none =>
    obtain ⟨place, hplace⟩ := List.mem_iff_getElem?.1 ht
    obtain ⟨rect, hrect⟩ := Option.isSome_iff_exists.1
      (isSome_estimatedRects layout num hnodup hplace List.mem_cons_self)
    obtain ⟨index, hindex, hbox⟩ := box_of_estimatedRects layout num hnodup hids ht (.inl rfl) hrect
    refine ⟨rect, hrect, index, hindex, .inr ⟨?_, hbox⟩⟩
    -- A column of the table would have a box of its own.
    by_contra hfield
    obtain ⟨f, hf⟩ := Option.ne_none_iff_exists'.1 hfield
    obtain ⟨box, hbox⟩ := exists_columnBox layout num (tableCorner layout num place t) hf
    have hsome := isSome_estimatedRects layout num hnodup hplace hbox
    rw [hcolumn] at hsome
    exact absurd hsome (by simp)

/-- A column of no table is not found. -/
theorem measure_estimatedRects_eq_none {id : Text} (hid : IsIdentifier id)
    (h : ∀ t ∈ schema.tables, t.id ≠ id)
    (column : Text) : measure (schema.estimatedRects layout num) id column = none := by
  have hnone : ∀ key, IsAnchorOf id key → schema.estimatedRects layout num key = none :=
    fun key hkey => by
    by_contra hsome
    obtain ⟨rect, hrect⟩ := Option.ne_none_iff_exists'.1 hsome
    obtain ⟨t, index, ht, htid, -⟩ := exists_of_estimatedRects layout num hnodup hids hid hkey hrect
    exact h t (List.mem_of_getElem? ht) htid
  rw [measure_eq_none]
  exact ⟨hnone _ (.inr ⟨_, rfl⟩), hnone _ (.inl rfl)⟩

end Boxes

/-! ## Tables that are shown -/

/-- **The table that a name is shown at**: the one that it denotes, or else the one whose identifier
the name becomes. -/
def Schema.shownTable? (s : Schema) (name : Text) : Option Table :=
  (s.resolve name).or (s.tables.find? (·.id = sanitizeId name))

section Shown

variable {schema : Schema} {name : Text}

/-- A table that is shown is one of the schema, under the identifier of its name. -/
theorem mem_of_shownTable? {t : Table} (h : schema.shownTable? name = some t) :
    t ∈ schema.tables ∧ tableIdOf (some schema) name = t.id := by
  obtain h | ⟨hnone, h⟩ := Option.or_eq_some_iff.1 h
  · exact ⟨mem_tables_of_resolve h, by simp [tableIdOf, h]⟩
  · have hid : t.id = sanitizeId name := by simpa using List.find?_some h
    exact ⟨List.mem_of_find?_eq_some h, by simp [tableIdOf, hnone, hid]⟩

/-- A name without a table that is shown has the identifier of none. -/
theorem ne_of_shownTable?_eq_none (h : schema.shownTable? name = none) :
    ∀ t ∈ schema.tables, t.id ≠ tableIdOf (some schema) name := by
  obtain ⟨hnone, h⟩ := Option.or_eq_none_iff.1 h
  have hid : tableIdOf (some schema) name = sanitizeId name := by simp [tableIdOf, hnone]
  rw [hid]
  simpa using h

variable {K : Type} [Add K] [Mul K] [NatCast K] (layout : LayoutConfig K) (num : Mixed → K)
variable (hnodup : (schema.tables.map (·.id)).Nodup) (hids : ∀ t ∈ schema.tables, IsIdentifier t.id)
include hnodup hids

/-- A column has a rectangle if its table is shown. -/
theorem measure_eq_none_iff (column : Text) :
    measure (schema.estimatedRects layout num) (tableIdOf (some schema) name) column = none ↔
      schema.shownTable? name = none := by
  constructor
  · -- If its table were shown, the column would have one of its boxes.
    intro hnone
    by_contra hshown
    obtain ⟨t, ht⟩ := Option.ne_none_iff_exists'.1 hshown
    obtain ⟨hmem, hid⟩ := mem_of_shownTable? ht
    obtain ⟨rect, hrect, -⟩ := exists_measure_estimatedRects layout num hnodup hids hmem column
    rw [hid, hrect] at hnone
    exact absurd hnone (by simp)
  · -- If it is not, the identifier that the name leads to is that of no table.
    intro hshown
    have hid : IsIdentifier (tableIdOf (some schema) name) :=
      isIdentifier_tableIdOf (fun s hs t ht => hids t (by rwa [← Option.some.inj hs] at ht)) name
    exact measure_estimatedRects_eq_none layout num hnodup hids hid
      (ne_of_shownTable?_eq_none hshown) column

/-- The rectangle of a column is one of the table that is shown. -/
theorem exists_shownTable? {column : Text} {rect : Rect K}
    (h : measure (schema.estimatedRects layout num) (tableIdOf (some schema) name) column
      = some rect) :
    ∃ t, schema.shownTable? name = some t ∧ tableIdOf (some schema) name = t.id ∧
      IsBoxOf layout num schema t column rect := by
  cases hshown : schema.shownTable? name with
  -- Without a table nothing is measured.
  | none =>
    rw [(measure_eq_none_iff layout num hnodup hids column).2 hshown] at h
    exact absurd h (by simp)
  -- The rectangle is a box of the table.
  | some t =>
    obtain ⟨hmem, hid⟩ := mem_of_shownTable? hshown
    obtain ⟨rect', hrect, hbox⟩ := exists_measure_estimatedRects layout num hnodup hids hmem column
    rw [hid, hrect] at h
    exact ⟨t, rfl, hid, Option.some.inj h ▸ hbox⟩

end Shown

/-! ## Connections between shown tables -/

variable {K : Type} [Add K] [Mul K] [Div K] [NatCast K] [LT K] [DecidableLT K]

/-- A pair of columns of a document has no connection where one of its tables is not shown. -/
theorem connect?_eq_none_iff (layout : LayoutConfig K) (num : Mixed → K) (text : Text)
    {pair : ColumnPair} :
    let schema := readSchema text
    pair.connect? (some schema) (schema.estimatedRects layout num) = none ↔
      schema.shownTable? pair.relationship.fromTable = none ∨
        schema.shownTable? pair.relationship.toTable = none := by
  have hnodup := nodup_ids_readSchema text
  have hids : ∀ t ∈ (readSchema text).tables, IsIdentifier t.id := fun t => isIdentifier_readSchema
  dsimp only
  rw [ColumnPair.connect?_eq_none]
  exact or_congr (measure_eq_none_iff layout num hnodup hids _)
    (measure_eq_none_iff layout num hnodup hids _)

variable [Sub K]

/-- **An end of a path is attached to a column of a table.** -/
structure AttachedTo (layout : LayoutConfig K) (num : Mixed → K) (schema : Schema) (e : PathEnd K)
    (t : Table) (column : Text) : Prop where
  /-- It is on that table. -/
  table : e.attached.tableAnchor = tableAnchor t.id
  /-- It is at that column. -/
  anchor : e.attached.anchor = columnAnchor t.id column
  /-- It has the rectangle of the column. -/
  rect : IsBoxOf layout num schema t column e.attached.rect
  /-- It stands at an edge of this rectangle, in its slot. -/
  point : e.point = anchorPoint e.attached e.slot

variable [LE K] [DecidableLE K] [Metric K]

/-- **A pair of columns of a document is drawn if both of its tables are shown**, and its path joins
the rectangles of these tables; else it is listed as unresolved. -/
theorem routeSchema_shown (config : RouterConfig K) (style : LineStyle) (layout : LayoutConfig K)
    (num : Mixed → K) (text : Text) :
    let schema := readSchema text
    let r := routeSchema config (schema.estimatedRects layout num) style schema
    ∀ i j reference a b, schema.relationships[i]? = some reference →
    reference.fromColumns[j]? = some a →
      reference.toColumns[j]? = some b →
      ((∃ p ∈ r.paths, p.key = pairKey i j) ↔ schema.shownTable? reference.fromTable ≠ none ∧
        schema.shownTable? reference.toTable ≠ none) ∧
      (pairKey i j ∈ r.unresolved ↔ schema.shownTable? reference.fromTable = none ∨
        schema.shownTable? reference.toTable = none) ∧
      ∀ p ∈ r.paths, p.key = pairKey i j → ∃ s t, schema.shownTable? reference.fromTable = some s ∧
        schema.shownTable? reference.toTable = some t ∧
        AttachedTo layout num schema p.fromEnd s a ∧
        AttachedTo layout num schema p.toEnd t b := by
  intro schema r i j reference a b hi ha hb
  have hnodup : (schema.tables.map (·.id)).Nodup := nodup_ids_readSchema text
  have hids : ∀ t ∈ schema.tables, IsIdentifier t.id := fun t => isIdentifier_readSchema
  let pair : ColumnPair := ⟨reference, i, a, b, j⟩
  have hpair : pair ∈ columnPairs schema.relationships :=
    mem_columnPairs.2 ⟨hi, List.getElem?_zip_eq_some.2 ⟨ha, hb⟩⟩
  -- The pair is drawn if both of its ends are measured.
  have hnone : pair.connect? (some schema) (schema.estimatedRects layout num) = none ↔
      schema.shownTable? reference.fromTable = none ∨ schema.shownTable? reference.toTable = none :=
    connect?_eq_none_iff layout num text
  refine ⟨?_, (key_mem_unresolved_iff config style hpair).trans hnone, fun p hp hkey => ?_⟩
  · exact (exists_path_iff config style hpair).trans ((not_congr hnone).trans not_or)
  · -- The path is the connection of the pair, so its ends are those that were measured.
    obtain ⟨source, target, hsource, htarget, hconnection⟩ :=
      ColumnPair.connect?_eq_some.1 (connect?_of_key config style hpair hp hkey)
    obtain ⟨s, hs, hsid, hsbox⟩ := exists_shownTable? layout num hnodup hids hsource
    obtain ⟨t, ht, htid, htbox⟩ := exists_shownTable? layout num hnodup hids htarget
    obtain ⟨hstart, hstop⟩ :=
      points_of_mem_paths config style (some schema) _ schema.relationships hp
    have hfrom : p.fromEnd.attached = (pair.connection (some schema) source target).source :=
      congrArg (·.source) hconnection
    have hto : p.toEnd.attached = (pair.connection (some schema) source target).target :=
      congrArg (·.target) hconnection
    refine ⟨s, t, hs, ht, ⟨?_, ?_, ?_, hstart⟩, ⟨?_, ?_, ?_, hstop⟩⟩
    · exact hfrom ▸ congrArg tableAnchor hsid
    · exact hfrom ▸ congrArg (columnAnchor · a) hsid
    · exact hfrom ▸ hsbox
    · exact hto ▸ congrArg tableAnchor htid
    · exact hto ▸ congrArg (columnAnchor · b) htid
    · exact hto ▸ htbox

/-- The sizes that placement works with where none are given. -/
def plainSizes : LayoutConfig ℚ := ⟨3, 350, 300, 50, 220, 36, 28⟩

/-- A table whose name is no identifier, referred to by its identifier, and a reference to no table
at all. -/
def spacedName : Text :=
  "Table \"user data\" \x7b
  id int
\x7d
Table posts \x7b author int \x7d
Ref: posts.author > user_data.id
Ref: posts.author > ghosts.id".toList

/-- The first reference of the text. -/
def spacedReference : Relationship :=
  ⟨"posts", ["author"], "user_data", ["id"], .manyToOne, [], none⟩

/-- The name in the first reference denotes no table, but is the identifier of one. -/
theorem read_spacedName :
    let schema := readSchema spacedName
    schema.relationships[0]? = some spacedReference ∧
    schema.resolve spacedReference.toTable = none ∧
      (schema.shownTable? spacedReference.toTable).map (·.name) = some "user data".toList ∧
      (schema.shownTable? spacedReference.fromTable).map (·.name) = some "posts".toList := by
  decide +kernel

/-- The first reference is drawn to the table whose identifier it names. -/
theorem routeSchema_shown_spacedName :
    let schema := readSchema spacedName
    let r := routeSchema plainDistances (schema.estimatedRects plainSizes fun _ => 0) .curve schema
    schema.relationships[0]? = some spacedReference ∧
    spacedReference.fromColumns[0]? = some "author".toList ∧
      spacedReference.toColumns[0]? = some "id".toList ∧
      (schema.shownTable? spacedReference.toTable).map (·.name) = some "user data".toList ∧
      ((∃ p ∈ r.paths, p.key = pairKey 0 0) ↔ schema.shownTable? spacedReference.fromTable ≠ none ∧
        schema.shownTable? spacedReference.toTable ≠ none) ∧
      (pairKey 0 0 ∈ r.unresolved ↔ schema.shownTable? spacedReference.fromTable = none ∨
        schema.shownTable? spacedReference.toTable = none) ∧
      ∀ p ∈ r.paths, p.key = pairKey 0 0 →
      ∃ s t, schema.shownTable? spacedReference.fromTable = some s ∧
        schema.shownTable? spacedReference.toTable = some t ∧
        AttachedTo plainSizes (fun _ => 0) schema p.fromEnd s "author".toList ∧
        AttachedTo plainSizes (fun _ => 0) schema p.toEnd t "id".toList := by
  obtain ⟨hreference, -, hshown, -⟩ := read_spacedName
  have hfrom : spacedReference.fromColumns[0]? = some "author".toList := rfl
  have hto : spacedReference.toColumns[0]? = some "id".toList := rfl
  refine ⟨hreference, hfrom, hto, hshown, ?_⟩
  exact routeSchema_shown plainDistances .curve plainSizes (fun _ => 0) spacedName 0 0 _ _ _
    hreference hfrom hto

/-- A pair of columns may be drawn though one of its names denotes no table. -/
theorem exists_path_of_no_table :
    let schema := readSchema spacedName
    let r := routeSchema plainDistances (schema.estimatedRects plainSizes fun _ => 0) .curve schema
    schema.relationships[0]? = some spacedReference ∧
    schema.resolve spacedReference.toTable = none ∧
      ∃ p ∈ r.paths, p.key = pairKey 0 0 := by
  obtain ⟨hreference, hdenoted, hto, hfrom⟩ := read_spacedName
  have hpair : (⟨spacedReference, 0, "author".toList, "id".toList, 0⟩ : ColumnPair)
      ∈ columnPairs (readSchema spacedName).relationships := mem_columnPairs.2 ⟨hreference, rfl⟩
  refine ⟨hreference, hdenoted, (exists_path_iff plainDistances .curve hpair).2 fun hnone => ?_⟩
  -- Both names lead to tables that are shown, whatever they denote.
  obtain hnone | hnone := (connect?_eq_none_iff plainSizes (fun _ => 0) spacedName).1 hnone
  · rw [hnone] at hfrom
    exact absurd hfrom (by simp)
  · rw [hnone] at hto
    exact absurd hto (by simp)

end SchemaDiagram
