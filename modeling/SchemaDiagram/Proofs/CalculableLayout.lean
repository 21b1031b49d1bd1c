import SchemaDiagram.Proofs.Calculable
import SchemaDiagram.Proofs.ShownTables
import SchemaDiagram.Render.Scene

/-! # Boxes and routes that can be calculated

The boxes of a schema are made of the sizes that it sets, and the routes of the boxes. Where those
sizes leave room for as many of them as there are ends, rows and tables, every number of the layout
can be calculated.

A text is drawn, or an error stands in its place. Where the sizes of its schema leave room for the
layout, only a number of the project can fail: a whole number past the largest double, or an
infinite size of the grid. Any other value of a known key reads as absent.

* **`HasRoom size count`** — sizes up to `size` leave room to calculate with `count` of them.
* **`fault?_route`** — no number of a routed diagram is a fault.
* **`isWithin_estimateBoxes`** — the estimated boxes keep the sizes that the schema sets.
* **`exists_layOut`** — a schema that leaves room is laid out.
* **`ProjectSettings.IsReadable`** — every number of a project can be taken as a double, and the
  size of the grid as a whole number.
* **`renderText_drawn_iff`** — a text that leaves room is drawn where its project is readable. -/

namespace SchemaDiagram

open Mixed

/-- **Sizes up to `size` leave room** to calculate with `count` of them. -/
def HasRoom (size count : Nat) : Prop := 4 * (size + 1) * (count + 1) ≤ wholeLimit

namespace HasRoom

variable {size count : Nat}

/-- Four sizes may be added up. -/
theorem sizes (h : HasRoom size count) : 4 * size < wholeLimit := by
  have hroom : 4 * (size + 1) * (count + 1) ≤ wholeLimit := h
  have : 4 * (size + 1) * (count + 1) = 4 * (size * count) + 4 * size + 4 * count + 4 := by ring
  omega

/-- All the things and one more may be counted. -/
theorem counts (h : HasRoom size count) : count + 1 < wholeLimit := by
  have hroom : 4 * (size + 1) * (count + 1) ≤ wholeLimit := h
  have : 4 * (size + 1) * (count + 1) = 4 * (size * count) + 4 * size + 4 * count + 4 := by ring
  omega

/-- A size may be taken as many times as there are things. -/
theorem products (h : HasRoom size count) {k : Nat} (hk : k ≤ count + 1) :
    size * k < wholeLimit := by
  have hroom : 4 * (size + 1) * (count + 1) ≤ wholeLimit := h
  have : 4 * (size + 1) * (count + 1) = 4 * (size * (count + 1)) + 4 * count + 4 := by ring
  have : size * k ≤ size * (count + 1) := Nat.mul_le_mul_left size hk
  omega

end HasRoom

/-! ## Ends -/

/-- All coordinates have been calculated, and are at most `n` where they are whole. -/
structure Rect.IsWithin (n : Nat) (r : Rect Mixed) : Prop where
  x : r.x.IsWithin n
  y : r.y.IsWithin n
  width : r.width.IsWithin n
  height : r.height.IsWithin n

instance (n : Nat) (r : Rect Mixed) : Decidable (r.IsWithin n) :=
  decidable_of_iff (r.x.IsWithin n ∧ r.y.IsWithin n ∧ r.width.IsWithin n ∧ r.height.IsWithin n)
    ⟨fun ⟨hx, hy, hwidth, hheight⟩ => ⟨hx, hy, hwidth, hheight⟩,
    fun h => ⟨h.x, h.y, h.width, h.height⟩⟩

/-- No number of a rectangle within a bound is faulty. -/
theorem Rect.IsWithin.fault? {n : Nat} {r : Rect Mixed} (h : r.IsWithin n) :
    ∀ a ∈ r.numbers, a.fault? = none := by
  simp only [Rect.numbers, List.forall_mem_cons]
  exact ⟨h.x.fault?, h.y.fault?, h.width.fault?, h.height.fault?, by simp⟩

/-- What an end is attached to has been calculated. -/
structure ConnectionEnd.IsWithin (n : Nat) (e : ConnectionEnd Mixed) : Prop where
  /-- The rectangle. -/
  rect : e.rect.IsWithin n
  /-- The middle of the other rectangle. -/
  otherY : e.otherY.IsWithin n

/-- An end is among the first `count` ones by its slot. -/
structure Slot.IsWithin (count : Nat) (s : Slot) : Prop where
  index : s.index ≤ count
  total : s.total ≤ count
  stagger : s.stagger ≤ count

/-- A slot within a bound is within a larger one. -/
theorem Slot.IsWithin.mono {m n : Nat} {s : Slot} (h : s.IsWithin m) (hmn : m ≤ n) : s.IsWithin n :=
  ⟨h.index.trans hmn, h.total.trans hmn, h.stagger.trans hmn⟩

section Slots

variable (ends : List (ConnectionEnd Mixed)) (e : ConnectionEnd Mixed) (place : Nat)

/-- The group of an anchor holds no more ends than there are. -/
theorem length_anchorGroup_le (anchor : Text) : (anchorGroup ends anchor).length ≤ ends.length := by
  rw [anchorGroup, (arrange_perm _ _).length_eq]
  exact (List.length_filter_le ..).trans List.length_zipIdx.le

/-- There are no more glyphs of a kind than glyphs. -/
theorem glyphCount_le (glyphs : List Text) : glyphCount glyphs ≤ glyphs.length := by
  have hcount := glyphCount_take (le_refl glyphs.length)
  rw [List.take_length] at hcount
  rw [hcount]
  exact List.countP_le_length.trans List.length_range.le

/-- The numbers of a slot are at most the number of ends. -/
theorem isWithin_slotOf : (slotOf ends e place).IsWithin ends.length := by
  have hgroup := length_anchorGroup_le ends e.anchor
  have hindex : (slotOf ends e place).index ≤ (anchorGroup ends e.anchor).length :=
    List.findIdx_le_length
  refine ⟨hindex.trans hgroup, hgroup, ?_⟩
  unfold slotOf
  dsimp only
  split
  · exact Nat.zero_le _
  · refine (glyphCount_le _).trans ?_
    rw [List.length_map]
    exact (List.length_take_le ..).trans (hindex.trans hgroup)

/-- A lane is at most the number of ends. -/
theorem laneOf_le : laneOf ends e place ≤ ends.length := by
  unfold laneOf
  generalize hgroup : ends.zipIdx.filter _ = group
  have hlength : group.length ≤ ends.length := by
    rw [← hgroup]
    exact (List.length_filter_le ..).trans List.length_zipIdx.le
  -- A missing place is found behind the last one, so the index is bounded either way.
  have hindex : ((arrange (fun a b => isAbove a.1 b.1) group).findIdx (·.2 = place))
      ≤ ends.length := by
    refine List.findIdx_le_length.trans ?_
    rwa [(arrange_perm _ _).length_eq]
  dsimp only
  split
  · exact Nat.zero_le _
  · split
    · omega
    · exact hindex

end Slots

section Drawing

variable {size count : Nat} (hroom : HasRoom size count)
include hroom

/-- The right side of a rectangle is within twice its bound. -/
theorem Rect.IsWithin.right {r : Rect Mixed} (h : r.IsWithin size) :
    r.right.IsWithin (2 * size) := by
  have := hroom.sizes
  exact (h.x.add h.width (by omega) (by omega)).mono (by omega)

/-- The middle height of a rectangle is within its bound. -/
theorem Rect.IsWithin.centerY {r : Rect Mixed} (h : r.IsWithin size) : r.centerY.IsWithin size := by
  have := hroom.sizes
  have := le_wholeLimit
  exact h.y.add (h.height.div_natCast (by omega) two_pos (by omega)) (by omega) (by omega)

/-- The point where a line leaves a box is within twice the bound of the box. -/
theorem isWithin_anchorPoint {e : ConnectionEnd Mixed} (he : e.rect.IsWithin size) {slot : Slot}
    (hslot : slot.IsWithin count) : (anchorPoint e slot).IsWithin (2 * size) := by
  have hsizes := hroom.sizes
  have hcounts := hroom.counts
  have hindex := hslot.index
  have htotal := hslot.total
  have hproduct := hroom.products (Nat.succ_le_succ hindex)
  -- The height is divided by at least one, and the product fits the room.
  have hheight : (e.rect.height * ((slot.index + 1 : Nat) : Mixed)
      / ((slot.total + 1 : Nat) : Mixed)).IsWithin 0 :=
    (he.height.mul (isWithin_natCast _) (by omega) (by omega)).div_natCast hproduct (by omega)
      (by omega)
  refine ⟨?_, (he.y.add hheight (by omega) (by omega)).mono (by omega)⟩
  unfold anchorPoint
  split
  · exact he.right hroom
  · exact he.x.mono (by omega)

variable (config : RouterConfig Float)

/-- A label is placed within the bound of the points it stands between. -/
theorem isWithin_labelOf {e : ConnectionEnd Mixed} {slot : Slot} (hslot : slot.IsWithin count)
    {p q : Point Mixed} (hp : p.IsWithin (2 * size)) (hq : q.IsWithin (2 * size)) :
    ∀ label ∈ labelOf (config.map .real) e slot p q, label.position.IsWithin (2 * size) := by
  have hsizes := hroom.sizes
  have hcounts := hroom.counts
  have hstagger := hslot.stagger
  unfold labelOf
  split
  · simp
  · -- A label steps from its end by a multiple of a double, which is a double.
    rintro label ⟨⟩
    refine hp.towards hq (by omega) ?_
    exact (isWithin_real 0 _).add
      ((isWithin_natCast _).mul (isWithin_real 0 _) (by omega) (by omega))
      (by omega) (by omega)

/-- The control points of a line are within twice the bound of the boxes. -/
theorem isWithin_controlPoints (c : Connection Mixed) {start stop : Point Mixed}
    (hstart : start.IsWithin (2 * size)) (hstop : stop.IsWithin (2 * size)) {fromLane toLane : Nat}
    (hfrom : fromLane ≤ count) (hto : toLane ≤ count) :
    (controlPoints (config.map .real) c start stop fromLane toLane).1.IsWithin (2 * size) ∧
      (controlPoints (config.map .real) c start stop fromLane toLane).2.IsWithin (2 * size) := by
  have hsizes := hroom.sizes
  have hcounts := hroom.counts
  have hlimit := le_wholeLimit
  have hspread {lane : Nat} (hlane : lane ≤ count) :
      ((lane : Mixed) * (config.map Mixed.real).laneSpacing).IsWithin 0 :=
    (isWithin_natCast lane).mul (isWithin_real 0 _) (by omega) (by omega)
  unfold controlPoints
  dsimp only
  split
  -- A U-turn goes out by a part of its height, any other connection by a third of its width.
  · have hrun : (magnitude (stop.y - start.y)).IsWithin (4 * size) :=
      ((hstop.2.sub hstart.2 (by omega) (by omega)).mono (by omega)).magnitude hsizes
    have hbow := (isWithin_real 0 config.uTurnMin).larger
      (hrun.mul (isWithin_real 0 config.uTurnRatio) hsizes (by omega))
    have hx := ((hstart.1.larger hstop.1).add hbow (by omega) (by omega)).add
      (hspread (Nat.max_le.2 ⟨hfrom, hto⟩)) (by omega) (by omega)
    exact ⟨⟨hx, hstart.2⟩, ⟨hx, hstop.2⟩⟩
  · have hrun : (magnitude (stop.x - start.x)).IsWithin (4 * size) :=
      ((hstop.1.sub hstart.1 (by omega) (by omega)).mono (by omega)).magnitude hsizes
    have hbase := (isWithin_real 0 config.minStraight).larger
      ((isWithin_real 0 config.maxStraight).smaller
        (hrun.div_natCast hsizes (k := 3) (by omega) (by omega)))
    have hstep {lane : Nat} (hlane : lane ≤ count) :=
      hbase.add (hspread hlane) (by omega) (by omega)
    exact ⟨⟨hstart.1.along _ (hstep hfrom) (by omega), hstart.2⟩,
      ⟨hstop.1.along _ (hstep hto) (by omega), hstop.2⟩⟩

/-- Every point of a drawn connection stays within the right edges. -/
theorem isWithin_points (style : LineStyle) {ends : List (ConnectionEnd Mixed)}
    (hends : ends.length ≤ count) {c : Connection Mixed} (hsource : c.source.rect.IsWithin size)
    (htarget : c.target.rect.IsWithin size) (index : Nat) :
    ∀ p ∈ (drawConnection (config.map .real) style ends c index).start ::
      (drawConnection (config.map .real) style ends c index).stop ::
        (drawConnection (config.map .real) style ends c index).points, p.IsWithin (2 * size) := by
  have hsizes := hroom.sizes
  have hfrom := (isWithin_slotOf ends c.source (2 * index)).mono hends
  have hto := (isWithin_slotOf ends c.target (2 * index + 1)).mono hends
  have hstart := isWithin_anchorPoint hroom hsource hfrom
  have hstop := isWithin_anchorPoint hroom htarget hto
  obtain ⟨h₁, h₂⟩ := isWithin_controlPoints hroom config c hstart hstop
    ((laneOf_le ends c.source (2 * index)).trans hends)
    ((laneOf_le ends c.target (2 * index + 1)).trans hends)
  have hcommands :=
    isWithin_buildPath style (isWithin_real 0 config.cornerRadius) hstart h₁ h₂ hstop
    (by omega)
  have hstartLabel := isWithin_labelOf hroom config (e := c.source) hfrom hstart h₁
  have hendLabel := isWithin_labelOf hroom config (e := c.target) hto hstop h₂
  simp only [ConnectionPath.points, List.mem_cons, List.mem_append, List.mem_map, Option.mem_toList,
    List.not_mem_nil, or_false]
  -- The ends, the corners, the points of the commands and the places of both labels.
  rintro p (rfl | rfl | ((rfl | rfl) | hp) | ⟨label, hlabel | hlabel, rfl⟩)
  · exact hstart
  · exact hstop
  · exact h₁
  · exact h₂
  · exact hcommands p hp
  · exact hstartLabel label hlabel
  · exact hendLabel label hlabel

/-- **Every number of a drawn connection** has been calculated. -/
theorem fault?_drawConnection (style : LineStyle) {ends : List (ConnectionEnd Mixed)}
    (hends : ends.length ≤ count) {c : Connection Mixed} (hsource : c.source.rect.IsWithin size)
    (htarget : c.target.rect.IsWithin size) (index : Nat) :
    ∀ a ∈ (drawConnection (config.map .real) style ends c index).numbers, a.fault? = none := by
  have hsizes := hroom.sizes
  have hlimit := le_wholeLimit
  have hpoints := isWithin_points hroom config style hends hsource htarget index
  generalize drawConnection (config.map .real) style ends c index = path at hpoints
  simp only [List.forall_mem_cons] at hpoints
  obtain ⟨hstart, hstop, hpoints⟩ := hpoints
  -- The run is the difference of two points within twice the size.
  have hrun : (magnitude (path.stop.x - path.start.x)).IsWithin (4 * size) :=
    ((hstop.1.sub hstart.1 (by omega) (by omega)).mono (by omega)).magnitude hsizes
  have hthird := hrun.div_natCast hsizes (k := 3) (by omega) (by omega)
  simp only [ConnectionPath.numbers, List.forall_mem_append, List.forall_mem_singleton,
    List.forall_mem_flatMap]
  exact ⟨⟨⟨hstart.fault?, hstop.fault?⟩, hthird.fault?⟩, fun p hp => (hpoints p hp).fault?⟩

/-- Every number that the edges of a connection are chosen by has been calculated. -/
theorem fault?_connection {c : Connection Mixed} (hsource : c.source.IsWithin size)
    (htarget : c.target.IsWithin size) : ∀ a ∈ c.numbers, a.fault? = none := by
  have hright : ∀ a ∈ sideNumbers c.source.rect c.target.rect, a.fault? = none := by
    unfold sideNumbers
    rw [List.forall_mem_cons]
    refine ⟨(htarget.rect.right hroom).fault?, ?_⟩
    split
    · simpa using (hsource.rect.right hroom).fault?
    · simp
  simp only [Connection.numbers, List.forall_mem_append, List.forall_mem_cons]
  exact ⟨hright, hsource.otherY.fault?, htarget.otherY.fault?, by simp⟩

/-- Every mean by which lanes are ordered has been calculated. -/
theorem fault?_laneNumbers {ends : List (ConnectionEnd Mixed)} (hlength : ends.length ≤ count)
    (hends : ∀ e ∈ ends, e.IsWithin size) : ∀ a ∈ laneNumbers ends, a.fault? = none := by
  have hcounts := hroom.counts
  unfold laneNumbers
  dsimp only
  rw [List.forall_mem_flatMap]
  intro side _
  generalize hgroup : ends.filter _ = group
  have hmem : ∀ e ∈ group, e.IsWithin size := fun e he =>
    hends e (List.mem_of_mem_filter (hgroup ▸ he))
  have hle : group.length ≤ count := (hgroup ▸ List.length_filter_le ..).trans hlength
  have hproduct := hroom.products (Nat.le_succ_of_le hle)
  rw [Nat.mul_comm] at hproduct
  split
  -- No means are needed for a lone end.
  · simp
  · have hmean (f : ConnectionEnd Mixed → Mixed) (hf : ∀ e ∈ group, (f e).IsWithin size) :
        (mean (group.map f)).fault? = none := by
      have hvalues : ∀ a ∈ group.map f, a.IsWithin size := List.forall_mem_map.2 hf
      refine (isWithin_mean hvalues ?_ ?_ ?_).fault? <;> rw [List.length_map]
      · omega
      · exact hproduct
      · omega
    rw [List.forall_mem_cons, List.forall_mem_singleton]
    exact ⟨hmean _ fun e he => (hmem e he).rect.y, hmean _ fun e he => (hmem e he).otherY⟩

end Drawing

/-! ## Routed diagrams -/

/-- Every connection has two ends. -/
theorem length_allEnds {K : Type} (connections : List (Connection K)) :
    (allEnds connections).length = 2 * connections.length := by
  induction connections with
  | nil => rfl
  | cons c connections ih =>
    rw [allEnds, List.flatMap_cons, List.length_append, ← allEnds, ih, List.length_cons]
    simp only [List.length_cons, List.length_nil]
    omega

/-- A layout without faults is what has been calculated. -/
theorem unlessFault_eq {α : Type} {numbers : List Mixed} (h : ∀ a ∈ numbers, a.fault? = none)
    (x : α) :
    unlessFault numbers x = .ok x := by
  rw [unlessFault, firstFault, List.findSome?_eq_none_iff.2 h]
  rfl

section Routing

variable {size count : Nat} (hroom : HasRoom size count) {rects : Text → Option (Rect Mixed)}
  (hrects : ∀ id r, rects id = some r → r.IsWithin size) {schema : Option Schema}
  {relationships : List Relationship} (hpairs : 2 * (columnPairs relationships).length ≤ count)

include hroom hrects in
/-- Both ends of every connection have been calculated. -/
theorem isWithin_connectionsOf {c : Connection Mixed}
    (hc : c ∈ connectionsOf schema rects relationships) :
    c.source.IsWithin size ∧ c.target.IsWithin size := by
  have hmeasure {tableId column : Text} {r : Rect Mixed} (h : measure rects tableId column
    = some r) :
      r.IsWithin size := by
    -- A rectangle is that of the column, or that of the table where the column has none.
    obtain h | ⟨-, h⟩ := Option.or_eq_some_iff.1 h
    · exact hrects _ r h
    · exact hrects _ r h
  obtain ⟨pair, -, hconnect⟩ := mem_connectionsOf.1 hc
  obtain ⟨source, target, hsource, htarget, rfl⟩ := ColumnPair.connect?_eq_some.1 hconnect
  have hsource := hmeasure hsource
  have htarget := hmeasure htarget
  exact ⟨⟨hsource, htarget.centerY hroom⟩, ⟨htarget, hsource.centerY hroom⟩⟩

include hroom hrects hpairs in
/-- **No number of a routed diagram is a fault**, where its rectangles leave room for its ends. -/
theorem fault?_route (config : RouterConfig Float) (style : LineStyle) :
    ∀ a ∈ (route (config.map .real) rects style schema relationships).numbers, a.fault? = none := by
  -- Every connected pair has two ends, and there is room for both.
  have hends : (allEnds (connectionsOf schema rects relationships)).length ≤ count := by
    rw [length_allEnds]
    exact (Nat.mul_le_mul_left 2 (List.length_filterMap_le ..)).trans hpairs
  rw [RoutingResult.numbers, connections_route, paths_route]
  simp only [List.forall_mem_append, List.forall_mem_flatMap, List.forall_mem_map]
  refine ⟨⟨fun c hc => ?_, ?_⟩, fun x hx => ?_⟩
  · obtain ⟨hsource, htarget⟩ := isWithin_connectionsOf hroom hrects hc
    exact fault?_connection hroom hsource htarget
  · refine fault?_laneNumbers hroom hends ?_
    rw [allEnds, List.forall_mem_flatMap]
    intro c hc
    obtain ⟨hsource, htarget⟩ := isWithin_connectionsOf hroom hrects hc
    simp [hsource, htarget]
  · obtain ⟨hsource, htarget⟩ := isWithin_connectionsOf hroom hrects (List.fst_mem_of_mem_zipIdx hx)
    exact fault?_drawConnection hroom config style hends hsource.rect htarget.rect x.2

end Routing

/-! ## Estimated boxes -/

/-- **The sizes that a schema sets** are at most `size` where they are whole, and it has at most
`count` tables, fields of one table and ends of references. -/
structure Schema.IsWithin (size count : Nat) (s : Schema) : Prop where
  /-- The tables. -/
  tables : s.tables.length ≤ count
  /-- The fields. -/
  fields : ∀ t ∈ s.tables, t.fields.length ≤ count
  /-- Every pair of columns has two ends. -/
  ends : 2 * (columnPairs s.relationships).length ≤ count
  /-- Where the tables are placed, and their widths. -/
  placed : ∀ t ∈ s.tables, ∀ a ∈ t.x.toList ++ t.y.toList ++ t.width.toList, a.IsWithin size
  /-- The boxes of the notes. -/
  notes : ∀ n ∈ s.notes, (noteBox id n).2.IsWithin size

instance (size count : Nat) (s : Schema) : Decidable (s.IsWithin size count) :=
  decidable_of_iff (s.tables.length ≤ count ∧ (∀ t ∈ s.tables, t.fields.length ≤ count) ∧
      2 * (columnPairs s.relationships).length ≤ count ∧
      (∀ t ∈ s.tables, ∀ a ∈ t.x.toList ++ t.y.toList ++ t.width.toList, a.IsWithin size) ∧
      ∀ n ∈ s.notes, (noteBox id n).2.IsWithin size)
    ⟨fun ⟨tables, fields, ends, placed, notes⟩ => ⟨tables, fields, ends, placed, notes⟩,
      fun h => ⟨h.tables, h.fields, h.ends, h.placed, h.notes⟩⟩

section Boxes

variable {size count : Nat} (hroom : HasRoom size count) (layout : LayoutConfig Float)
    {schema : Schema}
  (h : schema.IsWithin size count)
include hroom h

/-- Every table stands at its own coordinates, or at those of its cell, which are doubles. -/
theorem isWithin_tableCorner {t : Table} {index : Nat} (ht : (t, index) ∈ schema.tables.zipIdx) :
    (tableCorner (layout.map .real) id index t).IsWithin size := by
  have hcounts := hroom.counts
  have hlimit := le_wholeLimit
  have hplaced := h.placed t (List.fst_mem_of_mem_zipIdx ht)
  have hindex : index < schema.tables.length := List.snd_lt_of_mem_zipIdx ht
  have htables := h.tables
  -- The grid cell of a table is the origin and some steps, and none of them is a whole number.
  have hcell {k : Nat} (hk : k ≤ index) (gap : Float) :
      (Mixed.real layout.origin + (k : Mixed) * Mixed.real gap).IsWithin size :=
    ((isWithin_real 0 _).add ((isWithin_natCast k).mul (isWithin_real 0 _) (by omega) (by omega))
      (by omega) (by omega)).mono (Nat.zero_le _)
  -- A coordinate that is set takes the place of that of the cell.
  have hown {own : Option Mixed} {cell : Mixed} (hcell : cell.IsWithin size)
      (hown : ∀ a ∈ own.toList, a.IsWithin size) : ((own.map id).getD cell).IsWithin size := by
    cases own with
    | none => exact hcell
    | some a => exact hown a (by simp)
  simp only [List.forall_mem_append] at hplaced
  exact ⟨hown (hcell (Nat.mod_le ..) _) hplaced.1.1,
    hown (hcell (Nat.div_le_self ..) _) hplaced.1.2⟩

/-- The boxes of a table at its corner keep its sizes. -/
theorem isWithin_tableBoxes {t : Table} (ht : t ∈ schema.tables) {corner : Point Mixed}
    (hcorner : corner.IsWithin size) :
    ∀ box ∈ tableBoxes (layout.map .real) id corner t, box.2.IsWithin size := by
  have hcounts := hroom.counts
  have hsizes := hroom.sizes
  have hfields := h.fields t ht
  have hplaced := h.placed t ht
  simp only [List.forall_mem_append] at hplaced
  have hwidth : (tableWidth (layout.map .real) id t).IsWithin size := by
    unfold tableWidth
    -- A width is taken from the table only where it is positive.
    split
    next w hw =>
      split
      · exact isWithin_real size _
      · exact hplaced.2 w (by simp [hw])
    next => exact isWithin_real size _
  have hheight : (tableHeight (layout.map Mixed.real) t).IsWithin size :=
    ((isWithin_real 0 _).add ((isWithin_real 0 _).mul (isWithin_natCast _) (by omega) (by omega))
      (by omega) (by omega)).mono (by omega)
  rw [tableBoxes, List.forall_mem_cons, List.forall_mem_map]
  refine ⟨⟨hcorner.1, hcorner.2, hwidth, hheight⟩, fun x hx => ?_⟩
  -- The rows are counted among the fields, so there is room for their offsets.
  have hrow : x.2 < t.fields.length := List.snd_lt_of_mem_zipIdx hx
  have hy := (hcorner.2.add (isWithin_real 0 layout.headerHeight) (by omega) (by omega)).add
    ((isWithin_natCast x.2).mul (isWithin_real 0 layout.rowHeight) (by omega) (by omega)) (by omega)
    (by omega)
  exact ⟨hcorner.1, hy.mono (by omega), hwidth, isWithin_real size _⟩

/-- **The estimated boxes keep the sizes that the schema sets.** -/
theorem isWithin_estimateBoxes {box : Text × Rect Mixed}
    (hbox : box ∈ estimateBoxes (layout.map .real) id schema
      (placeTables (layout.map .real) id schema.tables)) :
    box.2.IsWithin size := by
  have hmem := (OrderedMap.mem_of_mem_update hbox).resolve_left List.not_mem_nil
  obtain hmem | hmem := List.mem_append.1 hmem
  -- The corner of a table may be that of another one with its identifier, which is within the bound
  -- too.
  · obtain ⟨t, ht, hmem⟩ := List.mem_flatMap.1 hmem
    split at hmem
    next corner hcorner =>
      obtain ⟨⟨t', index⟩, ht', heq⟩ := List.mem_map.1 (OrderedMap.mem_of_get?_ofList hcorner)
      obtain ⟨-, rfl⟩ := Prod.mk.inj heq
      exact isWithin_tableBoxes hroom layout h ht (isWithin_tableCorner hroom layout h ht') box hmem
    next => cases hmem
  · obtain ⟨n, hn, rfl⟩ := List.mem_map.1 hmem
    exact h.notes n hn

end Boxes

/-- **The boxes and the routes of a schema can be calculated**, where its sizes leave room for
them. -/
theorem exists_layOut {size count : Nat} (hroom : HasRoom size count) {schema : Schema}
    (h : schema.IsWithin size count) (config : DiagramConfig) {display effective : DisplaySettings}
    (hdisplay : effectiveDisplay display schema.project = .ok effective) :
    ∃ laid, layOut config display none schema = .ok laid := by
  have hwithin := @isWithin_estimateBoxes size count hroom config.layout schema h
  unfold layOut
  rw [hdisplay]
  dsimp only
  generalize estimateBoxes (config.layout.map .real) id schema _ = boxes at hwithin
  have hboxes : ∀ a ∈ boxes.values.flatMap (·.numbers), a.fault? = none := by
    simp only [List.forall_mem_flatMap, OrderedMap.values, List.forall_mem_map]
    exact fun box hbox => (hwithin hbox).fault?
  let routing := routeSchema (config.router.map .real) boxes.get? effective.lineStyle schema
  -- What is found under an anchor is one of the boxes.
  have hroutes : ∀ a ∈ routing.numbers, a.fault? = none :=
    fault?_route hroom (fun id r hr => hwithin (OrderedMap.mem_of_get? hr)) h.ends config.router
      effective.lineStyle
  have hchecked : checkedBoxes boxes = .ok boxes := unlessFault_eq hboxes boxes
  have hrouted : routing.checked = .ok routing := unlessFault_eq hroutes routing
  refine ⟨⟨effective, boxes, routing⟩, ?_⟩
  simp only [bind, Except.bind, hchecked, Option.getD_none]
  rw [hrouted]
  rfl

/-! ## The numbers of a project -/

/-- The keys of a project that hold a number. -/
def numberKeys : List Text := ["zoom", "panX", "panY", "gridSize"]

/-- **Every number of a project can be read**: a whole number has a double, and the size of the grid
is no infinity. -/
structure ProjectSettings.IsReadable (p : ProjectSettings) : Prop where
  /-- The whole numbers. -/
  wholes : ∀ key ∈ numberKeys, ∀ n, p.get? key = some (.int n) → n.natAbs < wholeLimit
  /-- The size of the grid. -/
  gridSize : ∀ x, p.get? "gridSize" = some (.float x) → Binary.ofFloat x ≠ .infinite false

/-- A double that is above zero has an integer part, unless it is infinite. -/
theorem floorOfFloat?_eq_none_iff {x : Float} (h : 0 < x) :
    floorOfFloat? x = none ↔ Binary.ofFloat x = .infinite false := by
  unfold floorOfFloat?
  obtain hx | ⟨m, e, -, hx⟩ := pos_iff.1 h
  · simp [hx]
  · simp [hx]

/-- The double of a whole number is finite. -/
theorem ofFloat_ne_infinite {n : Int} {x : Float} (h : floatOfInt? n = some x) (negative : Bool) :
    Binary.ofFloat x ≠ .infinite negative := fun hx => by
  rw [floatOfInt?, Option.ite_none_left_eq_some] at h
  obtain ⟨hfinite, hvalue⟩ := h
  rw [Option.some_inj.1 hvalue] at hfinite
  exact hfinite (isInf_iff.2 ⟨negative, hx⟩)

namespace ProjectSettings

variable {p : ProjectSettings} {key : Text}

/-- A number of a project can be read unless it is a whole number past the doubles. -/
theorem isOk_number?_iff : (p.number? key).isOk ↔
    ∀ n, p.get? key = some (.int n) → n.natAbs < wholeLimit := by
  unfold number?
  split
  next n hn =>
    simp only [hn, Option.some.injEq, Scalar.int.injEq, forall_eq']
    rw [Mixed.toFloat]
    cases hfloat : floatOfInt? n with
    -- The number is past the doubles, so the reading fails.
    | none =>
      refine iff_of_false Bool.false_ne_true fun hlt => ?_
      rw [floatOfInt?_eq_some_iff.2 ⟨hlt, rfl⟩] at hfloat
      cases hfloat
    | some x => exact iff_of_true rfl (floatOfInt?_eq_some_iff.1 hfloat).1
  next x hx => simp [hx, Except.isOk, Except.toBool]
  next hint hfloat => exact iff_of_true rfl fun n hn => absurd hn (hint n)

/-- A mapped result is one where the result is. -/
theorem isOk_positive?_iff : (p.positive? key).isOk ↔ (p.number? key).isOk := by
  unfold positive?
  cases p.number? key <;> rfl

/-- A number of a project is a double, or the double of a whole number. -/
theorem number?_eq_some_iff {x : Float} : p.number? key = .ok (some x) ↔
    p.get? key = some (.float x) ∨ ∃ n, p.get? key = some (.int n) ∧ floatOfInt? n = some x := by
  unfold number?
  split
  next n hn =>
    rw [hn, Mixed.toFloat]
    cases hfloat : floatOfInt? n <;> simp [Except.map, hfloat]
  next y hy => simp [hy]
  next hint hfloat =>
    refine iff_of_false (by simp) ?_
    rintro (hx | ⟨n, hn, -⟩)
    · exact hfloat x hx
    · exact hint n hn

/-- The size of the grid can be read where its number can, and is no infinity above zero. -/
theorem isOk_gridSize?_iff_number? : p.gridSize?.isOk ↔ (p.number? "gridSize").isOk ∧
    ∀ x, p.number? "gridSize" = .ok (some x) → Binary.ofFloat x ≠ .infinite false := by
  unfold gridSize? positive?
  cases p.number? "gridSize" with
  | error f => exact iff_of_false Bool.false_ne_true fun h => Bool.false_ne_true h.1
  | ok x? =>
    cases x? with
    | none => exact iff_of_true rfl ⟨rfl, fun x hx => by cases hx⟩
    | some x =>
      simp only [Except.ok.injEq, Option.some.injEq, forall_eq', Except.isOk, Except.toBool,
        true_and]
      -- A number that is not positive reads as unset, whether it is infinite or not.
      by_cases hpos : 0 < x
      · simp only [Except.map, Option.filter_some, hpos, decide_true, if_true, bind, Except.bind]
        have hfloor := floorOfFloat?_eq_none_iff hpos
        cases hvalue : floorOfFloat? x with
        -- The floor fails for the infinity only.
        | none => exact iff_of_false Bool.false_ne_true (not_not.2 (hfloor.1 hvalue))
        | some n =>
          refine iff_of_true rfl fun hx => ?_
          rw [hfloor.2 hx] at hvalue
          cases hvalue
      · simp only [Except.map, Option.filter_some, hpos, decide_false, bind, Except.bind]
        exact iff_of_true rfl fun hx => hpos (pos_iff.2 (.inl hx))

/-- **The size of the grid can be read** unless it is a whole number past the doubles, or
infinite. -/
theorem isOk_gridSize?_iff : p.gridSize?.isOk ↔
    (∀ n, p.get? "gridSize" = some (.int n) → n.natAbs < wholeLimit) ∧
      ∀ x, p.get? "gridSize" = some (.float x) → Binary.ofFloat x ≠ .infinite false := by
  rw [isOk_gridSize?_iff_number?, isOk_number?_iff]
  refine and_congr_right fun _ => forall_congr' fun x => ?_
  rw [number?_eq_some_iff, or_imp]
  -- The double of a whole number is never infinite.
  refine and_iff_left ?_
  rintro ⟨n, -, hn⟩
  exact ofFloat_ne_infinite hn false

/-- **A project is readable** where each of its numbers can be read. -/
theorem isReadable_iff :
    p.IsReadable ↔ p.gridSize?.isOk ∧ p.zoom?.isOk ∧ p.panX?.isOk ∧ p.panY?.isOk := by
  rw [isOk_gridSize?_iff, zoom?, isOk_positive?_iff, panX?, panY?]
  simp only [isOk_number?_iff]
  -- The keys are those of the numbers that are read; the grid size has a condition of its own.
  constructor
  · intro h
    have hkey := h.wholes
    simp only [numberKeys, List.forall_mem_cons] at hkey
    obtain ⟨hzoom, hpanX, hpanY, hgrid, -⟩ := hkey
    exact ⟨⟨hgrid, h.gridSize⟩, hzoom, hpanX, hpanY⟩
  · rintro ⟨⟨hgrid, hinfinite⟩, hzoom, hpanX, hpanY⟩
    refine ⟨?_, hinfinite⟩
    simp only [numberKeys, List.forall_mem_cons]
    exact ⟨hzoom, hpanX, hpanY, hgrid, by simp⟩

instance (p : ProjectSettings) : Decidable p.IsReadable := decidable_of_iff _ isReadable_iff.symm

end ProjectSettings

/-! ## Display and viewport -/

/-- The display settings of a schema can be told when its grid size can. -/
theorem isOk_effectiveDisplay_iff (display : DisplaySettings) {p : ProjectSettings} :
    (effectiveDisplay display p).isOk ↔ p.gridSize?.isOk := by
  unfold effectiveDisplay
  cases p.gridSize? with
  | error f => exact Iff.rfl
  | ok size? =>
    refine iff_of_true ?_ rfl
    cases size? with
    | none => rfl
    | some size =>
      simp only [bind, Except.bind]
      split <;> rfl

/-- The viewport of a schema can be told when its zoom and both of its offsets can. -/
theorem isOk_viewportOf_iff {p : ProjectSettings} :
    (viewportOf p).isOk ↔ p.zoom?.isOk ∧ p.panX?.isOk ∧ p.panY?.isOk := by
  unfold viewportOf
  cases p.zoom? <;> cases p.panX? <;> cases p.panY? <;>
    simp [bind, Except.bind, pure, Except.pure, Except.isOk, Except.toBool]

/-! ## Drawing -/

/-- A schema that leaves room is drawn exactly where its project is readable. -/
theorem renderSchema_drawn_iff (config : DiagramConfig) (display : DisplaySettings)
    {schema : Schema}
    {size count : Nat} (hroom : HasRoom size count) (h : schema.IsWithin size count) :
    (renderSchema config display none schema).scene.error = none ↔ schema.project.IsReadable := by
  rw [ProjectSettings.isReadable_iff, ← isOk_viewportOf_iff, ← isOk_effectiveDisplay_iff display]
  unfold renderSchema
  -- The size of the grid is read before the layout, the rest of the numbers after it.
  cases hdisplay : effectiveDisplay display schema.project with
  | error f =>
    have hlaid : layOut config display none schema = .error f := by
      unfold layOut
      rw [hdisplay]
      rfl
    rw [hlaid]
    exact iff_of_false (Option.some_ne_none _) fun h => Bool.false_ne_true h.1
  | ok effective =>
    obtain ⟨laid, hlaid⟩ := exists_layOut hroom h config hdisplay
    rw [hlaid]
    dsimp only
    unfold sceneOfLayout
    cases viewportOf schema.project with
    | error f => exact iff_of_false (Option.some_ne_none _) fun h => Bool.false_ne_true h.2
    | ok viewport => exact iff_of_true rfl ⟨rfl, rfl⟩

/-- **A text that leaves room is drawn** exactly where it is blank or the numbers of its project can
be read. -/
theorem renderText_drawn_iff (config : DiagramConfig) (display : DisplaySettings) (text : Text)
    {size count : Nat} (hroom : HasRoom size count) (h : (readSchema text).IsWithin size count) :
    (renderText config display none "dbml" text).scene.error = none ↔
      text.trim.isEmpty = true ∨ (readSchema text).project.IsReadable := by
  have hparse : parseSchema text "dbml" = .ok (readSchema text) := rfl
  unfold renderText
  rw [hparse]
  split
  next hblank => exact iff_of_true rfl (.inl hblank)
  next hblank =>
    dsimp only
    rw [renderSchema_drawn_iff config display hroom h]
    exact (or_iff_right hblank).symm

/-- A document with a placed table, a reference, a sticky note and a size of the grid that is no
number. -/
def pinned : Text :=
  "Project p \x7b
  zoom: 1.5
  gridSize: big
\x7d
Table users [x: 40, y: 80, width: 260] \x7b id int \x7d
Table posts \x7b author int [ref: > users.id] \x7d
Note todo [x: -300, y: 12.5] \x7b 'rename' \x7d".toList

/-- What is read from the text of a pinned table is within bounds, and its settings can be read.
-/
theorem read_pinned :
    (readSchema pinned).IsWithin 1000 10 ∧ (readSchema pinned).project.IsReadable := by
  decide +kernel

/-- The document leaves room and is drawn. -/
theorem renderText_drawn_pinned : HasRoom 1000 10 ∧ (readSchema pinned).IsWithin 1000 10 ∧
    (renderText .default .default none "dbml" pinned).scene.error = none := by
  have hroom : HasRoom 1000 10 := le_trans (by decide) le_wholeLimit
  obtain ⟨hwithin, hreadable⟩ := read_pinned
  exact ⟨hroom, hwithin,
    (renderText_drawn_iff .default .default pinned hroom hwithin).2 (.inr hreadable)⟩

/-- A document whose grid is infinite. -/
def infiniteGrid : Text :=
  "Project p \x7b
  gridSize: inf
\x7d
Table t \x7b\x7d".toList

/-- **An infinite size of the grid ends the drawing**: it does not read as absent. -/
theorem renderText_infiniteGrid :
    (renderText .default .default none "dbml" infiniteGrid).scene.error
    = some "Error rendering diagram: cannot convert float infinity to integer".toList := by
  decide +kernel

/-- A document with a reference between two tables that end past the largest double. -/
def farOut : Text :=
  "Table users [x: 1e308, width: 1e308] \x7b id int \x7d
Table posts [x: 1e308, width: 1e308] \x7b author int [ref: > users.id] \x7d".toList

-- Tables that leave no room can end the drawing too.
example : (renderText .default .default none "dbml" farOut).scene.error
    = some "Error rendering diagram: int too large to convert to float".toList := by
  decide +kernel

end SchemaDiagram
