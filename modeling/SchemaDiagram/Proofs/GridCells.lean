import Mathlib.Algebra.Order.Ring.Rat
import Mathlib.Data.Set.Disjoint
import SchemaDiagram.Proofs.StackedRows

/-! # Tables in the cells of a grid

A table that sets no position stands at the corner of the grid cell of its index. Division and
remainder tell the index, so two tables stand in cells that differ in the row or in the column, and
along that axis the one cell begins at least a gap behind the other. Where every table fits into the
gaps, the tables therefore do not overlap.

* **`Rect.interior`** — the inner points of a rectangle, and **`Rect.IsApart`** — the one ends
  before the other begins along an axis.
* **`estimatedRects_tableAnchor`** — the box under the id of a table is that of the table.
* **`isApart_of_cell_ne`** — boxes that fit stand apart in different cells.
* **`estimatedRects_disjoint`** — tables on the grid do not overlap. -/

namespace SchemaDiagram

/-! ## Rectangles apart -/

namespace Rect

section Apart

variable {K : Type} [Add K] [LinearOrder K] {r s : Rect K}

/-- **The inner points of a rectangle.** -/
def interior (r : Rect K) : Set (Point K) :=
  {p | (r.x < p.x ∧ p.x < r.right) ∧ r.y < p.y ∧ p.y < r.bottom}

/-- **Along an axis one of the rectangles ends before the other begins.** -/
def IsApart (r s : Rect K) : Prop :=
  (r.right ≤ s.x ∨ s.right ≤ r.x) ∨ r.bottom ≤ s.y ∨ s.bottom ≤ r.y

/-- Rectangles that stand apart have no inner point in common. -/
theorem IsApart.disjoint (h : r.IsApart s) : Disjoint r.interior s.interior := by
  rw [Set.disjoint_left]
  rintro p ⟨hrx, hry⟩ ⟨hsx, hsy⟩
  obtain (hle | hle) | hle | hle := h
  · exact absurd (hrx.2.trans_le hle) hsx.1.not_gt
  · exact absurd (hsx.2.trans_le hle) hrx.1.not_gt
  · exact absurd (hry.2.trans_le hle) hsy.1.not_gt
  · exact absurd (hsy.2.trans_le hle) hry.1.not_gt

end Apart

end Rect

/-! ## The box of a table -/

section Boxes

variable {K : Type} [Add K] [Mul K] [NatCast K] (layout : LayoutConfig K) (num : Mixed → K)

/-- A table without a position stands at the corner of its cell. -/
theorem tableCorner_of_unset {t : Table} (h : t.x = none ∧ t.y = none) (index : Nat) :
    tableCorner layout num index t = gridPosition layout index := by
  rw [tableCorner, h.1, h.2]
  rfl

variable {schema : Schema} (hnodup : (schema.tables.map (·.id)).Nodup)
include hnodup

/-- The identifier of a table tells its index. -/
theorem eq_of_id_eq {i j : Nat} {t u : Table} (ht : schema.tables[i]? = some t)
    (hu : schema.tables[j]? = some u) (hid : t.id = u.id) : i = j := by
  have hlt : i < (schema.tables.map (·.id)).length := by
    rw [List.length_map]
    exact (List.getElem?_eq_some_iff.1 ht).1
  refine (List.getElem?_inj hlt hnodup).1 ?_
  rw [List.getElem?_map, List.getElem?_map, ht, hu, Option.map_some, Option.map_some, hid]

/-- **The box under the id of a table** is that of the table, whatever its columns and the notes are
called. -/
theorem estimatedRects_tableAnchor {t : Table} {index : Nat} (ht : schema.tables[index]? = some t) :
    let corner := tableCorner layout num index t
    schema.estimatedRects layout num (tableAnchor t.id)
      = some ⟨corner.x, corner.y, tableWidth layout num t, tableHeight layout t⟩ := by
  intro corner
  -- Some box stands under the anchor; whatever is found there was made for a table or a note.
  obtain ⟨rect, hrect⟩ := Option.isSome_iff_exists.1
    (isSome_estimatedRects layout num hnodup ht List.mem_cons_self)
  have hfound := hrect
  rw [Schema.estimatedRects, estimateBoxes_placeTables layout num hnodup] at hfound
  rw [hrect]
  obtain hbox | hnote := List.mem_append.1 (OrderedMap.mem_of_get?_ofList hfound)
  · obtain ⟨⟨u, j⟩, hu, hbox⟩ := List.mem_flatMap.1 hbox
    have hu : schema.tables[j]? = some u := List.mem_zipIdx_iff_getElem?.1 hu
    -- The first box of a table is its own, under its own anchor.
    obtain hown | hcolumn := List.mem_cons.1 hbox
    · obtain ⟨hanchor, rfl⟩ := Prod.mk.inj hown
      obtain rfl := eq_of_id_eq hnodup ht hu (List.append_cancel_left hanchor)
      obtain rfl : t = u := Option.some.inj (ht.symm.trans hu)
      rfl
    · -- The others stand under anchors of columns.
      obtain ⟨⟨f, row⟩, -, heq⟩ := List.mem_map.1 hcolumn
      exact absurd (Prod.mk.inj heq).1.symm (tableAnchor_ne_columnAnchor _ _ _)
  · -- The boxes of notes stand under anchors of notes.
    obtain ⟨n, -, heq⟩ := List.mem_map.1 hnote
    exact absurd (.inl (Prod.mk.inj heq).1) (not_isAnchorOf_noteAnchor t.id n.id)

end Boxes

/-! ## Cells -/

section Cells

variable {K : Type} [CommRing K] [LinearOrder K] [IsStrictOrderedRing K]

/-- What fits into the gap ends before a later cell begins. -/
theorem cell_end_le {gap size : K} (hpos : 0 < size) (hle : size ≤ gap) (origin : K) {m n : Nat}
    (h : m < n) : origin + (m : K) * gap + size ≤ origin + (n : K) * gap := by
  have hgap : 0 ≤ gap := hpos.le.trans hle
  have hnext : ((m + 1 : Nat) : K) * gap ≤ (n : K) * gap :=
    mul_le_mul_of_nonneg_right (Nat.cast_le.2 h) hgap
  calc origin + (m : K) * gap + size ≤ origin + (m : K) * gap + gap := by gcongr
    _ = origin + ((m + 1 : Nat) : K) * gap := by push_cast; ring
    _ ≤ origin + (n : K) * gap := by gcongr

/-- Of two different cells of an axis one ends before the other begins. -/
theorem cells_apart {gap a b : K} (ha : 0 < a ∧ a ≤ gap) (hb : 0 < b ∧ b ≤ gap) (origin : K)
    {m n : Nat} (h : m ≠ n) : origin + (m : K) * gap + a ≤ origin + (n : K) * gap ∨
      origin + (n : K) * gap + b ≤ origin + (m : K) * gap :=
  h.lt_or_gt.imp (cell_end_le ha.1 ha.2 origin) (cell_end_le hb.1 hb.2 origin)

/-- The rectangle of a size at the corner of a grid cell. -/
def gridRect (layout : LayoutConfig K) (index : Nat) (width height : K) : Rect K :=
  ⟨(gridPosition layout index).x, (gridPosition layout index).y, width, height⟩

/-- Whether a size fits into the gaps between the corners of the cells. -/
structure LayoutConfig.Fits (layout : LayoutConfig K) (width height : K) : Prop where
  /-- The width is positive and at most the distance of two columns. -/
  width : 0 < width ∧ width ≤ layout.gapX
  /-- The height is positive and at most the distance of two rows. -/
  height : 0 < height ∧ height ≤ layout.gapY

/-- **In different cells stand rectangles apart**, if both fit. -/
theorem isApart_of_cell_ne {layout : LayoutConfig K} {i j : Nat} (hij : i ≠ j) {w h w' h' : K}
    (hfit : layout.Fits w h) (hfit' : layout.Fits w' h') :
    (gridRect layout i w h).IsApart (gridRect layout j w' h') := by
  by_cases hcolumn : i % layout.columns = j % layout.columns
  · -- In one column the rows differ, for the index is told by both.
    have hrow : i / layout.columns ≠ j / layout.columns := fun hrow => hij <| by
      rw [← Nat.div_add_mod i layout.columns, hrow, hcolumn, Nat.div_add_mod]
    exact .inr (cells_apart hfit.height hfit'.height layout.origin hrow)
  · exact .inl (cells_apart hfit.width hfit'.width layout.origin hcolumn)

variable (layout : LayoutConfig K) (num : Mixed → K)

/-- **Tables on the grid do not overlap.** Where no table sets a position and every table fits into
the gaps, each has a box, and the boxes of any two tables have no inner point in common, however
many tables and columns there are. -/
theorem estimatedRects_disjoint (schema : Schema) (hnodup : (schema.tables.map (·.id)).Nodup)
    (hunset : ∀ t ∈ schema.tables, t.x = none ∧ t.y = none)
    (hfits : ∀ t ∈ schema.tables, layout.Fits (tableWidth layout num t) (tableHeight layout t)) :
    ∀ (i j : Nat) (t u : Table), i ≠ j → schema.tables[i]? = some t → schema.tables[j]? = some u →
      ∃ r s, schema.estimatedRects layout num (tableAnchor t.id) = some r ∧
        schema.estimatedRects layout num (tableAnchor u.id) = some s ∧
        Disjoint r.interior s.interior := by
  intro i j t u hij ht hu
  -- Without a position the table stands in the cell of its index.
  have hbox : ∀ index v, schema.tables[index]? = some v →
      schema.estimatedRects layout num (tableAnchor v.id)
        = some (gridRect layout index (tableWidth layout num v) (tableHeight layout v)) := by
    intro index v hv
    rw [estimatedRects_tableAnchor layout num hnodup hv,
      tableCorner_of_unset layout num (hunset v (List.mem_of_getElem? hv))]
    rfl
  -- Different indexes have different cells, and each table fits into its own.
  refine ⟨_, _, hbox i t ht, hbox j u hu, Rect.IsApart.disjoint ?_⟩
  exact isApart_of_cell_ne hij (hfits t (List.mem_of_getElem? ht))
    (hfits u (List.mem_of_getElem? hu))

end Cells

/-- Five tables on two rows of the grid. One of them is as wide as the distance of two columns, and
one sets a width of zero. -/
def shelf : Text :=
  "Table a [width: 350] \x7b id int \x7d
Table b \x7b
  id int
  a_id int
\x7d
Table c [width: 0] \x7b \x7d
Table d \x7b id int \x7d
Note n [x: 60, y: 60] \x7b 'text' \x7d
Table e \x7b id int \x7d".toList

/-- The widest table of the shelf only touches the next one. -/
theorem estimatedRects_disjoint_shelf :
    let schema := readSchema shelf
    (schema.tables.map (·.id)).Nodup ∧ (∀ t ∈ schema.tables, t.x = none ∧ t.y = none) ∧
      (∀ t ∈ schema.tables,
      plainSizes.Fits (tableWidth plainSizes exactWhole t) (tableHeight plainSizes t)) ∧
      ∃ a b r s, schema.tables[0]? = some a ∧ schema.tables[1]? = some b ∧
        schema.estimatedRects plainSizes exactWhole (tableAnchor a.id) = some r ∧
        schema.estimatedRects plainSizes exactWhole (tableAnchor b.id) = some s ∧
        Disjoint r.interior s.interior := by
  intro schema
  obtain ⟨hnodup, hunset, hsizes, hlength⟩ : (schema.tables.map (·.id)).Nodup ∧
      (∀ t ∈ schema.tables, t.x = none ∧ t.y = none) ∧
      (∀ t ∈ schema.tables,
        (0 < tableWidth plainSizes exactWhole t ∧
        tableWidth plainSizes exactWhole t ≤ plainSizes.gapX) ∧
          0 < tableHeight plainSizes t ∧ tableHeight plainSizes t ≤ plainSizes.gapY) ∧
      schema.tables.length = 5 := by decide +kernel
  have hfits := fun t ht => LayoutConfig.Fits.mk (hsizes t ht).1 (hsizes t ht).2
  have ha : schema.tables[0]? = some schema.tables[0] := List.getElem?_eq_getElem _
  have hb : schema.tables[1]? = some schema.tables[1] := List.getElem?_eq_getElem _
  obtain ⟨r, s, hr, hs, happart⟩ :=
    estimatedRects_disjoint plainSizes exactWhole schema hnodup hunset hfits
    0 1 _ _ (by decide) ha hb
  exact ⟨hnodup, hunset, hfits, _, _, r, s, ha, hb, hr, hs, happart⟩

end SchemaDiagram
