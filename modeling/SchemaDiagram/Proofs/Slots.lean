import Mathlib.Algebra.Order.Field.Rat
import SchemaDiagram.Proofs.FreshIds
import SchemaDiagram.Proofs.PathEnds

/-! # Slots of an anchor

The ends that share an anchor stand in one row, in the order of the middles of their other ends.
Each of them has a slot of its own, the slots are spread evenly over the row, and a glyph is pushed
out further than the glyphs of other kinds before it, unless a glyph of its kind is among those.

* **`IsFirstLabel`** — the glyph at an end is the first of its kind.
* **`Slotted`** — the ends of an anchor with their slots.
* **`route_slotted`** — the ends of every anchor have their slots so. -/

namespace SchemaDiagram

/-! ## Glyphs in a row -/

/-- The glyph at a place is there and is the first of its kind. -/
def IsFirstAt (glyphs : List Text) (i : Nat) : Prop := ∃ g ∈ glyphs[i]?, g ≠ [] ∧ g ∉ glyphs.take i

instance (glyphs : List Text) (i : Nat) : Decidable (IsFirstAt glyphs i) :=
  inferInstanceAs (Decidable (∃ g ∈ glyphs[i]?, g ≠ [] ∧ g ∉ glyphs.take i))

/-- A glyph stands first at its index when no equal one stands before it. -/
theorem isFirstAt_of_lt {glyphs : List Text} {i : Nat} (hi : i < glyphs.length) :
    IsFirstAt glyphs i ↔ glyphs[i] ≠ [] ∧ glyphs[i] ∉ glyphs.take i := by
  simp [IsFirstAt, List.getElem?_eq_getElem hi]

/-- With a glyph of a new kind there is one kind more. -/
theorem glyphCount_append (glyphs : List Text) (g : Text) :
    glyphCount (glyphs ++ [g]) = glyphCount glyphs + if g ≠ [] ∧ g ∉ glyphs then 1 else 0 := by
  unfold glyphCount
  rw [List.filter_append, List.eraseDups_append, List.length_append]
  congr 1
  by_cases hg : g = []
  · simp [hg, List.removeAll]
  · by_cases hmem : g ∈ glyphs <;> simp [hg, hmem, List.removeAll, List.eraseDups_cons]

/-- There are as many kinds of glyphs as first glyphs of a kind. -/
theorem glyphCount_take {glyphs : List Text} {i : Nat} (hi : i ≤ glyphs.length) :
    glyphCount (glyphs.take i) = (List.range i).countP fun k => decide (IsFirstAt glyphs k) := by
  induction i with
  | zero => rfl
  | succ i ih =>
    rw [List.take_add_one, List.getElem?_eq_getElem hi, Option.toList_some, glyphCount_append,
      ih (Nat.le_of_lt hi), List.range_succ, List.countP_append, List.countP_singleton]
    simp only [isFirstAt_of_lt hi, decide_eq_true_eq]

/-- Indexes below a bound are counted among those up to it only. -/
theorem countP_range_of_le {p : Nat → Bool} {i n : Nat} (h : i ≤ n) :
    (List.range n).countP (fun k => p k && decide (k < i)) = (List.range i).countP p := by
  obtain ⟨d, rfl⟩ := Nat.exists_eq_add_of_le h
  rw [List.range_add, List.countP_append, List.countP_map]
  have hlater : (List.range d).countP ((fun k => p k && decide (k < i)) ∘ (i + ·)) = 0 :=
    List.countP_eq_zero.2 fun k _ => by simp
  rw [hlater, Nat.add_zero]
  exact List.countP_congr fun k hk => by simp [List.mem_range.1 hk]

/-! ## The ends of an anchor -/

section Groups

variable {K : Type}

/-- The glyph that is shown at an end. -/
def PathEnd.glyph? (e : PathEnd K) : Option Text := e.label.map (·.text)

/-- **The glyph at an end is the first of its kind**: no end in an earlier slot shows it. -/
def IsFirstLabel (group : List (PathEnd K)) (e : PathEnd K) : Prop :=
  e.glyph?.isSome ∧ ∀ f ∈ group, f.slot.index < e.slot.index → f.glyph? ≠ e.glyph?

instance (group : List (PathEnd K)) (e : PathEnd K) : Decidable (IsFirstLabel group e) :=
  inferInstanceAs (Decidable (_ ∧ ∀ f ∈ group, f.slot.index < e.slot.index → f.glyph? ≠ e.glyph?))

namespace RoutingResult

variable [LT K] [DecidableLT K] {r : RoutingResult K} {anchor : Text}

/-- The glyphs of the ends that share an anchor, in the order of their slots. -/
def glyphsAt (r : RoutingResult K) (anchor : Text) : List Text :=
  (anchorGroup r.attachedEnds anchor).map (·.1.glyph)

/-- An anchor has as many attached ends as ends. -/
theorem length_anchorGroup :
    (anchorGroup r.attachedEnds anchor).length = (r.endsAt anchor).length :=
  (length_arrange ..).trans (length_attachedGroup r (isAt anchor))

variable (r anchor) in
/-- An anchor has as many glyphs as ends. -/
theorem length_glyphsAt : (r.glyphsAt anchor).length = (r.endsAt anchor).length := by
  rw [glyphsAt, List.length_map, length_anchorGroup]

variable [Add K] [Sub K] [Mul K] [Div K] [NatCast K] (hdrawn : r.IsDrawn)
include hdrawn

/-- The slot of an end is the one of its place at the anchor. -/
theorem slot_placedGroup {x : PathEnd K × Nat} (hx : x ∈ r.placedGroup (isAt anchor)) :
    x.1.slot = slotOf r.attachedEnds x.1.attached x.2 ∧ x.1.attached.anchor = anchor := by
  obtain ⟨hmem, hanchor⟩ := List.mem_filter.1 hx
  exact ⟨(hdrawn x hmem).slot, of_decide_eq_true hanchor⟩

/-- The slot of an end is its index among the arranged ends. -/
theorem index_placedGroup {x : PathEnd K × Nat} (hx : x ∈ r.placedGroup (isAt anchor)) :
    x.1.slot.index = placeAmong (anchorGroup r.attachedEnds anchor) x.2 := by
  obtain ⟨hslot, rfl⟩ := slot_placedGroup hdrawn hx
  rw [hslot]
  rfl

/-- Every end at an anchor knows how many there are. -/
theorem total_endsAt {e : PathEnd K} (he : e ∈ r.endsAt anchor) :
    e.slot.total = (r.endsAt anchor).length := by
  obtain ⟨place, hx⟩ := exists_mem_placedGroup he
  obtain ⟨hslot, rfl⟩ := slot_placedGroup hdrawn hx
  rw [hslot, ← length_anchorGroup]
  rfl

/-- Every slot is that of one end. -/
theorem perm_index_endsAt :
    ((r.endsAt anchor).map (·.slot.index)).Perm (List.range (r.endsAt anchor).length) := by
  refine List.Perm.trans (List.Perm.of_eq ?_) (r.perm_placeAmong_group (isAt anchor)
    fun x y => decide (x.1.otherY < y.1.otherY))
  rw [endsAt, ← map_fst_placedGroup, List.map_map]
  exact List.map_congr_left fun x hx => index_placedGroup hdrawn hx

/-- The index of an end is below the number of ends. -/
theorem index_lt {e : PathEnd K} (he : e ∈ r.endsAt anchor) :
    e.slot.index < (r.endsAt anchor).length :=
  List.mem_range.1 ((perm_index_endsAt hdrawn).subset (List.mem_map_of_mem he))

/-- Every index below the number of ends is that of an end. -/
theorem exists_index {i : Nat} (hi : i < (r.endsAt anchor).length) :
    ∃ e ∈ r.endsAt anchor, e.slot.index = i :=
  List.mem_map.1 ((perm_index_endsAt hdrawn).symm.subset (List.mem_range.2 hi))

/-! ## Glyphs that are pushed out -/

/-- The glyph of an end stands at its slot. -/
theorem getElem?_glyphsAt {e : PathEnd K} (he : e ∈ r.endsAt anchor) :
    (r.glyphsAt anchor)[e.slot.index]? = some e.attached.glyph := by
  obtain ⟨place, hx⟩ := exists_mem_placedGroup he
  rw [glyphsAt, List.getElem?_map, index_placedGroup hdrawn hx]
  exact congrArg (Option.map (·.1.glyph)) (getElem?_placeAmong_group _ hx)

/-- An end shows the glyph of its attached end, unless there is none. -/
theorem glyph?_endsAt {e : PathEnd K} (he : e ∈ r.endsAt anchor) :
    e.glyph? = if e.attached.glyph = [] then none else some e.attached.glyph := by
  obtain ⟨place, hx⟩ := exists_mem_placedGroup he
  have hlabel := congrArg (Option.map Prod.fst) (hdrawn _ (List.mem_of_mem_filter hx)).label
  rw [Option.map_map] at hlabel
  refine Eq.trans hlabel ?_
  split <;> rfl

/-- The glyphs before a slot are those of the ends in earlier slots. -/
theorem mem_take_glyphsAt {g : Text} {i : Nat} :
    g ∈ (r.glyphsAt anchor).take i ↔
    ∃ f ∈ r.endsAt anchor, f.slot.index < i ∧ f.attached.glyph = g := by
  rw [List.mem_iff_getElem?]
  simp only [List.getElem?_take, Option.ite_none_right_eq_some]
  constructor
  · rintro ⟨k, hk, hkth⟩
    obtain ⟨hlt, -⟩ := List.getElem?_eq_some_iff.1 hkth
    obtain ⟨f, hf, rfl⟩ := exists_index hdrawn (length_glyphsAt r anchor ▸ hlt)
    exact ⟨f, hf, hk, Option.some.inj ((getElem?_glyphsAt hdrawn hf).symm.trans hkth)⟩
  · rintro ⟨f, hf, hk, rfl⟩
    exact ⟨f.slot.index, hk, getElem?_glyphsAt hdrawn hf⟩

/-- Which glyphs are the first of their kind. -/
theorem isFirstLabel_iff {e : PathEnd K} (he : e ∈ r.endsAt anchor) :
    IsFirstLabel (r.endsAt anchor) e ↔ e.attached.glyph ≠ [] ∧
      e.attached.glyph ∉ (r.glyphsAt anchor).take e.slot.index := by
  rw [IsFirstLabel, glyph?_endsAt hdrawn he, mem_take_glyphsAt hdrawn]
  by_cases hempty : e.attached.glyph = []
  · simp [hempty]
  rw [if_neg hempty]
  refine and_congr (iff_of_true rfl hempty) ⟨?_, fun hfirst f hf hbefore heq => ?_⟩
  · rintro hfirst ⟨f, hf, hbefore, heq⟩
    refine hfirst f hf hbefore ?_
    rw [glyph?_endsAt hdrawn hf, heq, if_neg hempty]
  · rw [glyph?_endsAt hdrawn hf, Option.ite_none_left_eq_some, Option.some.injEq] at heq
    exact hfirst ⟨f, hf, hbefore, heq.2⟩

/-- The glyph of an end stands first at its index when no end before it has the same label. -/
theorem isFirstAt_iff {e : PathEnd K} (he : e ∈ r.endsAt anchor) :
    IsFirstAt (r.glyphsAt anchor) e.slot.index ↔ IsFirstLabel (r.endsAt anchor) e := by
  rw [isFirstLabel_iff hdrawn he, IsFirstAt, getElem?_glyphsAt hdrawn he]
  simp

/-- The kinds of glyphs before a slot are counted by the first glyphs in earlier slots. -/
theorem glyphCount_glyphsAt {i : Nat} (hi : i ≤ (r.endsAt anchor).length) :
    glyphCount ((r.glyphsAt anchor).take i) = (r.endsAt anchor).countP fun f =>
      decide (IsFirstLabel (r.endsAt anchor) f ∧ f.slot.index < i) := by
  -- The slots are numbered without gaps, so counting slots is counting ends.
  calc glyphCount ((r.glyphsAt anchor).take i)
      = (List.range i).countP fun k => decide (IsFirstAt (r.glyphsAt anchor) k) :=
        glyphCount_take ((length_glyphsAt r anchor).symm ▸ hi)
    _ = (List.range (r.endsAt anchor).length).countP fun k =>
          decide (IsFirstAt (r.glyphsAt anchor) k) && decide (k < i) := (countP_range_of_le hi).symm
    _ = ((r.endsAt anchor).map (·.slot.index)).countP fun k =>
          decide (IsFirstAt (r.glyphsAt anchor) k) && decide (k < i) :=
        ((perm_index_endsAt hdrawn).countP_eq _).symm
    _ = (r.endsAt anchor).countP fun f => decide (IsFirstLabel (r.endsAt anchor) f ∧
      f.slot.index < i) := by
        rw [List.countP_map]
        refine List.countP_congr fun f hf => ?_
        simp only [Function.comp_apply, Bool.and_eq_true, decide_eq_true_eq,
          isFirstAt_iff hdrawn hf]

/-- How far a slot pushes its glyph out. -/
theorem stagger_slot {e : PathEnd K} (he : e ∈ r.endsAt anchor) : e.slot.stagger =
    if e.attached.glyph = [] ∨ e.attached.glyph ∈ (r.glyphsAt anchor).take e.slot.index then 0
    else glyphCount ((r.glyphsAt anchor).take e.slot.index) := by
  obtain ⟨place, hx⟩ := exists_mem_placedGroup he
  rw [glyphsAt, ← List.map_take, index_placedGroup hdrawn hx]
  obtain ⟨hslot, rfl⟩ := slot_placedGroup hdrawn hx
  rw [hslot]
  rfl

/-- How far a glyph is pushed out. -/
theorem stagger_label {e : PathEnd K} (he : e ∈ r.endsAt anchor) {label : ConnectionLabel K}
    (hlabel : label ∈ e.label) : label.stagger =
      if IsFirstLabel (r.endsAt anchor) e
        then (r.endsAt anchor).countP fun f =>
          decide (IsFirstLabel (r.endsAt anchor) f ∧ f.slot.index < e.slot.index) else 0 := by
  obtain ⟨place, hx⟩ := exists_mem_placedGroup he
  have hshown := (hdrawn _ (List.mem_of_mem_filter hx)).label
  -- The label is the one that is drawn, with the stagger of the slot.
  rw [Option.mem_def.1 hlabel, Option.map_some, eq_comm, Option.ite_none_left_eq_some] at hshown
  obtain ⟨hglyph, hshown⟩ := hshown
  obtain ⟨-, hstagger⟩ := Prod.mk.inj (Option.some.inj hshown)
  rw [← hstagger, stagger_slot hdrawn he,
    glyphCount_glyphsAt hdrawn (Nat.le_of_lt (index_lt hdrawn he))]
  simp only [isFirstLabel_iff hdrawn he, hglyph, false_or, ne_eq, not_false_eq_true, true_and,
    ite_not]

end RoutingResult

/-! ## Heights -/

section Exact

variable [DivisionRing K] [LinearOrder K]

/-- **The ends of an anchor with their slots.** -/
structure Slotted (group : List (PathEnd K)) : Prop where
  /-- Every end knows how many there are. -/
  total : ∀ e ∈ group, e.slot.total = group.length
  /-- Every slot is that of one end. -/
  perm : (group.map (·.slot.index)).Perm (List.range group.length)
  /-- The slots follow the middles of the other ends; of two that are level, the end that comes
  first in the order of the paths has the lower slot. -/
  order : group.Pairwise fun e f => e.slot.index < f.slot.index ↔ e.other.centerY ≤ f.other.centerY
  /-- All ends stand in the same row. -/
  row : ∀ e ∈ group, ∀ f ∈ group, e.attached.rect = f.attached.rect
  /-- The slots are spread evenly over the row. -/
  height : ∀ e ∈ group, e.point.y = e.attached.rect.y
    + e.attached.rect.height * ((e.slot.index : K) + 1) / ((group.length : K) + 1)
  /-- They lie inside the row, if that has a height. -/
  inside : ∀ e ∈ group, 0 < e.attached.rect.height →
    e.attached.rect.y < e.point.y ∧ e.point.y < e.attached.rect.y + e.attached.rect.height
  /-- No two ends stand at the same height then. -/
  apart : group.Pairwise fun e f => 0 < e.attached.rect.height → e.point.y ≠ f.point.y
  /-- The first glyph of each kind is pushed out one step further than the first glyphs before it,
  and every other glyph is not pushed out. -/
  stagger : ∀ e ∈ group, ∀ label ∈ e.label, label.stagger =
    if IsFirstLabel group e
      then group.countP fun f => decide (IsFirstLabel group f ∧ f.slot.index < e.slot.index) else 0

namespace RoutingResult

variable {r : RoutingResult K} {anchor : Text} (hdrawn : r.IsDrawn)
include hdrawn

/-- The height of an end is the part of its row that its index tells. -/
theorem height_endsAt {e : PathEnd K} (he : e ∈ r.endsAt anchor) : e.point.y = e.attached.rect.y
    + e.attached.rect.height * ((e.slot.index : K) + 1) / (((r.endsAt anchor).length : K) + 1) := by
  obtain ⟨place, hx⟩ := exists_mem_placedGroup he
  rw [(hdrawn _ (List.mem_of_mem_filter hx)).point, ← total_endsAt hdrawn he, ← Nat.cast_succ,
    ← Nat.cast_succ]
  rfl

/-- The slots are in the order of the other ends. -/
theorem pairwise_index_endsAt :
    (r.endsAt anchor).Pairwise fun e f =>
      e.slot.index < f.slot.index ↔ e.other.centerY ≤ f.other.centerY := by
  have horder := r.pairwise_placeAmong_group (isAt anchor)
    (fun x y => decide (x.1.otherY < y.1.otherY)) (·.otherY) fun x _ y _ => decide_eq_true_iff
  rw [endsAt, ← map_fst_placedGroup, List.pairwise_map]
  refine horder.imp_of_mem fun {x y} hx hy hxy => ?_
  rw [index_placedGroup hdrawn hx, index_placedGroup hdrawn hy,
    ← (hdrawn _ (List.mem_of_mem_filter hx)).otherY,
    ← (hdrawn _ (List.mem_of_mem_filter hy)).otherY]
  exact hxy

variable [IsStrictOrderedRing K]

omit hdrawn in
/-- A slot lies inside the row. -/
theorem slotHeight_mem {y height : K} {i n : Nat} (hheight : 0 < height) (hi : i < n) :
    y < y + height * ((i : K) + 1) / ((n : K) + 1) ∧
      y + height * ((i : K) + 1) / ((n : K) + 1) < y + height := by
  have hn : (0 : K) < (n : K) + 1 := Nat.cast_add_one_pos n
  have hin : (i : K) + 1 < (n : K) + 1 := by exact_mod_cast Nat.succ_lt_succ hi
  refine ⟨lt_add_of_pos_right _ (div_pos (mul_pos hheight (Nat.cast_add_one_pos i)) hn), ?_⟩
  have hpart := div_lt_div_of_pos_right (mul_lt_mul_of_pos_left hin hheight) hn
  rw [mul_div_cancel_right₀ _ hn.ne'] at hpart
  gcongr

omit hdrawn in
/-- Slots further down are at greater heights. -/
theorem slotHeight_lt {y height : K} {i j n : Nat} (hheight : 0 < height) (hij : i < j) :
    y + height * ((i : K) + 1) / ((n : K) + 1) < y + height * ((j : K) + 1) / ((n : K) + 1) := by
  have hn : (0 : K) < (n : K) + 1 := Nat.cast_add_one_pos n
  gcongr

/-- The ends of an anchor are slotted, if they stand in one row. -/
theorem slotted_endsAt
    (hrow : ∀ e ∈ r.endsAt anchor, ∀ f ∈ r.endsAt anchor, e.attached.rect = f.attached.rect) :
    Slotted (r.endsAt anchor) where
  total _ he := total_endsAt hdrawn he
  perm := perm_index_endsAt hdrawn
  order := pairwise_index_endsAt hdrawn
  row := hrow
  height _ he := height_endsAt hdrawn he
  inside e he hheight := height_endsAt hdrawn he ▸ slotHeight_mem hheight (index_lt hdrawn he)
  apart := by
    -- Two ends have different slots, and slots are at different heights of one row.
    have hnodup : (r.endsAt anchor).Pairwise (·.slot.index ≠ ·.slot.index) :=
      List.pairwise_map.1 ((perm_index_endsAt hdrawn).nodup_iff.2 List.nodup_range)
    refine hnodup.imp_of_mem fun {e f} he hf hne hheight heq => ?_
    rw [height_endsAt hdrawn he, height_endsAt hdrawn hf, ← hrow e he f hf] at heq
    obtain hlt | hlt := Nat.lt_or_gt_of_ne hne
    · exact (slotHeight_lt hheight hlt).ne heq
    · exact (slotHeight_lt hheight hlt).ne heq.symm
  stagger _ he _ hlabel := stagger_label hdrawn he hlabel

end RoutingResult

variable [Metric K]

/-- Ends of one anchor stand in one row, if the tables have identifiers. -/
theorem rect_eq_of_anchor {config : RouterConfig K} {rects : Text → Option (Rect K)}
    {style : LineStyle}
    {schema : Option Schema} {relationships : List Relationship} {e f : PathEnd K}
    (hids : ∀ s ∈ schema, ∀ t ∈ s.tables, IsIdentifier t.id)
    (he : e ∈ (route config rects style schema relationships).ends)
    (hf : f ∈ (route config rects style schema relationships).ends)
    (heq : e.attached.anchor = f.attached.anchor) : e.attached.rect = f.attached.rect := by
  obtain ⟨table, column, hanchor, hmeasure⟩ :=
    measured_route config style schema rects relationships he
  obtain ⟨table', column', hanchor', hmeasure'⟩ :=
    measured_route config style schema rects relationships hf
  -- Equal anchors belong to one column of one table.
  rw [hanchor, hanchor'] at heq
  obtain ⟨hid, rfl⟩ := columnAnchor_inj (isIdentifier_tableIdOf hids table)
    (isIdentifier_tableIdOf hids table') heq
  exact Option.some.inj (hmeasure.symm.trans (hid ▸ hmeasure'))

variable [IsStrictOrderedRing K]

/-- **The ends of every anchor have their slots** in the order of their other ends, spread evenly
over their row. -/
theorem route_slotted (config : RouterConfig K) (rects : Text → Option (Rect K)) (style : LineStyle)
    (schema : Option Schema) (relationships : List Relationship)
    (hids : ∀ s ∈ schema, ∀ t ∈ s.tables, IsIdentifier t.id) (anchor : Text) :
    Slotted ((route config rects style schema relationships).endsAt anchor) := by
  refine RoutingResult.slotted_endsAt (isDrawn_route config style schema rects relationships)
    fun e he f hf => ?_
  obtain ⟨hmem, hanchor⟩ := List.mem_filter.1 he
  obtain ⟨hmem', hanchor'⟩ := List.mem_filter.1 hf
  exact rect_eq_of_anchor hids hmem hmem'
    ((of_decide_eq_true hanchor).trans (of_decide_eq_true hanchor').symm)

end Exact

end Groups

/-- The length of a rational vector, measured along the axes. The runs off an end are level, and of
a level vector this is the length. -/
instance : Metric ℚ := ⟨fun dx dy => |dx| + |dy|⟩

/-- The distances that routing works with where none are given. -/
def plainDistances : RouterConfig ℚ := ⟨15, 40, 12, 25, 16, 15, 40, 2 / 5⟩

/-- A table that others refer to, and that refers to itself. -/
def fan : Text :=
  "Table users \x7b
  id int
  boss int
\x7d
Table posts \x7b author int \x7d
Table comments \x7b author int \x7d".toList

/-- The references to it. -/
def fanReferences : List Relationship :=
  [⟨"users", ["boss"], "users", ["id"], .manyToOne, [], none⟩,
    ⟨"posts", ["author"], "users", ["id"], .manyToOne, [], none⟩,
    ⟨"comments", ["author"], "users", ["id"], .manyToMany, [], none⟩]

/-- Where the columns of the fan are drawn. -/
def fanRects (id : Text) : Option (Rect ℚ) :=
  List.lookup id [("col-users-id".toList, ⟨0, 30, 200, 30⟩),
    ("col-users-boss".toList, ⟨0, 60, 200, 30⟩), ("col-posts-author".toList, ⟨400, 290, 200, 20⟩),
    ("col-comments-author".toList, ⟨400, 90, 200, 20⟩)]

/-- The ends at a column of the fan. -/
theorem route_slotted_fan : (∀ s ∈ some (readSchema fan), ∀ t ∈ s.tables, IsIdentifier t.id) ∧
    let group := (route plainDistances fanRects .curve (some (readSchema fan)) fanReferences).endsAt
      "col-users-id".toList
    (group.map fun e => (e.slot.index, e.point.y, e.label.map (·.stagger)))
      = [(0, 75 / 2, some 0), (2, 105 / 2, some 0), (1, 45, some 1)] ∧ Slotted group := by
  have hids : ∀ s ∈ some (readSchema fan), ∀ t ∈ s.tables, IsIdentifier t.id := by
    intro s hs t ht
    rw [← Option.some.inj hs] at ht
    exact isIdentifier_readSchema ht
  refine ⟨hids, ?_,
    route_slotted plainDistances fanRects .curve _ fanReferences hids "col-users-id".toList⟩
  decide +kernel

end SchemaDiagram
