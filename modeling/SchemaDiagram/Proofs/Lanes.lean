import SchemaDiagram.Proofs.Slots

/-! # Lanes of a table side

The ends on one side of a table have lanes of their own, whatever the comparison of their heights
comes to. Rows within one unit of each other are compared by their other ends, which need not fit
the order of rows that are further apart. Where all rows are level or further apart than that, the
lanes follow the heights of the rows, and the other ends within a row.

* **`GoesDown`** — the ends of a group lead down on the average.
* **`LanesFollow`** — the lanes of a group are in the order of its ends.
* **`route_lanes`** — every lane is that of one end, and the lanes follow the ends. -/

namespace SchemaDiagram

/-- Numbers counted from the other end are the same numbers. -/
theorem perm_range_reverse {l : List Nat} {n : Nat} (h : l.Perm (List.range n)) :
    (l.map fun i => n - 1 - i).Perm (List.range n) := by
  refine (h.map _).trans (List.Perm.trans (List.Perm.of_eq ?_) (List.reverse_perm (List.range n)))
  rw [List.range_eq_range', List.reverse_range']
  simp [List.range_eq_range']

section Groups

variable {K : Type}

/-- The lane of an end is told by its index among the ends of its group. -/
theorem laneOf_group [Add K] [Sub K] [Div K] [NatCast K] [LT K] [DecidableLT K]
    (ends : List (ConnectionEnd K)) (e : ConnectionEnd K) (place : Nat) : laneOf ends e place =
      if (ends.zipIdx.filter fun x => isOn e.tableAnchor e.side x.1).length ≤ 1 then 0
      else if mean ((ends.zipIdx.filter fun x => isOn e.tableAnchor e.side x.1).map (·.1.rect.y))
          < mean ((ends.zipIdx.filter fun x => isOn e.tableAnchor e.side x.1).map (·.1.otherY))
        then (ends.zipIdx.filter fun x => isOn e.tableAnchor e.side x.1).length - 1
          - placeAmong (arrange (fun a b => isAbove a.1 b.1)
              (ends.zipIdx.filter fun x => isOn e.tableAnchor e.side x.1)) place
        else placeAmong (arrange (fun a b => isAbove a.1 b.1)
          (ends.zipIdx.filter fun x => isOn e.tableAnchor e.side x.1)) place :=
  rfl

/-- The rows of the ends of a group. -/
def rowsOf (group : List (PathEnd K)) : List K := group.map (·.attached.rect.y)

/-- The rows of the attached ends are those of the group. -/
theorem RoutingResult.rows_attachedGroup (r : RoutingResult K) (inGroup : ConnectionEnd K → Bool) :
    (r.attachedGroup inGroup).map (·.1.rect.y) = rowsOf (r.group inGroup) := by
  rw [rowsOf, ← map_attached_placedGroup, ← map_fst_placedGroup, List.map_map, List.map_map]
  rfl

section Down

variable [Add K] [Div K] [NatCast K]

/-- The middles of the other ends of a group. -/
def othersOf (group : List (PathEnd K)) : List K := group.map (·.other.centerY)

variable [LT K]

/-- **A group leads down**: its own rows lie above the middles of its other ends, on the average. -/
def GoesDown (group : List (PathEnd K)) : Prop := mean (rowsOf group) < mean (othersOf group)

instance [DecidableLT K] (group : List (PathEnd K)) : Decidable (GoesDown group) :=
  inferInstanceAs (Decidable (_ < _))

end Down

namespace RoutingResult

variable [NatCast K] [Sub K] [LT K] [DecidableLT K] {r : RoutingResult K} {table : Text}
    {side : Side}

/-- The ends on a side of a table from top to bottom. -/
def endsDown (r : RoutingResult K) (table : Text) (side : Side) : List (ConnectionEnd K × Nat) :=
  arrange (fun a b => isAbove a.1 b.1)
    (r.attachedGroup (isOn table side))

/-- The index of an end that stands in a group is below the size of the group. -/
theorem placeAmong_endsDown_lt {x : PathEnd K × Nat}
    (hx : x ∈ r.placedGroup (isOn table side)) :
    placeAmong (r.endsDown table side) x.2 < (r.endsOn table side).length := by
  obtain ⟨hlt, -⟩ := List.getElem?_eq_some_iff.1
    (getElem?_placeAmong_group (fun a b => isAbove a.1 b.1) hx)
  rwa [length_arrange, length_attachedGroup] at hlt

variable [Add K] [Mul K] [Div K] (hdrawn : r.IsDrawn)
include hdrawn

/-- The other heights of the attached ends are those of the group. -/
theorem others_attachedGroup (inGroup : ConnectionEnd K → Bool) :
    (r.attachedGroup inGroup).map (·.1.otherY) = othersOf (r.group inGroup) := by
  rw [othersOf, ← map_attached_placedGroup, ← map_fst_placedGroup, List.map_map, List.map_map]
  exact List.map_congr_left fun x hx => (hdrawn x (List.mem_of_mem_filter hx)).otherY

/-- The lane of an end is its index from the top or from the bottom. -/
theorem lane_placedGroup {x : PathEnd K × Nat}
    (hx : x ∈ r.placedGroup (isOn table side)) :
    x.1.lane = if GoesDown (r.endsOn table side)
      then (r.endsOn table side).length - 1 - placeAmong (r.endsDown table side) x.2
      else placeAmong (r.endsDown table side) x.2 := by
  have hlt := placeAmong_endsDown_lt hx
  obtain ⟨hmem, hgroup⟩ := List.mem_filter.1 hx
  obtain ⟨htable, hside⟩ := of_decide_eq_true hgroup
  rw [(hdrawn x hmem).lane, laneOf_group, htable, hside]
  change (if (r.attachedGroup (isOn table side)).length ≤ 1 then 0
    else if mean ((r.attachedGroup (isOn table side)).map (·.1.rect.y))
        < mean ((r.attachedGroup (isOn table side)).map (·.1.otherY))
      then (r.attachedGroup (isOn table side)).length - 1 - placeAmong (r.endsDown table side) x.2
      else placeAmong (r.endsDown table side) x.2) = _
  rw [rows_attachedGroup, others_attachedGroup hdrawn, length_attachedGroup]
  by_cases hlone : (r.endsOn table side).length ≤ 1
  · -- A lone end has the index zero from both sides.
    refine (if_pos hlone).trans ?_
    split <;> omega
  · exact if_neg hlone

/-- **Every lane is that of one end.** -/
theorem perm_lane_endsOn :
    ((r.endsOn table side).map (·.lane)).Perm (List.range (r.endsOn table side).length) := by
  -- The indexes down the side are those of all ends, each once.
  have hindex := r.perm_placeAmong_group (isOn table side) fun a b => isAbove a.1 b.1
  have hlanes : (r.endsOn table side).map (·.lane) = (r.placedGroup (isOn table side)).map fun x =>
      if GoesDown (r.endsOn table side)
        then (r.endsOn table side).length - 1 - placeAmong (r.endsDown table side) x.2
        else placeAmong (r.endsDown table side) x.2 := by
    conv_lhs => rw [endsOn, ← map_fst_placedGroup, List.map_map]
    exact List.map_congr_left fun x hx => lane_placedGroup hdrawn hx
  rw [hlanes]
  by_cases hdown : GoesDown (r.endsOn table side)
  · simp only [if_pos hdown]
    -- In a group that leads down the lanes are counted from the other end.
    have hreverse := perm_range_reverse hindex
    rwa [List.map_map] at hreverse
  · simp only [if_neg hdown]
    exact hindex

/-- A lane is one of as many as there are ends. -/
theorem lane_lt {e : PathEnd K} (he : e ∈ r.endsOn table side) :
    e.lane < (r.endsOn table side).length :=
  List.mem_range.1 ((perm_lane_endsOn hdrawn).mem_iff.1 (List.mem_map_of_mem he))

end RoutingResult

/-! ## Lanes in order -/

section Order

variable [NatCast K] [Sub K] [LinearOrder K]

/-- **The rows of a group are level or more than one unit apart.** -/
def RowsApart (group : List (PathEnd K)) : Prop := ∀ e ∈ group, ∀ f ∈ group,
  e.attached.rect.y = f.attached.rect.y ∨
    ((1 : Nat) : K) < magnitude (e.attached.rect.y - f.attached.rect.y)

/-- Rows that are level or more than one unit apart are compared by their tops, and in a row by the
other ends. -/
theorem isAbove_iff (hself : ∀ y : K, ¬((1 : Nat) : K) < magnitude (y - y)) {a b : ConnectionEnd K}
    (h : a.rect.y = b.rect.y ∨ ((1 : Nat) : K) < magnitude (a.rect.y - b.rect.y)) :
    isAbove a b = true ↔ toLex (a.rect.y, a.otherY) < toLex (b.rect.y, b.otherY) := by
  rw [isAbove, Prod.Lex.toLex_lt_toLex]
  by_cases hfar : ((1 : Nat) : K) < magnitude (a.rect.y - b.rect.y)
  · have hne : a.rect.y ≠ b.rect.y := fun heq => by
      rw [heq] at hfar
      exact hself _ hfar
    rw [if_pos hfar, decide_eq_true_iff]
    simp [hne]
  · have heq := h.resolve_right hfar
    rw [if_neg hfar, decide_eq_true_iff]
    simp [heq]

variable [Add K] [Mul K] [Div K]

/-- How far down an end counts: by its row, and in a row by the middle of the other end. -/
def PathEnd.level (e : PathEnd K) : K ×ₗ K := toLex (e.attached.rect.y, e.other.centerY)

/-- **The lanes of a group are in the order of its ends**: from top to bottom they decrease if the
group leads down, and increase if it does not. Of two ends that are level, the one that comes first
in the order of the paths counts as the upper one. -/
def LanesFollow (group : List (PathEnd K)) : Prop := group.Pairwise fun e f =>
  ((if GoesDown group then f.lane < e.lane else e.lane < f.lane) ↔ e.level ≤ f.level)

variable {r : RoutingResult K} {table : Text} {side : Side}

/-- The lanes on a side of a table follow the rows that are apart. -/
theorem RoutingResult.lanesFollow_endsOn (hself : ∀ y : K, ¬((1 : Nat) : K) < magnitude (y - y))
    (hdrawn : r.IsDrawn) (hrows : RowsApart (r.endsOn table side)) :
      LanesFollow (r.endsOn table side) := by
  have hlevels : GoesBy (fun a b => isAbove a.1 b.1) (fun e => toLex (e.rect.y, e.otherY))
      (r.attachedGroup (isOn table side)) := by
    intro x hx y hy
    obtain ⟨e, he, hex⟩ := exists_of_mem_attachedGroup hx
    obtain ⟨f, hf, hfy⟩ := exists_of_mem_attachedGroup hy
    exact isAbove_iff hself (hex ▸ hfy ▸ hrows e he f hf)
  have horder := r.pairwise_placeAmong_group (isOn table side) _ _ hlevels
  unfold LanesFollow
  conv => arg 2; rw [endsOn, ← map_fst_placedGroup]
  rw [List.pairwise_map]
  refine horder.imp_of_mem fun {x y} hx hy hxy => ?_
  have hlevel : ∀ z ∈ r.placedGroup (isOn table side),
      z.1.level = toLex (z.1.attached.rect.y, z.1.attached.otherY) := fun z hz => by
    rw [PathEnd.level, (hdrawn z (List.mem_of_mem_filter hz)).otherY]
  rw [hlevel x hx, hlevel y hy, ← hxy, lane_placedGroup hdrawn hx, lane_placedGroup hdrawn hy]
  have hltx := placeAmong_endsDown_lt hx
  have hlty := placeAmong_endsDown_lt hy
  change _ ↔ placeAmong (r.endsDown table side) x.2 < placeAmong (r.endsDown table side) y.2
  -- Where the group leads down, the lanes count from its last end.
  split
  · omega
  · rfl

/-- The lane of one end counts as above that of another one: it lies further out in a group that
leads down, and further in in any other group. -/
def HasUpperLane (group : List (PathEnd K)) (e f : PathEnd K) : Prop :=
  if GoesDown group then f.lane < e.lane else e.lane < f.lane

/-- The lanes of rows at different heights are in the order of the rows. -/
theorem RoutingResult.hasUpperLane_endsOn (hself : ∀ y : K, ¬((1 : Nat) : K) < magnitude (y - y))
    (hdrawn : r.IsDrawn) (hrows : RowsApart (r.endsOn table side)) {e f : PathEnd K}
    (he : e ∈ r.endsOn table side) (hf : f ∈ r.endsOn table side)
    (hlt : e.attached.rect.y < f.attached.rect.y) : HasUpperLane (r.endsOn table side) e f := by
  have hlanes : (r.endsOn table side).Pairwise (·.lane ≠ ·.lane) :=
    List.pairwise_map.1 ((perm_lane_endsOn hdrawn).nodup_iff.2 List.nodup_range)
  have hfollow := lanesFollow_endsOn hself hdrawn hrows
  generalize r.endsOn table side = group at *
  -- Of two ends the one that comes first may be the upper one or the lower one.
  have hboth : group.Pairwise fun e f =>
      (e.level < f.level → HasUpperLane group e f) ∧
        (f.level < e.level → HasUpperLane group f e) := by
    refine (List.pairwise_and_iff.2 ⟨hlanes, hfollow⟩).imp fun {e f} ⟨hne, hiff⟩ =>
      ⟨fun hlt => hiff.2 hlt.le, fun hlt => ?_⟩
    have hnot := mt hiff.1 (not_le.2 hlt)
    unfold HasUpperLane
    split
    next hdown => rw [if_pos hdown] at hnot; omega
    next hdown => rw [if_neg hdown] at hnot; omega
  have hlevel : e.level < f.level := Prod.Lex.toLex_lt_toLex.2 (.inl hlt)
  have : Std.Symm fun e f : PathEnd K =>
      (e.level < f.level → HasUpperLane group e f) ∧ (f.level < e.level → HasUpperLane group f e) :=
    ⟨fun _ _ => And.symm⟩
  exact (hboth.forall he hf fun heq => hlevel.ne (heq ▸ rfl)).1 hlevel

end Order

end Groups

/-- In exact arithmetic a coordinate is not away from itself. -/
theorem not_one_lt_magnitude_sub_self {K : Type} [DivisionRing K] [LinearOrder K]
    [IsStrictOrderedRing K] (y : K) : ¬((1 : Nat) : K) < magnitude (y - y) := by
  simp [magnitude]

/-- **Every lane of a table side is that of one end**, in any arithmetic. **The lanes follow the
ends** where coordinates are linearly ordered, none is more than one unit away from itself, and the
rows are level or more than one unit apart. -/
theorem route_lanes :
    (∀ {K : Type} [Add K] [Sub K] [Mul K] [Div K] [NatCast K] [LT K] [DecidableLT K] [LE K]
      [DecidableLE K]
      [Metric K] (config : RouterConfig K) (rects : Text → Option (Rect K)) (style : LineStyle)
      (schema : Option Schema) (relationships : List Relationship) (table : Text) (side : Side),
      let group := (route config rects style schema relationships).endsOn table side
      (group.map (·.lane)).Perm (List.range group.length)) ∧
    (∀ {K : Type} [Add K] [Sub K] [Mul K] [Div K] [NatCast K] [LinearOrder K] [Metric K],
      (∀ y : K, ¬((1 : Nat) : K) < magnitude (y - y)) →
      ∀ (config : RouterConfig K) (rects : Text → Option (Rect K)) (style : LineStyle)
      (schema : Option Schema) (relationships : List Relationship) (table : Text) (side : Side),
      let group := (route config rects style schema relationships).endsOn table side
      RowsApart group → LanesFollow group) :=
  ⟨fun config rects style schema relationships _ _ =>
      RoutingResult.perm_lane_endsOn (isDrawn_route config style schema rects relationships),
    fun hself config rects style schema relationships _ _ hrows =>
      RoutingResult.lanesFollow_endsOn hself
        (isDrawn_route config style schema rects relationships) hrows⟩

/-- The ends on the right of a table that its fan leads down from. -/
theorem route_lanes_fan :
    let group :=
  (route plainDistances fanRects .curve none fanReferences).endsOn "table-users".toList .right
    (∀ y : ℚ, ¬((1 : Nat) : ℚ) < magnitude (y - y)) ∧ RowsApart group ∧
      GoesDown group ∧ (group.map (·.lane)) = [0, 3, 1, 2] ∧ LanesFollow group := by
  have hrows : RowsApart ((route plainDistances fanRects .curve none fanReferences).endsOn
      "table-users".toList .right) := by
    unfold RowsApart
    decide +kernel
  refine ⟨not_one_lt_magnitude_sub_self, hrows, by decide +kernel, by decide +kernel, ?_⟩
  exact route_lanes.2 not_one_lt_magnitude_sub_self plainDistances fanRects .curve none
    fanReferences _ _
    hrows

end SchemaDiagram
