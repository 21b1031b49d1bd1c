import Mathlib.Order.Interval.Set.UnorderedInterval
import SchemaDiagram.Proofs.Turning

/-! # Vertical runs

A path along the axes that is no U-turn leaves the rectangle further left on its right edge, enters
the one further right on its left edge, and has one vertical run. Its control points lie the same
distance off both ends, and further in by the lanes of these; the run lies half way between them. So
it is in the middle of the gap, moved by half of what the lanes of the two ends differ by: it stays
in the gap as long as the lanes differ by no more than the gap is wide, and two paths in one gap
have their runs at the same place where their lanes differ by the same.

* **`ConnectionPath.RunsAt`** — a path is drawn along the axes with its vertical run at a place.
* **`ConnectionPath.Across`** — a path leads across a gap.
* **`route_run_in_gap`** — where the vertical run of a path stays in the gap.
* **`ConnectionPath.SharesRun`** — two paths have a part of their vertical runs in common.
* **`route_sharesRun_iff`** — which paths between two tables have a part of their runs in common. -/

namespace SchemaDiagram

variable {K : Type}

namespace ConnectionPath

/-- **A path is drawn along the axes with its vertical run at `x`.** -/
def RunsAt (p : ConnectionPath K) (x : K) : Prop :=
  p.commands = [.moveTo p.start, .lineTo ⟨x, p.start.y⟩, .lineTo ⟨x, p.stop.y⟩, .lineTo p.stop]

instance [DecidableEq K] (p : ConnectionPath K) (x : K) : Decidable (p.RunsAt x) :=
  inferInstanceAs (Decidable (_ = _))

/-- The vertical run of a path has one place only. -/
theorem RunsAt.unique {p : ConnectionPath K} {x y : K} (hx : p.RunsAt x) (hy : p.RunsAt y) :
    x = y := by
  have heq := hx.symm.trans hy
  simp only [List.cons.injEq, PathCommand.lineTo, PathCommand.mk.injEq, Point.mk.injEq] at heq
  exact heq.2.1.2.2.1

/-- The end of a path at the rectangle further left. -/
def leftEnd (p : ConnectionPath K) : PathEnd K :=
  if p.connection.source.side = .right then p.fromEnd else p.toEnd

/-- The end of a path at the rectangle further right. -/
def rightEnd (p : ConnectionPath K) : PathEnd K :=
  if p.connection.source.side = .right then p.toEnd else p.fromEnd

/-- The left and the right end of a path are its two ends. -/
theorem leftEnd_rightEnd (p : ConnectionPath K) :
    p.leftEnd = p.fromEnd ∧ p.rightEnd = p.toEnd ∨ p.leftEnd = p.toEnd ∧
    p.rightEnd = p.fromEnd := by
  unfold leftEnd rightEnd
  split <;> simp

end ConnectionPath

/-- A line on the right side leaves at the right edge of the box. -/
theorem anchorPoint_x_of_right [Add K] [Mul K] [Div K] [NatCast K] {e : ConnectionEnd K}
    (h : e.side = .right) (slot : Slot) : (anchorPoint e slot).x = e.rect.right := by
  rw [anchorPoint, h]

/-- A line on the left side leaves at the left edge of the box. -/
theorem anchorPoint_x_of_left [Add K] [Mul K] [Div K] [NatCast K] {e : ConnectionEnd K}
    (h : e.side = .left) (slot : Slot) : (anchorPoint e slot).x = e.rect.x := by
  rw [anchorPoint, h]

/-! ## Paths across a gap -/

section Across

variable [DivisionRing K]

/-- The place of a vertical run: the middle between the ends, moved by half of what their lanes
differ by. -/
def ConnectionPath.runX (spacing : K) (p : ConnectionPath K) : K :=
  (p.leftEnd.point.x + p.rightEnd.point.x + ((p.leftEnd.lane : K) - p.rightEnd.lane) * spacing) / 2

/-- What the runs off the ends have in common drops out of their mean. -/
theorem middle_along (spacing a b base : K) (l m : Nat) :
    (along true a (base + l * spacing) + along false b (base + m * spacing)) / ((2 : Nat) : K)
      = (a + b + ((l : K) - m) * spacing) / 2 := by
  have hsum : along true a (base + l * spacing) + along false b (base + m * spacing)
      = a + b + ((l : K) - m) * spacing := by
    simp only [along, if_true, Bool.false_eq_true, if_false, sub_mul]
    abel
  rw [hsum, Nat.cast_ofNat]

variable [LinearOrder K]

/-- **A path leads across a gap**, from the right edge of a rectangle to the left edge of another
one. -/
structure ConnectionPath.Across (spacing : K) (p : ConnectionPath K) : Prop where
  /-- It has an end on the right edge of the rectangle further left. -/
  left : p.leftEnd.attached.side = .right ∧ p.leftEnd.point.x = p.leftEnd.attached.rect.right
  /-- It has its other end on the left edge of the rectangle further right. -/
  right : p.rightEnd.attached.side = .left ∧ p.rightEnd.point.x = p.rightEnd.attached.rect.x
  /-- The gap is between these edges. -/
  gap : p.leftEnd.attached.rect.right ≤ p.rightEnd.attached.rect.x
  /-- It has its run in the middle, moved as the lanes say. -/
  run : p.RunsAt (p.runX spacing)

/-- The control points of a path that is no U-turn lie the same distance off its ends, their lanes
apart. -/
theorem controlPoints_of_not_uTurn (config : RouterConfig K) {c : Connection K}
    (huturn : c.uTurn = false)
    (start stop : Point K) (l m : Nat) : ∃ base, controlPoints config c start stop l m
      = (⟨along (c.source.side = .right) start.x (base + l * config.laneSpacing), start.y⟩,
        ⟨along (c.target.side = .right) stop.x (base + m * config.laneSpacing), stop.y⟩) := by
  unfold controlPoints
  rw [huturn]
  exact ⟨_, rfl⟩

/-- Two rectangles that do not overlap sideways are joined across the gap between them. -/
theorem chooseSides_cases [IsStrictOrderedRing K] {r s : Rect K} (hr : 0 < r.width)
    (hs : 0 < s.width) :
    chooseSides r s = (.right, .right, true) ∨
      chooseSides r s = (.right, .left, false) ∧ r.right ≤ s.x ∨
      chooseSides r s = (.left, .right, false) ∧ s.right ≤ r.x := by
  have hleft : r.x < r.right := lt_add_of_pos_right _ hr
  have hright : s.x < s.right := lt_add_of_pos_right _ hs
  unfold chooseSides
  split
  next => exact .inl rfl
  next hapart =>
    rw [Rect.SpansOverlap, not_and_or, not_lt, not_lt] at hapart
    split
    -- The first one stands further left, and the gap is between its right edge and the other one.
    next hlt => exact .inr (.inl ⟨rfl, hapart.resolve_left (hlt.trans hright).not_ge⟩)
    next hle =>
      exact .inr (.inr ⟨rfl, hapart.resolve_right ((not_lt.1 hle).trans_lt hleft).not_ge⟩)

variable [IsStrictOrderedRing K] [Metric K] {config : RouterConfig K}

/-- **A connection that is no U-turn is drawn across a gap.** -/
theorem across_drawConnection (ends : List (ConnectionEnd K)) {c : Connection K} (index : Nat)
    (hsides : (c.source.side, c.target.side, c.uTurn) = chooseSides c.source.rect c.target.rect)
    (hsource : 0 < c.source.rect.width) (htarget : 0 < c.target.rect.width)
      (huturn : c.uTurn = false) :
    (drawConnection config .rectilinear ends c index).Across config.laneSpacing := by
  set p := drawConnection config .rectilinear ends c index
  have hrun : p.RunsAt ((p.controlStart.x + p.controlEnd.x) / ((2 : Nat) : K)) := rfl
  obtain ⟨base, hcontrols⟩ : ∃ base, (p.controlStart, p.controlEnd) = _ :=
    controlPoints_of_not_uTurn config huturn p.start p.stop p.fromLane p.toLane
  obtain ⟨hstart, hstop⟩ := Prod.mk.inj hcontrols
  rw [hstart, hstop] at hrun
  have hcases := chooseSides_cases hsource htarget
  rw [← hsides, huturn] at hcases
  simp only [Prod.mk.injEq, Bool.false_eq_true, and_false, and_true, false_or] at hcases
  -- The path leaves to the right, or it comes from there.
  obtain ⟨⟨hfrom, hto⟩, hgap⟩ | ⟨⟨hfrom, hto⟩, hgap⟩ := hcases
  · have hleft : p.leftEnd = p.fromEnd := if_pos hfrom
    have hright : p.rightEnd = p.toEnd := if_pos hfrom
    rw [hfrom, hto] at hrun
    refine ⟨?_, ?_, ?_, ?_⟩
    · exact hleft ▸ ⟨hfrom, anchorPoint_x_of_right hfrom _⟩
    · exact hright ▸ ⟨hto, anchorPoint_x_of_left hto _⟩
    · rwa [hleft, hright]
    · rw [ConnectionPath.runX, hleft, hright, ← middle_along]
      exact hrun
  · have hne : ¬c.source.side = .right := by simp [hfrom]
    have hleft : p.leftEnd = p.toEnd := if_neg hne
    have hright : p.rightEnd = p.fromEnd := if_neg hne
    rw [hfrom, hto, add_comm (Point.x _)] at hrun
    refine ⟨?_, ?_, ?_, ?_⟩
    · exact hleft ▸ ⟨hto, anchorPoint_x_of_right hto _⟩
    · exact hright ▸ ⟨hfrom, anchorPoint_x_of_left hfrom _⟩
    · rwa [hleft, hright]
    · rw [ConnectionPath.runX, hleft, hright, ← middle_along]
      exact hrun

variable {rects : Text → Option (Rect K)} {schema : Option Schema}
    {relationships : List Relationship}

/-- Every path that is no U-turn leads across a gap. -/
theorem across_route (hwidth : ∀ id, ∀ r ∈ rects id, 0 < r.width) {p : ConnectionPath K}
    (hp : p ∈ (route config rects .rectilinear schema relationships).paths)
    (huturn : p.connection.uTurn = false) : p.Across config.laneSpacing := by
  obtain ⟨pair, -, source, target, index, hsource, htarget, rfl⟩ :=
    exists_pair_of_mem_paths config .rectilinear schema rects relationships hp
  exact across_drawConnection _ index rfl (width_measure hwidth hsource)
    (width_measure hwidth htarget) huturn

end Across

/-! ## Two tables of three rows -/

/-- The rows of two tables, the left edge of the second one at a given place. -/
def facingRects (x : ℚ) (id : Text) : Option (Rect ℚ) :=
  List.lookup id [("col-s-a".toList, ⟨0, 36, 220, 28⟩), ("col-s-b".toList, ⟨0, 64, 220, 28⟩),
    ("col-s-c".toList, ⟨0, 92, 220, 28⟩), ("col-t-a".toList, ⟨x, 336, 220, 28⟩),
    ("col-t-b".toList, ⟨x, 364, 220, 28⟩), ("col-t-c".toList, ⟨x, 392, 220, 28⟩)]

/-- The two boxes have a width. -/
theorem width_facingRects (x : ℚ) : ∀ id, ∀ r ∈ facingRects x id, 0 < r.width :=
  forall_lookup (by simp)

/-- References between the rows of two tables, of which the first two cross. -/
def crossingReferences : List Relationship :=
  [⟨"s", ["a"], "t", ["b"], .manyToOne, [], none⟩, ⟨"s", ["b"], "t", ["a"], .manyToOne, [], none⟩,
    ⟨"s", ["c"], "t", ["c"], .manyToOne, [], none⟩]

/-! ## Runs in the gap -/

section Gap

variable [DivisionRing K] [LinearOrder K] [IsStrictOrderedRing K]

/-- A number moved off the middle of an interval stays in it if it is moved by no more than half of
it. -/
theorem middle_mem_Icc_iff {a b d : K} : (a + b + d) / 2 ∈ Set.Icc a b ↔ |d| ≤ b - a := by
  rw [Set.mem_Icc, le_div_iff₀ two_pos, div_le_iff₀ two_pos, mul_two, mul_two, abs_le, neg_sub,
    add_assoc, add_le_add_iff_left, add_comm a, add_assoc, add_le_add_iff_left, sub_le_iff_le_add',
    le_sub_iff_add_le,
    add_comm d]

variable {spacing : K} {p : ConnectionPath K}

/-- The gap is between the two ends of a path, whichever of them is further left. -/
theorem ConnectionPath.Across.uIcc_eq (h : p.Across spacing) :
    Set.uIcc p.start.x p.stop.x = Set.Icc p.leftEnd.point.x p.rightEnd.point.x ∧
      |p.stop.x - p.start.x| = p.rightEnd.point.x - p.leftEnd.point.x ∧
      |(p.fromLane : K) - p.toLane| = |(p.leftEnd.lane : K) - p.rightEnd.lane| := by
  have hle : p.leftEnd.point.x ≤ p.rightEnd.point.x := by
    rw [h.left.2, h.right.2]
    exact h.gap
  obtain ⟨hleft, hright⟩ | ⟨hleft, hright⟩ := p.leftEnd_rightEnd
  · rw [hleft, hright] at hle ⊢
    exact ⟨Set.uIcc_of_le hle, abs_of_nonneg (sub_nonneg.2 hle), rfl⟩
  · rw [hleft, hright] at hle ⊢
    exact ⟨Set.uIcc_of_ge hle, abs_of_nonpos (sub_nonpos.2 hle) |>.trans (neg_sub _ _),
      abs_sub_comm _ _⟩

/-- The run of a path is in the gap if its lanes differ by no more than the gap is wide. -/
theorem ConnectionPath.Across.runX_mem_iff (h : p.Across spacing) :
    p.runX spacing ∈ Set.uIcc p.start.x p.stop.x ↔
      |(p.fromLane : K) - p.toLane| * |spacing| ≤ |p.stop.x - p.start.x| := by
  obtain ⟨hinterval, hgap, hlanes⟩ := h.uIcc_eq
  rw [hinterval, hgap, hlanes, ConnectionPath.runX, middle_mem_Icc_iff, abs_mul]

/-- Two numbers below a bound differ by less than it. -/
theorem abs_cast_sub_cast_le {m n bound : Nat} (hm : m < bound) (hn : n < bound) :
    |(m : K) - n| ≤ ((bound - 1 : Nat) : K) := by
  have hm' : (m : K) ≤ ((bound - 1 : Nat) : K) := Nat.cast_le.2 (by omega)
  have hn' : (n : K) ≤ ((bound - 1 : Nat) : K) := Nat.cast_le.2 (by omega)
  refine abs_sub_le_iff.2 ⟨?_, ?_⟩
  · exact (sub_le_self _ n.cast_nonneg).trans hm'
  · exact (sub_le_self _ m.cast_nonneg).trans hn'

variable [Metric K]

/-- **The vertical run of a path that is no U-turn** lies in the gap between its two rectangles as
long as the lanes of its ends differ by no more than the gap is wide; so it does if there are at
most so many ends on either of the two sides. -/
theorem route_run_in_gap (config : RouterConfig K) {rects : Text → Option (Rect K)}
    (hwidth : ∀ id, ∀ r ∈ rects id, 0 < r.width) (schema : Option Schema)
      (relationships : List Relationship)
    {p : ConnectionPath K} (hp : p ∈ (route config rects .rectilinear schema relationships).paths)
    (huturn : p.connection.uTurn = false) :
    let r := route config rects .rectilinear schema relationships
    let runX := p.runX config.laneSpacing
    let gap := |p.stop.x - p.start.x|
    p.Across config.laneSpacing ∧ (runX ∈ Set.uIcc p.start.x p.stop.x ↔
      |(p.fromLane : K) - p.toLane| * |config.laneSpacing| ≤ gap) ∧
    ∀ count : Nat, (r.endsOn p.connection.source.tableAnchor p.connection.source.side).length
      ≤ count →
      (r.endsOn p.connection.target.tableAnchor p.connection.target.side).length ≤ count →
      ((count - 1 : Nat) : K) * |config.laneSpacing| ≤ gap →
      runX ∈ Set.uIcc p.start.x p.stop.x := by
  have hacross := across_route hwidth hp huturn
  have hdrawn := isDrawn_route config .rectilinear schema rects relationships
  refine ⟨hacross, hacross.runX_mem_iff,
    fun count hsource htarget hgap => hacross.runX_mem_iff.2 ?_⟩
  -- Lanes are numbered below the number of ends on their side.
  have hfrom := RoutingResult.lane_lt hdrawn (RoutingResult.fromEnd_mem_endsOn hp)
  have hto := RoutingResult.lane_lt hdrawn (RoutingResult.toEnd_mem_endsOn hp)
  have hlanes := abs_cast_sub_cast_le (K := K) (hfrom.trans_le hsource) (hto.trans_le htarget)
  exact (mul_le_mul_of_nonneg_right hlanes (abs_nonneg _)).trans hgap

end Gap

/-- Three paths across a gap of twenty units. The lanes of the last one differ by too much. -/
theorem route_run_in_gap_narrow :
    let r := route plainDistances (facingRects 240) .rectilinear none crossingReferences
    (∀ id, ∀ rect ∈ facingRects 240 id, 0 < rect.width) ∧
      (r.paths.map fun p => (p.fromLane, p.toLane, p.runX 12))
        = [(2, 1, 236), (1, 0, 236), (0, 2, 218)] ∧
      ∀ p ∈ r.paths, p.connection.uTurn = false ∧ p.Across 12 ∧
        (p.runX 12 ∈ Set.uIcc p.start.x p.stop.x ↔
          |(p.fromLane : ℚ) - p.toLane| * |12| ≤ |p.stop.x - p.start.x|) ∧
        ∀ count : Nat, (r.endsOn p.connection.source.tableAnchor p.connection.source.side).length
        ≤ count →
          (r.endsOn p.connection.target.tableAnchor p.connection.target.side).length ≤ count →
          ((count - 1 : Nat) : ℚ) * |12| ≤ |p.stop.x - p.start.x| →
          p.runX 12 ∈ Set.uIcc p.start.x p.stop.x := by
  have huturn : ∀ p
    ∈ (route plainDistances (facingRects 240) .rectilinear none crossingReferences).paths,
      p.connection.uTurn = false := by decide +kernel
  refine ⟨width_facingRects 240, by decide +kernel, fun p hp => ⟨huturn p hp, ?_⟩⟩
  exact route_run_in_gap plainDistances (width_facingRects 240) none crossingReferences hp
    (huturn p hp)

/-- The vertical run of a path may lie outside the gap between its rectangles. -/
theorem run_outside_gap :
    (∀ id, ∀ rect ∈ facingRects 240 id, 0 < rect.width ∧ 0 < rect.height) ∧
    ∃ p ∈ (route plainDistances (facingRects 240) .rectilinear none crossingReferences).paths,
      p.connection.uTurn = false ∧ ∃ x, p.RunsAt x ∧ x ∉ Set.uIcc p.start.x p.stop.x := by
  refine ⟨forall_lookup (by simp), ?_⟩
  obtain ⟨p, hp, huturn, hrun, hstart, hstop⟩ :
      ∃ p ∈ (route plainDistances (facingRects 240) .rectilinear none crossingReferences).paths,
        p.connection.uTurn = false ∧ p.RunsAt 218 ∧ p.start.x = 220 ∧ p.stop.x = 240 := by
          decide +kernel
  refine ⟨p, hp, huturn, 218, hrun, ?_⟩
  rw [hstart, hstop, Set.mem_uIcc]
  norm_num

/-! ## Runs in common -/

section Common

/-- **Two paths have a part of their vertical runs in common**, of more than a point. -/
def ConnectionPath.SharesRun [Lattice K] (p q : ConnectionPath K) : Prop :=
  ∃ x top bottom, top < bottom ∧ p.RunsAt x ∧ q.RunsAt x ∧
    Set.Icc top bottom ⊆ Set.uIcc p.start.y p.stop.y ∩ Set.uIcc q.start.y q.stop.y

/-- Two intervals have more than a point in common if the lower ends of both are below their upper
ends. -/
theorem exists_Icc_subset_inter [LinearOrder K] {a b c d : K} :
    (∃ top bottom, top < bottom ∧ Set.Icc top bottom ⊆ Set.uIcc a b ∩ Set.uIcc c d) ↔
      max (min a b) (min c d) < min (max a b) (max c d) := by
  rw [Set.uIcc, Set.uIcc, Set.Icc_inter_Icc]
  constructor
  · rintro ⟨top, bottom, hlt, hsub⟩
    obtain ⟨htop, hbottom⟩ := (Set.Icc_subset_Icc_iff hlt.le).1 hsub
    exact htop.trans_lt (hlt.trans_le hbottom)
  · exact fun hlt => ⟨_, _, hlt, subset_rfl⟩

variable [DivisionRing K] [LinearOrder K] [IsStrictOrderedRing K] {spacing : K}
    {p q : ConnectionPath K}

/-- Two paths across one gap have their runs at the same place if their lanes differ by the same. -/
theorem runX_eq_iff (hspacing : spacing ≠ 0) (hleft : p.leftEnd.point.x = q.leftEnd.point.x)
    (hright : p.rightEnd.point.x = q.rightEnd.point.x) : p.runX spacing = q.runX spacing ↔
      (p.leftEnd.lane : ℤ) - p.rightEnd.lane = q.leftEnd.lane - q.rightEnd.lane := by
  rw [ConnectionPath.runX, ConnectionPath.runX, hleft, hright, div_left_inj' two_ne_zero,
    add_right_inj, mul_left_inj' hspacing]
  exact_mod_cast Int.cast_inj (α := K)

/-- Two paths across one gap have a part of their runs in common if their lanes differ by the same
and their heights overlap. -/
theorem ConnectionPath.Across.sharesRun_iff (hp : p.Across spacing) (hq : q.Across spacing)
    (hspacing : spacing ≠ 0) (hleft : p.leftEnd.point.x = q.leftEnd.point.x)
    (hright : p.rightEnd.point.x = q.rightEnd.point.x) : p.SharesRun q ↔
      (p.leftEnd.lane : ℤ) - p.rightEnd.lane = q.leftEnd.lane - q.rightEnd.lane ∧
        max (min p.start.y p.stop.y) (min q.start.y q.stop.y)
          < min (max p.start.y p.stop.y) (max q.start.y q.stop.y) := by
  rw [← runX_eq_iff hspacing hleft hright, ← exists_Icc_subset_inter]
  constructor
  · rintro ⟨x, top, bottom, hlt, hpx, hqx, hsub⟩
    exact ⟨(hp.run.unique hpx).trans (hqx.unique hq.run), top, bottom, hlt, hsub⟩
  · rintro ⟨heq, top, bottom, hlt, hsub⟩
    exact ⟨_, top, bottom, hlt, hp.run, heq ▸ hq.run, hsub⟩

/-- **References between two tables that stand side by side**: of the two rectangles of every pair
of columns one ends at or before the place where the other one begins, and these places are the same
for all pairs. -/
structure SideBySide (schema : Option Schema) (rects : Text → Option (Rect K))
    (relationships : List Relationship) (left right : K) : Prop where
  /-- The one table ends before the other one begins. -/
  apart : left ≤ right
  /-- The rectangles of a pair face each other. -/
  facing : ∀ pair ∈ columnPairs relationships, ∀ source ∈ pair.fromRect? schema rects,
    ∀ target ∈ pair.toRect? schema rects,
      source.right = left ∧ target.x = right ∨ target.right = left ∧ source.x = right

/-- Two rectangles of which the first one ends before the second one begins are joined across the
gap. -/
theorem chooseSides_of_le {r s : Rect K} (hr : 0 < r.width) (h : r.right ≤ s.x) :
    chooseSides r s = (.right, .left, false) ∧ chooseSides s r = (.left, .right, false) := by
  have hlt : r.x < s.x := (lt_add_of_pos_right _ hr).trans_le h
  have hapart : ¬r.SpansOverlap s := fun hoverlap => h.not_gt hoverlap.2
  refine ⟨?_, ?_⟩
  · rw [chooseSides, if_neg hapart, if_pos hlt]
  · rw [chooseSides, if_neg (mt (spansOverlap_comm r s).2 hapart), if_neg hlt.not_gt]

/-- **One path stands above another one at both of two sides.** -/
structure ConnectionPath.StandsAbove (leftEnds rightEnds : List (PathEnd K))
    (p q : ConnectionPath K) :
    Prop where
  /-- Both lead from the one side. -/
  left : p.leftEnd ∈ leftEnds ∧ q.leftEnd ∈ leftEnds
  /-- Both lead to the other one. -/
  right : p.rightEnd ∈ rightEnds ∧ q.rightEnd ∈ rightEnds
  /-- The row of the one is above that of the other one on both sides. -/
  rows : p.leftEnd.attached.rect.y < q.leftEnd.attached.rect.y ∧
    p.rightEnd.attached.rect.y < q.rightEnd.attached.rect.y

/-- The lanes of two paths, one above the other one at both sides, do not differ by the same if one
side leads down and the other one does not. -/
theorem ConnectionPath.StandsAbove.lanes_ne {r : RoutingResult K} {leftTable rightTable : Text}
    (hdrawn : r.IsDrawn)
      (h : StandsAbove (r.endsOn leftTable .right) (r.endsOn rightTable .left) p q)
    (hleft : RowsApart (r.endsOn leftTable .right)) (hright : RowsApart (r.endsOn rightTable .left))
    (hdown : GoesDown (r.endsOn leftTable .right) ↔ ¬GoesDown (r.endsOn rightTable .left)) :
    (p.leftEnd.lane : ℤ) - p.rightEnd.lane ≠ q.leftEnd.lane - q.rightEnd.lane := by
  have hupper :=
    RoutingResult.hasUpperLane_endsOn not_one_lt_magnitude_sub_self hdrawn hleft h.left.1
    h.left.2 h.rows.1
  have hupper' :=
    RoutingResult.hasUpperLane_endsOn not_one_lt_magnitude_sub_self hdrawn hright h.right.1
    h.right.2 h.rows.2
  unfold HasUpperLane at hupper hupper'
  -- The side that leads down has the upper row in the lower lane, and the other side does not.
  by_cases hleftDown : GoesDown (r.endsOn leftTable .right)
  · rw [if_pos hleftDown] at hupper
    rw [if_neg (hdown.1 hleftDown)] at hupper'
    omega
  · rw [if_neg hleftDown] at hupper
    rw [if_pos (not_not.1 (mt hdown.2 hleftDown))] at hupper'
    omega

variable [Metric K] {config : RouterConfig K} {rects : Text → Option (Rect K)}
    {schema : Option Schema}
  {relationships : List Relationship} {left right : K}

/-- All paths between two tables that stand side by side lead across the same gap. -/
theorem SideBySide.ends_eq (h : SideBySide schema rects relationships left right)
    (hwidth : ∀ id, ∀ r ∈ rects id, 0 < r.width)
    (hp : p ∈ (route config rects .rectilinear schema relationships).paths) :
    p.Across config.laneSpacing ∧ p.leftEnd.point.x = left ∧ p.rightEnd.point.x = right := by
  have hedges : p.connection.uTurn = false ∧ p.leftEnd.attached.rect.right = left ∧
      p.rightEnd.attached.rect.x = right := by
    obtain ⟨pair, hpair, source, target, index, hsource, htarget, rfl⟩ :=
      exists_pair_of_mem_paths config .rectilinear schema rects relationships hp
    set p := drawConnection config .rectilinear _ (pair.connection schema source target) index
    have hsides : (p.connection.source.side, p.connection.target.side, p.connection.uTurn)
      = chooseSides source target := rfl
    -- The pair leads from the left table to the right one, or back.
    obtain ⟨hleft, hright⟩ | ⟨hleft, hright⟩ := h.facing pair hpair source hsource target htarget
    · rw [(chooseSides_of_le (width_measure hwidth hsource) (hleft ▸ hright ▸ h.apart)).1] at hsides
      obtain ⟨hfrom, hsides⟩ := Prod.mk.inj hsides
      rw [ConnectionPath.leftEnd, ConnectionPath.rightEnd, if_pos hfrom, if_pos hfrom]
      exact ⟨(Prod.mk.inj hsides).2, hleft, hright⟩
    · rw [(chooseSides_of_le (width_measure hwidth htarget) (hleft ▸ hright ▸ h.apart)).2] at hsides
      obtain ⟨hfrom, hsides⟩ := Prod.mk.inj hsides
      have hne : ¬p.connection.source.side = .right := by simp [hfrom]
      rw [ConnectionPath.leftEnd, ConnectionPath.rightEnd, if_neg hne, if_neg hne]
      exact ⟨(Prod.mk.inj hsides).2, hleft, hright⟩
  have hacross := across_route hwidth hp hedges.1
  exact ⟨hacross, hacross.left.2.trans hedges.2.1, hacross.right.2.trans hedges.2.2⟩

/-- Which paths between two tables that stand side by side have a part of their runs in common. -/
theorem SideBySide.sharesRun_iff (h : SideBySide schema rects relationships left right)
    (hwidth : ∀ id, ∀ r ∈ rects id, 0 < r.width) (hspacing : config.laneSpacing ≠ 0)
    (hp : p ∈ (route config rects .rectilinear schema relationships).paths)
    (hq : q ∈ (route config rects .rectilinear schema relationships).paths) : p.SharesRun q ↔
      (p.leftEnd.lane : ℤ) - p.rightEnd.lane = q.leftEnd.lane - q.rightEnd.lane ∧
        max (min p.start.y p.stop.y) (min q.start.y q.stop.y)
          < min (max p.start.y p.stop.y) (max q.start.y q.stop.y) := by
  obtain ⟨hpacross, hpleft, hpright⟩ := h.ends_eq hwidth hp
  obtain ⟨hqacross, hqleft, hqright⟩ := h.ends_eq hwidth hq
  exact hpacross.sharesRun_iff hqacross hspacing (hpleft.trans hqleft.symm)
    (hpright.trans hqright.symm)

/-- **The paths between two tables that stand side by side** have a part of their vertical runs in
common if the lanes of their ends differ by the same and their heights overlap. So they have none in
common if one of them stands above the other one at both tables, and one of the two groups of ends
leads down and the other one does not. -/
theorem route_sharesRun_iff (config : RouterConfig K) (hspacing : config.laneSpacing ≠ 0)
    (hwidth : ∀ id, ∀ r ∈ rects id, 0 < r.width)
      (h : SideBySide schema rects relationships left right) :
    let r := route config rects .rectilinear schema relationships
    (∀ p ∈ r.paths, ∀ q ∈ r.paths, p.SharesRun q ↔
      (p.leftEnd.lane : ℤ) - p.rightEnd.lane = q.leftEnd.lane - q.rightEnd.lane ∧
        max (min p.start.y p.stop.y) (min q.start.y q.stop.y)
          < min (max p.start.y p.stop.y) (max q.start.y q.stop.y)) ∧
    ∀ leftTable rightTable, RowsApart (r.endsOn leftTable .right) →
    RowsApart (r.endsOn rightTable .left) →
      (GoesDown (r.endsOn leftTable .right) ↔ ¬GoesDown (r.endsOn rightTable .left)) →
      ∀ p ∈ r.paths, ∀ q ∈ r.paths,
        p.StandsAbove (r.endsOn leftTable .right) (r.endsOn rightTable .left) q →
        ¬p.SharesRun q := by
  intro r
  refine ⟨fun p hp q hq => h.sharesRun_iff hwidth hspacing hp hq, ?_⟩
  intro leftTable rightTable hleft hright hdown p hp q hq habove hshares
  have hdrawn := isDrawn_route config .rectilinear schema rects relationships
  exact habove.lanes_ne hdrawn hleft hright hdown
    ((h.sharesRun_iff hwidth hspacing hp hq).1 hshares).1

end Common

/-- The two boxes stand side by side with a gap between them. -/
theorem sideBySide_facingRects : SideBySide none (facingRects 400) crossingReferences 220 400 :=
  ⟨by norm_num, by decide +kernel⟩

/-- The paths between two tables, of which the left one leads down and the right one up. -/
theorem route_sharesRun_crossing :
    let r := route plainDistances (facingRects 400) .rectilinear none crossingReferences
    let leftEnds := r.endsOn "table-s".toList .right
    let rightEnds := r.endsOn "table-t".toList .left
    plainDistances.laneSpacing ≠ 0 ∧ (∀ id, ∀ rect ∈ facingRects 400 id, 0 < rect.width) ∧
      SideBySide none (facingRects 400) crossingReferences 220 400 ∧
      RowsApart leftEnds ∧ RowsApart rightEnds ∧ (GoesDown leftEnds ↔ ¬GoesDown rightEnds) ∧
      (r.paths.map fun p => (p.leftEnd.attached.rect.y, p.rightEnd.attached.rect.y))
        = [(36, 364), (64, 336), (92, 392)] ∧
      (∀ p ∈ r.paths, ∀ q ∈ r.paths, p.SharesRun q ↔
        (p.leftEnd.lane : ℤ) - p.rightEnd.lane = q.leftEnd.lane - q.rightEnd.lane ∧
          max (min p.start.y p.stop.y) (min q.start.y q.stop.y)
            < min (max p.start.y p.stop.y) (max q.start.y q.stop.y)) ∧
      ∀ p ∈ r.paths, ∀ q ∈ r.paths, p.StandsAbove leftEnds rightEnds q → ¬p.SharesRun q := by
  intro r leftEnds rightEnds
  have hspacing : plainDistances.laneSpacing ≠ 0 := by decide +kernel
  have hleft : RowsApart leftEnds := by unfold RowsApart; decide +kernel
  have hright : RowsApart rightEnds := by unfold RowsApart; decide +kernel
  have hdown : GoesDown leftEnds ↔ ¬GoesDown rightEnds := by decide +kernel
  obtain ⟨hiff, hbelow⟩ :=
    route_sharesRun_iff plainDistances hspacing (width_facingRects 400) sideBySide_facingRects
  exact ⟨hspacing, width_facingRects 400, sideBySide_facingRects, hleft, hright,
    hdown, by decide +kernel, hiff, hbelow _ _ hleft hright hdown⟩

/-- Paths between two tables that stand side by side may have a part of their runs in common. -/
theorem exists_sharesRun :
    (∀ id, ∀ rect ∈ facingRects 400 id, 0 < rect.width ∧ 0 < rect.height) ∧
      SideBySide none (facingRects 400) crossingReferences 220 400 ∧
      (crossingReferences.flatMap (·.fromColumns)).Nodup ∧
      (crossingReferences.flatMap (·.toColumns)).Nodup ∧
      ∃ p ∈ (route plainDistances (facingRects 400) .rectilinear none crossingReferences).paths,
        ∃ q ∈ (route plainDistances (facingRects 400) .rectilinear none crossingReferences).paths,
          p.key ≠ q.key ∧ p.SharesRun q := by
  refine ⟨forall_lookup (by simp), sideBySide_facingRects, by decide, by decide, ?_⟩
  obtain ⟨p, hp, q, hq, hkey, ⟨hprun, hpy, hpy'⟩, hqrun, hqy, hqy'⟩ :
      ∃ p ∈ (route plainDistances (facingRects 400) .rectilinear none crossingReferences).paths,
        ∃ q ∈ (route plainDistances (facingRects 400) .rectilinear none crossingReferences).paths,
          p.key ≠ q.key ∧ (p.RunsAt 316 ∧ p.start.y = 50 ∧ p.stop.y = 378) ∧
            q.RunsAt 316 ∧ q.start.y = 78 ∧ q.stop.y = 350 := by decide +kernel
  -- Both runs are at the same place, and the heights between 78 and 350 belong to both.
  obtain ⟨top, bottom, hlt, hsub⟩ : ∃ top bottom, top < bottom ∧
      Set.Icc top bottom ⊆ Set.uIcc p.start.y p.stop.y ∩ Set.uIcc q.start.y q.stop.y :=
    exists_Icc_subset_inter.2 (by norm_num [hpy, hpy', hqy, hqy'])
  exact ⟨p, hp, q, hq, hkey, 316, top, bottom, hlt, hprun, hqrun, hsub⟩

end SchemaDiagram
