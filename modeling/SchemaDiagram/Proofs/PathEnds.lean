import SchemaDiagram.Proofs.ColumnPairs

/-! # The ends of the paths

Slots and lanes are said of the ends of the paths, each path having one at its start and one at its
end. The ends of all paths stand in the order of the paths, the start of a path before its end, and
the place of an end in this order is the place by which routing knows it.

* **`PathEnd`** — what a path shows at one of its ends.
* **`RoutingResult.ends`** — the ends of all paths.
* **`RoutingResult.endsAt`**, **`RoutingResult.endsOn`** — the ends that share an anchor, or one
  side of a table.
* **`RoutingResult.perm_placeAmong_group`**, **`RoutingResult.pairwise_placeAmong_group`** — the
  indexes of the ends of a group when they are arranged.
* **`Drawn`** — what is shown at an end is told by all ends and by its place among them.
* **`isDrawn_route`** — every end of every path is drawn so. -/

namespace SchemaDiagram

variable {K : Type}

/-- **What a path shows at one of its ends.** -/
structure PathEnd (K : Type) where
  /-- What the path is attached to. -/
  attached : ConnectionEnd K
  /-- The rectangle at the other end. -/
  other : Rect K
  /-- Where the path stands. -/
  point : Point K
  /-- The glyph at the end. -/
  label : Option (ConnectionLabel K)
  /-- The slot. -/
  slot : Slot
  /-- The lane. -/
  lane : Nat

namespace ConnectionPath

/-- The start of a path. -/
def fromEnd (p : ConnectionPath K) : PathEnd K :=
  ⟨p.connection.source, p.connection.target.rect, p.start, p.startLabel, p.fromSlot, p.fromLane⟩

/-- The end of a path. -/
def toEnd (p : ConnectionPath K) : PathEnd K :=
  ⟨p.connection.target, p.connection.source.rect, p.stop, p.endLabel, p.toSlot, p.toLane⟩

end ConnectionPath

/-- Whether an end has an anchor. -/
def isAt (anchor : Text) (e : ConnectionEnd K) : Bool := decide (e.anchor = anchor)

/-- Whether an end is on a side of a table. -/
def isOn (table : Text) (side : Side) (e : ConnectionEnd K) : Bool :=
  decide (e.tableAnchor = table ∧ e.side = side)

namespace RoutingResult

/-- **The ends of all paths.** -/
def ends (r : RoutingResult K) : List (PathEnd K) := r.paths.flatMap fun p => [p.fromEnd, p.toEnd]

/-- The ends of a group. -/
def group (r : RoutingResult K) (inGroup : ConnectionEnd K → Bool) : List (PathEnd K) :=
  r.ends.filter fun e => inGroup e.attached

/-- **The ends that share an anchor.** -/
def endsAt (r : RoutingResult K) (anchor : Text) : List (PathEnd K) := r.group (isAt anchor)

/-- **The ends on one side of a table.** -/
def endsOn (r : RoutingResult K) (table : Text) (side : Side) : List (PathEnd K) :=
  r.group (isOn table side)

/-- What the paths are attached to. -/
def attachedEnds (r : RoutingResult K) : List (ConnectionEnd K) := r.ends.map (·.attached)

end RoutingResult

/-! ## Places -/

/-- The two ends of each element have two neighbouring indexes. -/
theorem zipIdx_flatMap_pair {α β : Type} (f g : α → β) (l : List α) (n : Nat) :
    (l.flatMap fun x => [f x, g x]).zipIdx (2 * n)
      = (l.zipIdx n).flatMap fun (x, i) => [(f x, 2 * i), (g x, 2 * i + 1)] := by
  induction l generalizing n with
  | nil => rfl
  | cons x l ih =>
    simp only [List.flatMap_cons, List.cons_append, List.nil_append, List.zipIdx_cons]
    rw [← ih (n + 1)]
    rfl

/-- The ends of the connection at `index` have the places `2 * index` and `2 * index + 1`. -/
theorem mem_zipIdx_allEnds {connections : List (Connection K)} {c : Connection K} {index : Nat}
    (h : (c, index) ∈ connections.zipIdx) :
    (c.source, 2 * index) ∈ (allEnds connections).zipIdx ∧
      (c.target, 2 * index + 1) ∈ (allEnds connections).zipIdx := by
  have hzip := zipIdx_flatMap_pair (·.source) (·.target) connections 0
  rw [Nat.mul_zero] at hzip
  rw [allEnds, hzip]
  exact ⟨List.mem_flatMap.2 ⟨_, h, by simp⟩, List.mem_flatMap.2 ⟨_, h, by simp⟩⟩

/-- Places do not matter to which elements are selected. -/
theorem map_fst_filter_zipIdx {α : Type} (p : α → Bool) (l : List α) :
    (l.zipIdx.filter fun x => p x.1).map (·.1) = l.filter p := by
  conv_rhs => rw [← List.zipIdx_map_fst 0 l, List.filter_map]
  rfl

namespace RoutingResult

variable {r : RoutingResult K}

/-- The ends of the path at `index` have the places `2 * index` and `2 * index + 1`. -/
theorem mem_zipIdx_ends {x : PathEnd K × Nat} : x ∈ r.ends.zipIdx ↔
    ∃ p index, (p, index) ∈ r.paths.zipIdx ∧
      (x = (p.fromEnd, 2 * index) ∨ x = (p.toEnd, 2 * index + 1)) := by
  have hzip := zipIdx_flatMap_pair ConnectionPath.fromEnd ConnectionPath.toEnd r.paths 0
  rw [Nat.mul_zero] at hzip
  rw [ends, hzip]
  simp only [List.mem_flatMap, List.mem_cons, List.not_mem_nil, or_false, Prod.exists]

/-- The attached ends are those of the connections of the paths. -/
theorem attachedEnds_eq : r.attachedEnds = allEnds (r.paths.map (·.connection)) := by
  rw [attachedEnds, ends, allEnds, List.map_flatMap, List.flatMap_map]
  rfl

end RoutingResult

/-! ## Groups of ends -/

namespace RoutingResult

variable {r : RoutingResult K} {inGroup : ConnectionEnd K → Bool}

variable (r inGroup) in
/-- The ends of a group with their places among all ends. -/
def placedGroup : List (PathEnd K × Nat) := r.ends.zipIdx.filter fun x => inGroup x.1.attached

variable (r inGroup) in
/-- What the ends of a group are attached to, with their places. -/
def attachedGroup : List (ConnectionEnd K × Nat) :=
  r.attachedEnds.zipIdx.filter fun x => inGroup x.1

/-- The attached ends of a group are those of its path ends. -/
theorem filter_attachedEnds : r.attachedEnds.filter inGroup = (r.group inGroup).map (·.attached) :=
  List.filter_map

/-- The ends of a group without their places are the group. -/
theorem map_fst_placedGroup : (r.placedGroup inGroup).map (·.1) = r.group inGroup :=
  map_fst_filter_zipIdx (fun e : PathEnd K => inGroup e.attached) r.ends

/-- The placed ends of a group are attached where its path ends are. -/
theorem map_attached_placedGroup :
    (r.placedGroup inGroup).map (Prod.map (·.attached) id) = r.attachedGroup inGroup := by
  rw [attachedGroup, attachedEnds, List.zipIdx_map, List.filter_map]
  rfl

/-- A path starts on the side of the table that its first end is attached to. -/
theorem fromEnd_mem_endsOn {p : ConnectionPath K} (h : p ∈ r.paths) :
    p.fromEnd ∈ r.endsOn p.fromEnd.attached.tableAnchor p.fromEnd.attached.side :=
  List.mem_filter.2 ⟨List.mem_flatMap.2 ⟨p, h, by simp⟩, decide_eq_true ⟨rfl, rfl⟩⟩

/-- A path stops on the side of the table that its second end is attached to. -/
theorem toEnd_mem_endsOn {p : ConnectionPath K} (h : p ∈ r.paths) :
    p.toEnd ∈ r.endsOn p.toEnd.attached.tableAnchor p.toEnd.attached.side :=
  List.mem_filter.2 ⟨List.mem_flatMap.2 ⟨p, h, by simp⟩, decide_eq_true ⟨rfl, rfl⟩⟩

/-- Every end of a group has a place. -/
theorem exists_mem_placedGroup {e : PathEnd K} (h : e ∈ r.group inGroup) :
    ∃ place, (e, place) ∈ r.placedGroup inGroup := by
  rw [← map_fst_placedGroup] at h
  obtain ⟨⟨e, place⟩, hmem, rfl⟩ := List.mem_map.1 h
  exact ⟨place, hmem⟩

/-- Every placed end is attached in its group. -/
theorem mem_attachedGroup {x : PathEnd K × Nat} (h : x ∈ r.placedGroup inGroup) :
    (x.1.attached, x.2) ∈ r.attachedGroup inGroup := by
  rw [← map_attached_placedGroup]
  exact List.mem_map_of_mem h

/-- Every attached end of a group belongs to one of its path ends. -/
theorem exists_of_mem_attachedGroup {x : ConnectionEnd K × Nat} (h : x ∈ r.attachedGroup inGroup) :
    ∃ e ∈ r.group inGroup, e.attached = x.1 := by
  rw [← map_attached_placedGroup] at h
  obtain ⟨y, hy, rfl⟩ := List.mem_map.1 h
  refine ⟨y.1, ?_, rfl⟩
  rw [← map_fst_placedGroup]
  exact List.mem_map_of_mem hy

/-- The places of the ends of a group grow. -/
theorem placed_placedGroup : Placed (r.placedGroup inGroup) := (placed_zipIdx _ 0).filter _

variable (r inGroup) in
/-- The places of the attached ends of a group grow. -/
theorem placed_attachedGroup : Placed (r.attachedGroup inGroup) := (placed_zipIdx _ 0).filter _

variable (r inGroup) in
/-- A group has as many attached ends as ends. -/
theorem length_attachedGroup : (r.attachedGroup inGroup).length = (r.group inGroup).length := by
  rw [← map_attached_placedGroup, ← map_fst_placedGroup, List.length_map, List.length_map]

variable (below : ConnectionEnd K × Nat → ConnectionEnd K × Nat → Bool)

/-- An end of a group stands at its index among the arranged ends. -/
theorem getElem?_placeAmong_group {x : PathEnd K × Nat} (h : x ∈ r.placedGroup inGroup) :
    (arrange below (r.attachedGroup inGroup))[placeAmong
      (arrange below (r.attachedGroup inGroup)) x.2]?
      = some (x.1.attached, x.2) := by
  have hplaces : (arrange below (r.attachedGroup inGroup)).Pairwise (·.2 ≠ ·.2) :=
    places_arrange (placed_attachedGroup r inGroup)
  obtain ⟨hlt, hfound⟩ := exists_getElem_placeAmong hplaces
    ((arrange_perm _ _).mem_iff.2 (mem_attachedGroup h))
  exact (List.getElem?_eq_getElem hlt).trans (congrArg some hfound)

variable (r inGroup) in
/-- **Each end of a group has one index** among the arranged ends. -/
theorem perm_placeAmong_group :
    ((r.placedGroup inGroup).map fun x =>
      placeAmong (arrange below (r.attachedGroup inGroup)) x.2).Perm
      (List.range (r.group inGroup).length) := by
  rw [← length_attachedGroup]
  refine List.Perm.trans (List.Perm.of_eq ?_)
    (perm_placeAmong below (placed_attachedGroup r inGroup))
  conv_rhs => arg 2; rw [← map_attached_placedGroup]
  rw [List.map_map]
  rfl

variable (r inGroup) in
/-- **Where the comparison goes by a key, the indexes are in the order of the keys**, and in the
order of the paths where the keys are the same. -/
theorem pairwise_placeAmong_group {β : Type} [LinearOrder β] (key : ConnectionEnd K → β)
    (hbelow : GoesBy below key (r.attachedGroup inGroup)) :
    (r.placedGroup inGroup).Pairwise fun x y =>
      (placeAmong (arrange below (r.attachedGroup inGroup)) x.2
          < placeAmong (arrange below (r.attachedGroup inGroup)) y.2 ↔
        key x.1.attached ≤ key y.1.attached) := by
  refine placed_placedGroup.imp_of_mem fun {x y} hx hy hlt => ?_
  rw [placeAmong_lt_iff (placed_attachedGroup r inGroup) hbelow (mem_attachedGroup hx)
    (mem_attachedGroup hy)]
  exact standsBefore_iff_of_lt (x := (x.1.attached, x.2)) (y := (y.1.attached, y.2)) hlt

end RoutingResult

/-! ## Ends as they are drawn -/

variable [Add K] [Sub K] [Mul K] [Div K] [NatCast K] [LT K] [DecidableLT K]

/-- **What is shown at an end** is told by all ends and by its place among them. -/
structure Drawn (ends : List (ConnectionEnd K)) (x : PathEnd K × Nat) : Prop where
  /-- The slot is that of the end at its place. -/
  slot : x.1.slot = slotOf ends x.1.attached x.2
  /-- The lane is that of the end at its place. -/
  lane : x.1.lane = laneOf ends x.1.attached x.2
  /-- The path stands in its slot. -/
  point : x.1.point = anchorPoint x.1.attached x.1.slot
  /-- The other end counts with its middle. -/
  otherY : x.1.attached.otherY = x.1.other.centerY
  /-- The glyph of the end is shown, pushed out as its slot says. -/
  label : x.1.label.map (fun l => (l.text, l.stagger))
    = if x.1.attached.glyph = [] then none else some (x.1.attached.glyph, x.1.slot.stagger)

/-- Every end is drawn as routing tells it. -/
def RoutingResult.IsDrawn (r : RoutingResult K) : Prop :=
  ∀ x ∈ r.ends.zipIdx, Drawn r.attachedEnds x

section Route

variable [LE K] [DecidableLE K] [Metric K] (config : RouterConfig K) (style : LineStyle)

omit [LT K] [DecidableLT K] in
/-- A label shows the glyph of its end, on the level of its slot, unless there is no glyph. -/
theorem label_labelOf (e : ConnectionEnd K) (slot : Slot) (anchor toward : Point K) :
    (labelOf config e slot anchor toward).map (fun l => (l.text, l.stagger))
      = if e.glyph = [] then none else some (e.glyph, slot.stagger) := by
  unfold labelOf
  split <;> rfl

/-- Both ends of a drawn connection are placed by their group. -/
theorem drawn_drawConnection (ends : List (ConnectionEnd K)) {c : Connection K} (index : Nat)
    (hsource : c.source.otherY = c.target.rect.centerY)
    (htarget : c.target.otherY = c.source.rect.centerY) :
    Drawn ends ((drawConnection config style ends c index).fromEnd, 2 * index) ∧
      Drawn ends ((drawConnection config style ends c index).toEnd, 2 * index + 1) :=
  ⟨⟨rfl, rfl, rfl, hsource, label_labelOf config ..⟩,
    ⟨rfl, rfl, rfl, htarget, label_labelOf config ..⟩⟩

variable (schema : Option Schema) (rects : Text → Option (Rect K))
    (relationships : List Relationship)

/-- The attached ends of a route are those of its connections. -/
theorem attachedEnds_route : (route config rects style schema relationships).attachedEnds
    = allEnds (connectionsOf schema rects relationships) := by
  rw [RoutingResult.attachedEnds_eq, connections_route]

/-- A path of a diagram is that of its connection. -/
theorem exists_drawConnection {p : ConnectionPath K} {index : Nat}
    (h : (p, index) ∈ (route config rects style schema relationships).paths.zipIdx) :
    ∃ c, (c, index) ∈ (connectionsOf schema rects relationships).zipIdx ∧
      p = drawConnection config style (route config rects style schema relationships).attachedEnds c
        index := by
  rw [List.mem_zipIdx_iff_getElem?, paths_route, List.getElem?_map, Option.map_eq_some_iff] at h
  obtain ⟨⟨c, index'⟩, hc, rfl⟩ := h
  obtain ⟨hmem, heq⟩ : (connectionsOf schema rects relationships)[index]? = some c ∧
      index' = index := by
    simpa [List.getElem?_zipIdx, eq_comm] using hc
  subst heq
  rw [attachedEnds_route]
  exact ⟨c, List.mem_zipIdx_iff_getElem?.2 hmem, rfl⟩

/-- A path of a diagram is that of a pair of columns whose rectangles have been found. -/
theorem exists_pair_of_mem_paths {p : ConnectionPath K}
    (h : p ∈ (route config rects style schema relationships).paths) :
    ∃ pair ∈ columnPairs relationships, ∃ source target index, pair.fromRect? schema rects
      = some source ∧
      pair.toRect? schema rects = some target ∧
      p = drawConnection config style (route config rects style schema relationships).attachedEnds
        (pair.connection schema source target) index := by
  obtain ⟨index, hindex⟩ := List.mem_iff_getElem?.1 h
  obtain ⟨c, hc, rfl⟩ := exists_drawConnection config style schema rects relationships
    (List.mem_zipIdx_iff_getElem?.2 hindex)
  obtain ⟨pair, hpair, hconnect⟩ := mem_connectionsOf.1 (List.fst_mem_of_mem_zipIdx hc)
  obtain ⟨source, target, hsource, htarget, rfl⟩ := ColumnPair.connect?_eq_some.1 hconnect
  exact ⟨pair, hpair, source, target, index, hsource, htarget, rfl⟩

/-- A path stands at both ends in their slots. -/
theorem points_of_mem_paths {p : ConnectionPath K}
    (h : p ∈ (route config rects style schema relationships).paths) :
    p.fromEnd.point = anchorPoint p.fromEnd.attached p.fromEnd.slot ∧
      p.toEnd.point = anchorPoint p.toEnd.attached p.toEnd.slot := by
  obtain ⟨pair, -, source, target, index, -, -, rfl⟩ :=
    exists_pair_of_mem_paths config style schema rects relationships h
  exact ⟨rfl, rfl⟩

/-- **Every end of every path is drawn as routing tells it.** -/
theorem isDrawn_route : (route config rects style schema relationships).IsDrawn := by
  intro x hx
  obtain ⟨p, index, hp, hends⟩ := RoutingResult.mem_zipIdx_ends.1 hx
  obtain ⟨c, hc, rfl⟩ := exists_drawConnection config style schema rects relationships hp
  obtain ⟨q, -, hconnect⟩ := mem_connectionsOf.1 (List.fst_mem_of_mem_zipIdx hc)
  obtain ⟨source, target, -, -, rfl⟩ := ColumnPair.connect?_eq_some.1 hconnect
  obtain ⟨hfrom, hto⟩ := drawn_drawConnection config style
    (route config rects style schema relationships).attachedEnds index
    (c := q.connection schema source target) rfl rfl
  obtain rfl | rfl := hends
  · exact hfrom
  · exact hto

/-- Every end is attached to the rectangle of its column. -/
theorem measured_route {e : PathEnd K}
    (h : e ∈ (route config rects style schema relationships).ends) :
    ∃ table column, e.attached.anchor = columnAnchor (tableIdOf schema table) column ∧
      measure rects (tableIdOf schema table) column = some e.attached.rect := by
  have hmem := List.mem_map_of_mem (f := (·.attached)) h
  change e.attached ∈ (route config rects style schema relationships).attachedEnds at hmem
  rw [attachedEnds_route, allEnds] at hmem
  obtain ⟨c, hc, hend⟩ := List.mem_flatMap.1 hmem
  -- The end belongs to a connection, and that one has measured both of its columns.
  obtain ⟨q, -, hconnect⟩ := mem_connectionsOf.1 hc
  obtain ⟨source, target, hsource, htarget, rfl⟩ := ColumnPair.connect?_eq_some.1 hconnect
  obtain hend | hend : e.attached = _ ∨ e.attached = _ := by simpa using hend
  · rw [hend]
    exact ⟨_, _, rfl, hsource⟩
  · rw [hend]
    exact ⟨_, _, rfl, htarget⟩

end Route

end SchemaDiagram
