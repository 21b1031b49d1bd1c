import SchemaDiagram.Proofs.Lanes

/-! # Ends that are told apart

Where no two ends of an anchor have level other ends, and no two ends of a table side are level in
both respects, each end has its place among the others by what it is attached to. Its slot and its
lane are then the same in every list of the same ends.

The order in which references are declared decides which of two ends comes first where their heights
do not. In a diagram whose ends are told apart there is nothing left to decide, so every reference
is drawn in the same way wherever it is declared, and only the numbers in the keys differ.

* **`RoutingResult.Untied`** — the ends of a diagram are told apart.
* **`UntiedEnds`** — what they are attached to tells them apart.
* **`slotOf_eq_of_perm`**, **`laneOf_eq_of_perm`** — the slot and the lane of an end do not depend
  on the order of the ends.
* **`reordered`** — the references in another order.
* **`ConnectionPath.renumbered`** — a path of a reference with another number.
* **`route_reordered`** — a diagram whose references are declared in another order. -/

namespace SchemaDiagram

section Ends

variable {K : Type} [DivisionRing K] [LinearOrder K]

/-- **What ends are attached to tells them apart.** -/
structure UntiedEnds (ends : List (ConnectionEnd K)) : Prop where
  /-- Ends of an anchor have other ends at different heights. -/
  anchors : ∀ anchor, (ends.filter (isAt anchor)).Pairwise (·.otherY ≠ ·.otherY)
  /-- Rows on a side of a table are level or more than one unit apart. -/
  rows : ∀ table side, ∀ e ∈ ends.filter (isOn table side), ∀ f ∈ ends.filter (isOn table side),
    e.rect.y = f.rect.y ∨ ((1 : Nat) : K) < magnitude (e.rect.y - f.rect.y)
  /-- Ends in level rows have other ends at different heights. -/
  levels : ∀ table side, (ends.filter (isOn table side)).Pairwise fun e f =>
    toLex (e.rect.y, e.otherY) ≠ toLex (f.rect.y, f.otherY)

variable {ends ends' : List (ConnectionEnd K)}

/-- Ends stay untied in another order. -/
theorem UntiedEnds.of_perm (h : UntiedEnds ends) (hperm : ends'.Perm ends) : UntiedEnds ends' where
  anchors anchor :=
    ((hperm.filter _).pairwise_iff fun {_ _} hne => Ne.symm hne).2 (h.anchors anchor)
  rows table side e he f hf :=
    h.rows table side e ((hperm.filter _).subset he) f ((hperm.filter _).subset hf)
  levels table side :=
    ((hperm.filter _).pairwise_iff fun {_ _} hne => Ne.symm hne).2 (h.levels table side)

omit [DivisionRing K] [LinearOrder K] in
/-- The same ends are arranged in the same way, whatever their order is, if a key tells them
apart. -/
theorem arrange_group_of_perm {β : Type} [LinearOrder β] {inGroup : ConnectionEnd K → Bool}
    (below : ConnectionEnd K × Nat → ConnectionEnd K × Nat → Bool) {key : ConnectionEnd K → β}
    (hkeys : (ends.filter inGroup).Pairwise (key · ≠ key ·))
    (hbelow : GoesBy below key (ends.zipIdx.filter fun x => inGroup x.1))
    (hbelow' : GoesBy below key (ends'.zipIdx.filter fun x => inGroup x.1))
    (hperm : ends'.Perm ends) :
    (arrange below (ends'.zipIdx.filter fun x => inGroup x.1)).map (·.1)
        = (arrange below (ends.zipIdx.filter fun x => inGroup x.1)).map (·.1) ∧
      ∀ {e place place'}, (e, place) ∈ ends.zipIdx → (e, place') ∈ ends'.zipIdx → inGroup e = true →
        placeAmong (arrange below (ends'.zipIdx.filter fun x => inGroup x.1)) place'
          = placeAmong (arrange below (ends.zipIdx.filter fun x => inGroup x.1)) place := by
  -- Each group has the same ends in both orders.
  have hgroups : ((ends'.zipIdx.filter fun x => inGroup x.1).map (·.1)).Perm
      ((ends.zipIdx.filter fun x => inGroup x.1).map (·.1)) := by
    rw [map_fst_filter_zipIdx, map_fst_filter_zipIdx]
    exact hperm.filter _
  rw [← map_fst_filter_zipIdx] at hkeys
  refine ⟨arrange_elements_eq ((placed_zipIdx _ 0).filter _)
    ((placed_zipIdx _ 0).filter _) hbelow hbelow'
    hgroups hkeys, fun he he' hgroup => ?_⟩
  exact placeAmong_eq ((placed_zipIdx _ 0).filter _)
    ((placed_zipIdx _ 0).filter _) hbelow hbelow' hgroups
    hkeys (List.mem_filter.2 ⟨he, hgroup⟩) (List.mem_filter.2 ⟨he', hgroup⟩) rfl

/-- The slot of an end does not depend on the order of the ends. -/
theorem slotOf_eq_of_perm (h : UntiedEnds ends) (hperm : ends'.Perm ends) {e : ConnectionEnd K}
    {place place' : Nat} (he : (e, place) ∈ ends.zipIdx) (he' : (e, place') ∈ ends'.zipIdx) :
    slotOf ends' e place' = slotOf ends e place := by
  -- The heights of the other ends tell those at one anchor apart.
  obtain ⟨hends, hindex⟩ := arrange_group_of_perm (fun a b => decide (a.1.otherY < b.1.otherY))
    (h.anchors e.anchor) (fun x _ y _ => decide_eq_true_iff)
    (fun x _ y _ => decide_eq_true_iff) hperm
  have hplace : placeAmong (anchorGroup ends' e.anchor) place'
      = placeAmong (anchorGroup ends e.anchor) place := hindex he he' (decide_eq_true rfl)
  have hglyphs : (anchorGroup ends' e.anchor).map (·.1.glyph)
      = (anchorGroup ends e.anchor).map (·.1.glyph) := by
    have hmap := congrArg (List.map (·.glyph)) hends
    rwa [List.map_map, List.map_map] at hmap
  have hlength := congrArg List.length hglyphs
  rw [List.length_map, List.length_map] at hlength
  unfold placeAmong at hplace
  unfold slotOf
  dsimp only
  rw [List.map_take, List.map_take, hplace, hglyphs, hlength]

omit [LinearOrder K] in
/-- The mean of some coordinates does not depend on their order. -/
theorem mean_eq_of_perm {values values' : List K} (hperm : values'.Perm values) :
    mean values' = mean values := by
  have htotal : total values' = total values :=
    hperm.foldl_eq' (fun x _ y _ z => add_right_comm z x y) _
  rw [mean, mean, htotal, hperm.length_eq]

/-- Ends that are told apart are compared by their levels. -/
theorem UntiedEnds.goesBy_isAbove [IsStrictOrderedRing K] (h : UntiedEnds ends) {table : Text}
    {side : Side} : GoesBy (fun a b => isAbove a.1 b.1) (fun e => toLex (e.rect.y, e.otherY))
      (ends.zipIdx.filter fun x => isOn table side x.1) := by
  intro x hx y hy
  have hmem : ∀ z ∈ ends.zipIdx.filter fun x => isOn table side x.1,
      z.1 ∈ ends.filter (isOn table side) := by
    intro z hz
    rw [← map_fst_filter_zipIdx]
    exact List.mem_map_of_mem hz
  exact isAbove_iff not_one_lt_magnitude_sub_self
    (h.rows table side x.1 (hmem x hx) y.1 (hmem y hy))

/-- The lane of an end does not depend on the order of the ends. -/
theorem laneOf_eq_of_perm [IsStrictOrderedRing K] (h : UntiedEnds ends) (hperm : ends'.Perm ends)
    {e : ConnectionEnd K} {place place' : Nat} (he : (e, place) ∈ ends.zipIdx)
    (he' : (e, place') ∈ ends'.zipIdx) : laneOf ends' e place' = laneOf ends e place := by
  -- The ends on one side of a table are the same.
  have hgroup : ((ends'.zipIdx.filter fun x => isOn e.tableAnchor e.side x.1).map (·.1)).Perm
      ((ends.zipIdx.filter fun x => isOn e.tableAnchor e.side x.1).map (·.1)) := by
    rw [map_fst_filter_zipIdx, map_fst_filter_zipIdx]
    exact hperm.filter _
  -- So are the means and the number of them.
  have hown := mean_eq_of_perm (hgroup.map (·.rect.y))
  have hother := mean_eq_of_perm (hgroup.map (·.otherY))
  have hlength := hgroup.length_eq
  obtain ⟨-, hindex⟩ := arrange_group_of_perm (fun a b => isAbove a.1 b.1)
    (h.levels e.tableAnchor e.side) h.goesBy_isAbove (h.of_perm hperm).goesBy_isAbove hperm
  have hplace := hindex he he' (decide_eq_true ⟨rfl, rfl⟩)
  simp only [List.length_map, List.map_map, Function.comp_def] at hlength hown hother
  rw [laneOf_group, laneOf_group, hlength, hown, hother, hplace]

end Ends

/-! ## The ends of a diagram -/

namespace RoutingResult

variable {K : Type} [DivisionRing K] [LinearOrder K]

/-- **The ends of a diagram are told apart.** -/
structure Untied (r : RoutingResult K) : Prop where
  /-- Ends of an anchor have other ends at different heights. -/
  anchors : ∀ anchor, (r.endsAt anchor).Pairwise (·.other.centerY ≠ ·.other.centerY)
  /-- Rows on a side of a table are level or more than one unit apart. -/
  rows : ∀ table side, RowsApart (r.endsOn table side)
  /-- Ends in level rows have other ends at different heights. -/
  levels : ∀ table side, (r.endsOn table side).Pairwise (·.level ≠ ·.level)

variable {r : RoutingResult K}

/-- The attached ends are untied when the paths are. -/
theorem Untied.untiedEnds (h : r.Untied) (hdrawn : r.IsDrawn) : UntiedEnds r.attachedEnds := by
  -- The height of the other end is that of the end that is drawn there.
  have hother : ∀ {inGroup} {e : PathEnd K}, e ∈ r.group inGroup →
      e.attached.otherY = e.other.centerY :=
    fun he => by
      obtain ⟨place, hx⟩ := exists_mem_placedGroup he
      exact (hdrawn _ (List.mem_of_mem_filter hx)).otherY
  constructor
  -- Ends at one anchor have other ends at different heights.
  case anchors =>
    intro anchor
    rw [filter_attachedEnds, List.pairwise_map]
    refine (h.anchors anchor).imp_of_mem fun {e f} he hf hne => ?_
    rwa [hother he, hother hf]
  case rows =>
    intro table side a ha b hb
    rw [filter_attachedEnds] at ha hb
    obtain ⟨e, he, rfl⟩ := List.mem_map.1 ha
    obtain ⟨f, hf, rfl⟩ := List.mem_map.1 hb
    exact h.rows table side e he f hf
  -- Ends on one side have different levels.
  case levels =>
    intro table side
    rw [filter_attachedEnds, List.pairwise_map]
    refine (h.levels table side).imp_of_mem fun {e f} he hf hne => ?_
    rwa [hother he, hother hf]

/-- The ends of a diagram are told apart if any two of them are. -/
theorem untied_of_pairwise
    (hpairs : r.ends.Pairwise fun e f =>
      (e.attached.anchor = f.attached.anchor → e.other.centerY ≠ f.other.centerY) ∧
      (e.attached.tableAnchor = f.attached.tableAnchor ∧ e.attached.side = f.attached.side →
        e.level ≠ f.level))
    (hrows : ∀ e ∈ r.ends, ∀ f ∈ r.ends,
      e.attached.tableAnchor = f.attached.tableAnchor ∧ e.attached.side = f.attached.side →
        e.attached.rect.y = f.attached.rect.y ∨
          ((1 : Nat) : K) < magnitude (e.attached.rect.y - f.attached.rect.y)) : r.Untied := by
  -- Ends of one group are on the same side of the same table.
  have hon : ∀ {table side} {e f : PathEnd K}, e ∈ r.endsOn table side → f ∈ r.endsOn table side →
      e.attached.tableAnchor = f.attached.tableAnchor ∧ e.attached.side = f.attached.side :=
        fun he hf => by
    obtain ⟨htable, hside⟩ := of_decide_eq_true (List.mem_filter.1 he).2
    obtain ⟨htable', hside'⟩ := of_decide_eq_true (List.mem_filter.1 hf).2
    exact ⟨htable.trans htable'.symm, hside.trans hside'.symm⟩
  constructor
  case anchors =>
    refine fun anchor => (hpairs.filter _).imp_of_mem fun {e f} he hf hpair => hpair.1 ?_
    obtain ⟨-, hanchor⟩ := List.mem_filter.1 he
    obtain ⟨-, hanchor'⟩ := List.mem_filter.1 hf
    exact (of_decide_eq_true hanchor).trans (of_decide_eq_true hanchor').symm
  case rows =>
    exact fun table side e he f hf =>
      hrows e (List.mem_of_mem_filter he) f (List.mem_of_mem_filter hf) (hon he hf)
  case levels =>
    exact fun table side => (hpairs.filter _).imp_of_mem fun {e f} he hf hpair =>
      hpair.2 (hon he hf)

end RoutingResult

/-- **The references in another order**: at each place the one that the permutation tells. -/
def reordered (relationships : List Relationship) (σ : Equiv.Perm (Fin relationships.length)) :
    List Relationship := List.ofFn (relationships.get ∘ σ)

/-- A list in another order holds the same relationships. -/
theorem reordered_perm (relationships : List Relationship)
    (σ : Equiv.Perm (Fin relationships.length)) :
    (reordered relationships σ).Perm relationships := by
  have hperm := σ.ofFn_comp_perm relationships.get
  rwa [List.ofFn_get] at hperm

/-- The relationship at an index is the one that the permutation names. -/
theorem getElem?_reordered (relationships : List Relationship)
    (σ : Equiv.Perm (Fin relationships.length))
    (i : Fin relationships.length) :
      (reordered relationships σ)[i.val]? = relationships[(σ i).val]? := by
  rw [reordered, List.getElem?_eq_getElem (by simp), List.getElem?_eq_getElem (σ i).isLt,
    List.getElem_ofFn]
  rfl

/-! ## Pairs with another number -/

/-- A pair of a reference with another number. -/
def ColumnPair.renumbered (p : ColumnPair) (index : Nat) : ColumnPair :=
  { p with relationshipIndex := index }

/-- The pairs of a relationship under another index are the same ones, renumbered. -/
theorem pairsOf_renumbered (r : Relationship) (index index' : Nat) :
    pairsOf r index' = (pairsOf r index).map (·.renumbered index') := by
  rw [pairsOf, pairsOf, List.map_map]
  rfl

/-- The pairs of a reference among all pairs. -/
theorem filter_columnPairs {relationships : List Relationship} {r : Relationship} {index : Nat}
    (h : relationships[index]? = some r) :
    (columnPairs relationships).filter (fun p => decide (p.relationshipIndex = index))
      = pairsOf r index := by
  -- Pairs in order are distinct.
  have hne : ∀ {l : List ColumnPair}, l.Pairwise (·.number < ·.number) → l.Nodup := fun hl =>
    hl.imp fun hlt heq => hlt.ne (congrArg _ heq)
  have horder :=
    (pairwise_columnPairs relationships).filter fun p => decide (p.relationshipIndex = index)
  refine List.Perm.eq_of_pairwise (fun p q _ _ hpq hqp => (lt_asymm hpq hqp).elim) horder
    (pairwise_pairsOf r index)
    ((List.perm_ext_iff_of_nodup (hne horder) (hne (pairwise_pairsOf r index))).2 ?_)
  intro p
  rw [List.mem_filter, mem_columnPairs, mem_pairsOf, decide_eq_true_iff]
  constructor
  · -- A pair of that number belongs to that reference.
    rintro ⟨⟨hr, hpair⟩, rfl⟩
    obtain rfl := Option.some.inj (hr.symm.trans h)
    exact ⟨rfl, rfl, hpair⟩
  · rintro ⟨rfl, rfl, hpair⟩
    exact ⟨⟨h, hpair⟩, rfl⟩

section Connections

variable {K : Type}

/-- A connection of a reference with another number. -/
def Connection.renumbered (c : Connection K) (index : Nat) : Connection K :=
  { c with relationshipIndex := index }

/-- **A path of a reference with another number.** -/
def ConnectionPath.renumbered (p : ConnectionPath K) (index : Nat) : ConnectionPath K :=
  { p with connection := p.connection.renumbered index }

/-- The ends of connections do not depend on the index of their relationship. -/
theorem allEnds_renumbered (connections : List (Connection K)) (index : Nat) :
    allEnds (connections.map (·.renumbered index)) = allEnds connections := List.flatMap_map ..

variable [Add K] [Div K] [NatCast K] [LT K] [DecidableLT K]
variable {schema : Option Schema} {rects : Text → Option (Rect K)}
    {relationships : List Relationship}

/-- A renumbered pair is connected by the renumbered connection. -/
theorem connect?_renumbered (p : ColumnPair) (index : Nat) :
    (p.renumbered index).connect? schema rects
      = (p.connect? schema rects).map (·.renumbered index) := by
  have hfrom : (p.renumbered index).fromRect? schema rects = p.fromRect? schema rects := rfl
  have hto : (p.renumbered index).toRect? schema rects = p.toRect? schema rects := rfl
  rw [ColumnPair.connect?, ColumnPair.connect?, hfrom, hto]
  cases p.fromRect? schema rects <;> cases p.toRect? schema rects <;> rfl

/-- Whether a connection is one of the reference with a number. -/
def isOf (index : Nat) (c : Connection K) : Bool := decide (c.relationshipIndex = index)

/-- The connections of one reference. -/
def connectionsOfOne (schema : Option Schema) (rects : Text → Option (Rect K)) (r : Relationship)
    (index : Nat) : List (Connection K) := (pairsOf r index).filterMap (·.connect? schema rects)

/-- The connections of a relationship under another index are the same ones, renumbered. -/
theorem connectionsOfOne_renumbered (r : Relationship) (index index' : Nat) :
    connectionsOfOne schema rects r index'
      = (connectionsOfOne schema rects r index).map (·.renumbered index') := by
  rw [connectionsOfOne, connectionsOfOne, pairsOf_renumbered r index index', List.filterMap_map,
    List.map_filterMap]
  exact List.filterMap_congr fun p _ => connect?_renumbered p index'

/-- The connections of a reference among all connections. -/
theorem filter_connectionsOf {r : Relationship} {index : Nat} (h : relationships[index]? = some r) :
    (connectionsOf schema rects relationships).filter (isOf index)
      = connectionsOfOne schema rects r index := by
  rw [connectionsOf, connectionsOfOne, ← filter_columnPairs h, List.filter_filterMap,
    List.filterMap_filter]
  refine List.filterMap_congr fun p _ => ?_
  cases hc : p.connect? schema rects with
  | none => simp
  | some c =>
    obtain ⟨source, target, -, -, rfl⟩ := ColumnPair.connect?_eq_some.1 hc
    rfl

/-- What all paths are attached to is told by the references one by one, whatever their numbers
are. -/
theorem allEnds_connectionsOf : allEnds (connectionsOf schema rects relationships)
    = relationships.flatMap fun r => allEnds (connectionsOfOne schema rects r 0) := by
  have hone : ∀ x : Relationship × Nat, allEnds (connectionsOfOne schema rects x.1 x.2)
      = allEnds (connectionsOfOne schema rects x.1 0) := fun x => by
    rw [connectionsOfOne_renumbered x.1 0 x.2, allEnds_renumbered]
  calc allEnds (connectionsOf schema rects relationships)
      = relationships.zipIdx.flatMap fun x => allEnds (connectionsOfOne schema rects x.1 x.2) := by
        rw [connectionsOf, columnPairs, List.filterMap_flatMap, allEnds, List.flatMap_assoc]
        rfl
    _ = relationships.zipIdx.flatMap fun x => allEnds (connectionsOfOne schema rects x.1 0) :=
        List.flatMap_congr fun x _ => hone x
    _ = relationships.flatMap fun r => allEnds (connectionsOfOne schema rects r 0) := by
        conv_rhs => rw [← List.zipIdx_map_fst 0 relationships, List.flatMap_map]

/-- References in another order have the same ends. -/
theorem allEnds_reordered (σ : Equiv.Perm (Fin relationships.length)) :
    (allEnds (connectionsOf schema rects (reordered relationships σ))).Perm
      (allEnds (connectionsOf schema rects relationships)) := by
  rw [allEnds_connectionsOf, allEnds_connectionsOf]
  exact (reordered_perm relationships σ).flatMap_right _

end Connections

/-! ## Paths with another number -/

section Paths

variable {K : Type} [DivisionRing K] [LinearOrder K] [IsStrictOrderedRing K] [Metric K]
variable (config : RouterConfig K) (style : LineStyle)

/-- A connection is drawn in the same way among the same ends in another order. -/
theorem drawConnection_renumbered {ends ends' : List (ConnectionEnd K)} (h : UntiedEnds ends)
    (hperm : ends'.Perm ends) {c : Connection K} {place place' : Nat}
    (hsource : (c.source, 2 * place) ∈ ends.zipIdx)
      (htarget : (c.target, 2 * place + 1) ∈ ends.zipIdx)
    (hsource' : (c.source, 2 * place') ∈ ends'.zipIdx)
    (htarget' : (c.target, 2 * place' + 1) ∈ ends'.zipIdx)
    (index : Nat) :
    drawConnection config style ends' (c.renumbered index) place'
      = (drawConnection config style ends c place).renumbered index := by
  have hfromSlot := slotOf_eq_of_perm h hperm hsource hsource'
  have htoSlot := slotOf_eq_of_perm h hperm htarget htarget'
  have hfromLane := laneOf_eq_of_perm h hperm hsource hsource'
  have htoLane := laneOf_eq_of_perm h hperm htarget htarget'
  unfold drawConnection
  simp only [Connection.renumbered, hfromSlot, htoSlot, hfromLane, htoLane]
  rfl

/-- Some connections are drawn in the same way among all connections in another order. -/
theorem map_drawConnection_renumbered {connections connections' : List (Connection K)}
    (h : UntiedEnds (allEnds connections))
      (hperm : (allEnds connections').Perm (allEnds connections))
    (chosen chosen' : Connection K → Bool) {index : Nat}
    (hchosen : connections'.filter chosen' = (connections.filter chosen).map (·.renumbered index)) :
    ((connections'.zipIdx.filter fun x => chosen' x.1).map fun x =>
        drawConnection config style (allEnds connections') x.1 x.2)
      = ((connections.zipIdx.filter fun x => chosen x.1).map fun x =>
        drawConnection config style (allEnds connections) x.1 x.2).map (·.renumbered index) := by
  rw [← map_fst_filter_zipIdx chosen', ← map_fst_filter_zipIdx chosen, List.map_map] at hchosen
  have hlength := congrArg List.length hchosen
  rw [List.length_map, List.length_map] at hlength
  rw [List.map_map]
  refine List.ext_getElem (by simpa using hlength) fun n hn hn' => ?_
  -- The connections at the same place are the same up to their number.
  have hconnection := List.getElem_of_eq hchosen (by simpa using hn)
  simp only [List.getElem_map, Function.comp_apply] at hconnection ⊢
  rw [List.length_map] at hn hn'
  obtain ⟨hsource, htarget⟩ := mem_zipIdx_allEnds (List.mem_of_mem_filter (List.getElem_mem hn'))
  obtain ⟨hsource', htarget'⟩ := mem_zipIdx_allEnds (List.mem_of_mem_filter (List.getElem_mem hn))
  rw [List.get_eq_getElem] at hsource htarget hsource' htarget'
  rw [hconnection] at hsource' htarget' ⊢
  exact drawConnection_renumbered config style h hperm hsource htarget hsource' htarget' index

variable (schema : Option Schema) (rects : Text → Option (Rect K))
    (relationships : List Relationship)

omit [IsStrictOrderedRing K] in
/-- The paths of one relationship are drawn among the ends of all of them. -/
theorem ofRelationship_route (index : Nat) :
    (route config rects style schema relationships).ofRelationship index
      = ((connectionsOf schema rects relationships).zipIdx.filter
          fun x => isOf index x.1).map fun x =>
            drawConnection config style
              (allEnds (connectionsOf schema rects relationships)) x.1 x.2 := by
  rw [RoutingResult.ofRelationship, paths_route, List.filter_map]
  refine congrArg _ (List.filter_congr fun x _ => ?_)
  simp only [Function.comp_apply, isOf, decide_eq_decide]
  exact Nat.cast_inj

/-- A reference is drawn in the same way wherever it is declared. -/
theorem ofRelationship_reordered (h : (route config rects style schema relationships).Untied)
    (σ : Equiv.Perm (Fin relationships.length)) (i : Fin relationships.length) :
    (route config rects style schema (reordered relationships σ)).ofRelationship i.val
      = ((route config rects style schema relationships).ofRelationship (σ i).val).map
        (·.renumbered i) := by
  have huntied := h.untiedEnds (isDrawn_route config style schema rects relationships)
  rw [attachedEnds_route] at huntied
  have hfound := List.getElem?_eq_getElem (σ i).isLt
  rw [ofRelationship_route, ofRelationship_route]
  refine map_drawConnection_renumbered config style huntied (allEnds_reordered σ) (isOf (σ i).val)
    (isOf i.val) ?_
  rw [filter_connectionsOf ((getElem?_reordered relationships σ i).trans hfound),
    filter_connectionsOf hfound]
  exact connectionsOfOne_renumbered ..

omit [IsStrictOrderedRing K] in
/-- A pair has no path wherever its reference is declared. -/
theorem unresolved_reordered (σ : Equiv.Perm (Fin relationships.length))
    (i : Fin relationships.length)
    (j : Nat) : pairKey i j
      ∈ (route config rects style schema (reordered relationships σ)).unresolved ↔
      pairKey (σ i) j ∈ (route config rects style schema relationships).unresolved := by
  rw [unresolved_route, unresolved_route, mem_keys_unconnectedPairs, mem_keys_unconnectedPairs,
    getElem?_reordered]

/-- **A diagram whose ends are told apart does not depend on the order of the references**: with the
references in another order, each of them has the same paths under its new number, and lacks the
same ones. -/
theorem route_reordered (h : (route config rects style schema relationships).Untied)
    (σ : Equiv.Perm (Fin relationships.length)) (i : Fin relationships.length) :
    let r := route config rects style schema relationships
    let r' := route config rects style schema (reordered relationships σ)
    r'.ofRelationship i.val = (r.ofRelationship (σ i).val).map (·.renumbered i) ∧
      ∀ j, pairKey i j ∈ r'.unresolved ↔ pairKey (σ i) j ∈ r.unresolved :=
  ⟨ofRelationship_reordered config style schema rects relationships h σ i,
    unresolved_reordered config style schema rects relationships σ i⟩

end Paths

/-- The fan with its references in another order. -/
theorem route_reordered_fan :
    let r := route plainDistances fanRects .curve none fanReferences
    let r' := route plainDistances fanRects .curve none (reordered fanReferences (finRotate 3))
    r.Untied ∧ r'.paths.map (·.fromLane) = [0, 0, 0] ∧ r'.paths.map (·.toLane) = [1, 2, 3] ∧
      ∀ i : Fin fanReferences.length,
        r'.ofRelationship i.val = (r.ofRelationship (finRotate 3 i).val).map (·.renumbered i) ∧
          ∀ j, pairKey i j ∈ r'.unresolved ↔ pairKey (finRotate 3 i) j ∈ r.unresolved := by
  have huntied : (route plainDistances fanRects .curve none fanReferences).Untied :=
    RoutingResult.untied_of_pairwise (by decide +kernel) (by decide +kernel)
  exact ⟨huntied, by decide +kernel, by decide +kernel,
    route_reordered plainDistances .curve none fanRects fanReferences huntied (finRotate 3)⟩

end SchemaDiagram
