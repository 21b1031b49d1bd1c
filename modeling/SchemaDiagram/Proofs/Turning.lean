import SchemaDiagram.Proofs.Retracing
import SchemaDiagram.Proofs.Untied

/-! # References written from their other ends

A reference may be written from either of its two tables, unless many rows belong together at both
ends. Which way it is written decides which of its ends comes first, and nothing else: the sides,
the slots and the lanes of the two ends are found from both ends alike. So in a diagram whose ends
are told apart, a reference written the other way is drawn as the same line with its ends exchanged.

* **`turned`** — references some of which are written from their other ends.
* **`ConnectionPath.Exchanges`** — a path is another one with its ends exchanged.
* **`route_turned`** — a diagram some of whose references are written from their other ends. -/

namespace SchemaDiagram

/-! ## Turned references and pairs -/

/-- The glyphs of a cardinality are exchanged when it is reversed. -/
theorem Cardinality.glyphs_reverse {c : Cardinality} (h : c ≠ .manyToMany) :
    c.reverse.glyphs = c.glyphs.swap := by
  cases c with
  | manyToMany => exact absurd rfl h
  | _ => rfl

/-- The columns of each pair are exchanged when a relationship is reversed. -/
theorem Relationship.pairs_reverse (r : Relationship) : r.reverse.pairs = r.pairs.map Prod.swap :=
  (List.zip_swap ..).symm

/-- **References some of which are written from their other ends**: those with the given indexes. -/
def turned (indexes : Finset Nat) (relationships : List Relationship) : List Relationship :=
  relationships.mapIdx fun i r => if i ∈ indexes then r.reverse else r

/-- A pair of columns of a turned reference. -/
def ColumnPair.reverse (p : ColumnPair) : ColumnPair :=
  { p with
    relationship := p.relationship.reverse
    fromColumn := p.toColumn
    toColumn := p.fromColumn }

/-- A pair of columns, turned if its reference is. -/
def ColumnPair.turn (indexes : Finset Nat) (p : ColumnPair) : ColumnPair :=
  if p.relationshipIndex ∈ indexes then p.reverse else p

/-- The pairs of a reversed relationship are those of the relationship, reversed. -/
theorem pairsOf_reverse (r : Relationship) (index : Nat) :
    pairsOf r.reverse index = (pairsOf r index).map (·.reverse) := by
  rw [pairsOf, pairsOf, r.pairs_reverse, List.zipIdx_map, List.map_map, List.map_map]
  rfl

/-- A relationship keeps its index whether it is turned round or not. -/
theorem zipIdx_turned (indexes : Finset Nat) (relationships : List Relationship) :
    (turned indexes relationships).zipIdx
      = relationships.zipIdx.map fun (r, i) => (if i ∈ indexes then r.reverse else r, i) := by
  refine List.ext_getElem (by simp [turned]) fun n _ _ => ?_
  simp [turned]

/-- The pairs of turned relationships are those of the relationships, turned. -/
theorem columnPairs_turned (indexes : Finset Nat) (relationships : List Relationship) :
    columnPairs (turned indexes relationships)
      = (columnPairs relationships).map (·.turn indexes) := by
  rw [columnPairs, columnPairs, zipIdx_turned, List.flatMap_map, List.map_flatMap]
  refine List.flatMap_congr fun x _ => ?_
  obtain ⟨r, i⟩ := x
  -- All pairs of one reference are turned, or none.
  have hturn : (pairsOf r i).map (·.turn indexes)
      = (pairsOf r i).map fun p => if i ∈ indexes then p.reverse else p :=
    List.map_congr_left fun p hp => by rw [ColumnPair.turn, (mem_pairsOf.1 hp).2.1]
  rw [hturn]
  dsimp only
  split
  · exact pairsOf_reverse r i
  · exact (List.map_id' _).symm

/-! ## Turned connections -/

section Connections

variable {K : Type}

/-- A connection with its ends exchanged. -/
def Connection.reverse (c : Connection K) : Connection K :=
  { c with source := c.target, target := c.source }

/-- A connection, with its ends exchanged if its reference is turned. -/
def Connection.turn (indexes : Finset Nat) (c : Connection K) : Connection K :=
  if c.relationshipIndex ∈ indexes then c.reverse else c

/-- Turned connections have the same ends. -/
theorem allEnds_turn_perm (indexes : Finset Nat) (connections : List (Connection K)) :
    (allEnds (connections.map (·.turn indexes))).Perm (allEnds connections) := by
  rw [allEnds, allEnds, List.flatMap_map]
  refine List.Perm.flatMap_left _ fun c _ => ?_
  unfold Connection.turn
  split
  · exact List.Perm.swap ..
  · exact List.Perm.refl _

/-- What is measured has a width when every rectangle has one. -/
theorem width_measure [Zero K] [LT K] {rects : Text → Option (Rect K)}
    (hwidth : ∀ id, ∀ r ∈ rects id, 0 < r.width) {tableId column : Text} {r : Rect K}
    (h : measure rects tableId column = some r) : 0 < r.width := by
  obtain h | ⟨-, h⟩ := Option.or_eq_some_iff.1 h
  · exact hwidth _ r h
  · exact hwidth _ r h

/-- It does not matter which one of two overlapping spans is named first. -/
theorem spansOverlap_comm [Add K] [LT K] (r s : Rect K) : r.SpansOverlap s ↔ s.SpansOverlap r :=
  and_comm

variable [DivisionRing K] [LinearOrder K] [IsStrictOrderedRing K]

/-- The sides of two rectangles do not depend on which of them comes first. -/
theorem chooseSides_exchange {r s : Rect K} (hr : 0 < r.width) (hs : 0 < s.width) :
    chooseSides s r = ((chooseSides r s).2.1, (chooseSides r s).1, (chooseSides r s).2.2) := by
  unfold chooseSides
  by_cases hoverlap : r.SpansOverlap s
  · rw [if_pos hoverlap, if_pos ((spansOverlap_comm r s).1 hoverlap)]
  · rw [if_neg hoverlap, if_neg (mt (spansOverlap_comm r s).2 hoverlap)]
    -- Rectangles that start at the same place overlap.
    have hne : r.x ≠ s.x := fun heq =>
      hoverlap ⟨heq ▸ lt_add_of_pos_right _ hs, heq ▸ lt_add_of_pos_right _ hr⟩
    obtain hlt | hgt := lt_or_gt_of_ne hne
    · rw [if_pos hlt, if_neg hlt.not_gt]
    · rw [if_neg hgt.not_gt, if_pos hgt]

/-- A connection is made of exchanged ends by reversing it. -/
theorem makeConnection_reverse {r : Relationship} (hmany : r.cardinality ≠ .manyToMany) (i j : Nat)
    (fromId toId fromColumn toColumn : Text) {source target : Rect K} (hsource : 0 < source.width)
    (htarget : 0 < target.width) :
    makeConnection r.reverse i j toId fromId toColumn fromColumn target source
      = (makeConnection r i j fromId toId fromColumn toColumn source target).reverse := by
  have hglyphs : r.reverse.cardinality.glyphs = r.cardinality.glyphs.swap :=
    Cardinality.glyphs_reverse hmany
  unfold makeConnection
  rw [chooseSides_exchange hsource htarget, hglyphs]
  rfl

variable {schema : Option Schema} {rects : Text → Option (Rect K)}
    {relationships : List Relationship}
variable (hwidth : ∀ id, ∀ r ∈ rects id, 0 < r.width)
include hwidth

/-- A reversed pair is connected by the reversed connection. -/
theorem connect?_reverse {p : ColumnPair} (hmany : p.relationship.cardinality ≠ .manyToMany) :
    p.reverse.connect? schema rects = (p.connect? schema rects).map (·.reverse) := by
  have hfrom : p.reverse.fromRect? schema rects = p.toRect? schema rects := rfl
  have hto : p.reverse.toRect? schema rects = p.fromRect? schema rects := rfl
  rw [ColumnPair.connect?, ColumnPair.connect?, hfrom, hto]
  cases hsource : p.fromRect? schema rects with
  | none => cases p.toRect? schema rects <;> rfl
  | some source =>
    cases htarget : p.toRect? schema rects with
    | none => rfl
    | some target =>
      exact congrArg some (makeConnection_reverse hmany _ _ _ _ _ _ (width_measure hwidth hsource)
        (width_measure hwidth htarget))

variable {indexes : Finset Nat}
variable (hmany : ∀ i ∈ indexes, ∀ r ∈ relationships[i]?, r.cardinality ≠ .manyToMany)
include hmany

/-- A turned pair is connected by the turned connection. -/
theorem connect?_turn {p : ColumnPair} (hp : p ∈ columnPairs relationships) :
    (p.turn indexes).connect? schema rects = (p.connect? schema rects).map (·.turn indexes) := by
  -- The connection has the index of the reference of its pair.
  have hindex : ∀ c, p.connect? schema rects = some c →
      c.relationshipIndex = p.relationshipIndex := by
    intro c hc
    obtain ⟨source, target, -, -, rfl⟩ := ColumnPair.connect?_eq_some.1 hc
    rfl
  have hmap : (p.connect? schema rects).map (·.turn indexes)
      = (p.connect? schema rects).map fun c => if p.relationshipIndex ∈ indexes then c.reverse
      else c :=
    Option.map_congr fun c hc => by rw [Connection.turn, hindex c hc]
  rw [hmap, ColumnPair.turn]
  split
  next hturned => exact connect?_reverse hwidth (hmany _ hturned _ (mem_columnPairs.1 hp).1)
  next => exact Option.map_id'.symm

/-- The connections of turned references are the turned connections. -/
theorem connectionsOf_turned : connectionsOf schema rects (turned indexes relationships)
    = (connectionsOf schema rects relationships).map (·.turn indexes) := by
  rw [connectionsOf, connectionsOf, columnPairs_turned, List.filterMap_map, List.map_filterMap]
  exact List.filterMap_congr fun p hp => connect?_turn hwidth hmany hp

/-- Turned references lack the same paths. -/
theorem unconnectedPairs_turned :
    (unconnectedPairs schema rects (turned indexes relationships)).map (·.key)
      = (unconnectedPairs schema rects relationships).map (·.key) := by
  have hkey : ∀ p : ColumnPair, (p.turn indexes).key = p.key := fun p => by
    unfold ColumnPair.turn
    split <;> rfl
  have hnone : ∀ p ∈ columnPairs relationships,
      ((p.turn indexes).connect? schema rects).isNone = (p.connect? schema rects).isNone :=
        fun p hp => by
    rw [connect?_turn hwidth hmany hp, Option.isNone_map]
  rw [unconnectedPairs, unconnectedPairs, columnPairs_turned, List.filter_map, List.map_map,
    ← List.filter_congr hnone]
  exact List.map_congr_left fun p _ => hkey p

end Connections

/-! ## Turned paths -/

section Paths

variable {K : Type}

/-- **A path is another one with its ends exchanged.** With rounded corners the commands are the
same ones backwards if the radius of the fillets is not negative, and in every other line style
always. -/
structure ConnectionPath.Exchanges (radius : K) [LE K] [Zero K] (p q : ConnectionPath K) :
    Prop where
  /-- The connection has its ends exchanged; its key, its color and whether it is a U-turn are the
  same. -/
  connection : q.connection = p.connection.reverse
  /-- The style is the same. -/
  style : q.style = p.style
  /-- The ends are exchanged. -/
  ends : q.start = p.stop ∧ q.stop = p.start
  /-- The control points are exchanged. -/
  controls : q.controlStart = p.controlEnd ∧ q.controlEnd = p.controlStart
  /-- The glyphs are exchanged. -/
  labels : q.startLabel = p.endLabel ∧ q.endLabel = p.startLabel
  /-- The slots are exchanged. -/
  slots : q.fromSlot = p.toSlot ∧ q.toSlot = p.fromSlot
  /-- The lanes are exchanged. -/
  lanes : q.fromLane = p.toLane ∧ q.toLane = p.fromLane
  /-- The line is run through backwards, so its points come in the reverse order. -/
  commands : (p.style = .roundRectilinear → 0 ≤ radius) → q.commands = retraced p.commands ∧
    q.commands.flatMap (·.points) = (p.commands.flatMap (·.points)).reverse

variable [DivisionRing K] [LinearOrder K] [IsStrictOrderedRing K]
variable (config : RouterConfig K)

/-- The control points between exchanged ends are exchanged. -/
theorem controlPoints_exchange (c : Connection K) (start stop : Point K) (fromLane toLane : Nat) :
    controlPoints config c.reverse stop start toLane fromLane
      = (controlPoints config c start stop fromLane toLane).swap := by
  have hdist : ∀ a b : K, magnitude (a - b) = magnitude (b - a) := fun a b => by
    rw [magnitude_eq_abs, magnitude_eq_abs, abs_sub_comm]
  have hlarger : larger stop.x start.x = larger start.x stop.x := by
    rw [larger_eq_max, larger_eq_max, max_comm]
  unfold controlPoints
  rw [hdist start.y, hdist start.x, hlarger, Nat.max_comm]
  have hturn : c.reverse.uTurn = c.uTurn := rfl
  rw [hturn]
  cases c.uTurn <;> rfl

variable [Metric K] (style : LineStyle)

/-- A connection with its ends exchanged is drawn with its ends exchanged, if these keep their slots
and lanes. -/
theorem drawConnection_reverse {ends ends' : List (ConnectionEnd K)} {c : Connection K}
    {index : Nat}
    (hfromSlot : slotOf ends' c.target (2 * index) = slotOf ends c.target (2 * index + 1))
    (htoSlot : slotOf ends' c.source (2 * index + 1) = slotOf ends c.source (2 * index))
    (hfromLane : laneOf ends' c.target (2 * index) = laneOf ends c.target (2 * index + 1))
    (htoLane : laneOf ends' c.source (2 * index + 1) = laneOf ends c.source (2 * index)) :
    (drawConnection config style ends c index).Exchanges config.cornerRadius
      (drawConnection config style ends' c.reverse index) := by
  have hsource : c.reverse.source = c.target := rfl
  have htarget : c.reverse.target = c.source := rfl
  unfold drawConnection
  rw [hsource, htarget, hfromSlot, htoSlot, hfromLane, htoLane]
  dsimp only
  rw [controlPoints_exchange]
  generalize anchorPoint c.source _ = start
  generalize anchorPoint c.target _ = stop
  obtain ⟨p₁, p₂⟩ := controlPoints config c start stop _ _
  -- All parts but the path are exchanged by how they are drawn.
  refine ⟨rfl, rfl, ⟨rfl, rfl⟩, ⟨rfl, rfl⟩, ⟨rfl, rfl⟩, ⟨rfl, rfl⟩, ⟨rfl, rfl⟩, fun hradius => ?_⟩
  have hback := buildPath_exchange style hradius start p₁ p₂ stop
  -- A path starts at its first point, so its points run backwards, too.
  obtain ⟨rest, hmove⟩ : ∃ rest, buildPath style config.cornerRadius start p₁ p₂ stop
      = .moveTo start :: rest := by
    cases style <;> exact ⟨_, rfl⟩
  refine ⟨hback, ?_⟩
  dsimp only [Prod.swap]
  rw [hback, hmove]
  exact points_retraced start rest

/-- A connection is drawn in the same way among the same ends, and with its ends exchanged if it is
turned. -/
theorem drawConnection_turn {connections : List (Connection K)}
    (h : UntiedEnds (allEnds connections))
    (indexes : Finset Nat) {c : Connection K} {index : Nat} (hc : (c, index) ∈ connections.zipIdx) :
    let p := drawConnection config style (allEnds connections) c index
    let q := drawConnection config style (allEnds (connections.map (·.turn indexes)))
      (c.turn indexes) index
    if c.relationshipIndex ∈ indexes then p.Exchanges config.cornerRadius q else q = p := by
  have hperm := allEnds_turn_perm indexes connections
  have hc' : (c.turn indexes, index) ∈ (connections.map (·.turn indexes)).zipIdx := by
    rw [List.zipIdx_map]
    exact List.mem_map_of_mem hc
  obtain ⟨hsource, htarget⟩ := mem_zipIdx_allEnds hc
  obtain ⟨hsource', htarget'⟩ := mem_zipIdx_allEnds hc'
  generalize allEnds (connections.map (·.turn indexes)) = ends' at *
  generalize allEnds connections = ends at *
  dsimp only
  split
  -- The ends are those of the turned connection, in exchanged places.
  next hturned =>
    rw [Connection.turn, if_pos hturned] at hsource' htarget' ⊢
    exact drawConnection_reverse config style (slotOf_eq_of_perm h hperm htarget hsource')
      (slotOf_eq_of_perm h hperm hsource htarget') (laneOf_eq_of_perm h hperm htarget hsource')
      (laneOf_eq_of_perm h hperm hsource htarget')
  -- The connection is not turned, and the ends are the same in another order.
  next hturned =>
    rw [Connection.turn, if_neg hturned] at hsource' htarget' ⊢
    unfold drawConnection
    rw [slotOf_eq_of_perm h hperm hsource hsource', slotOf_eq_of_perm h hperm htarget htarget',
      laneOf_eq_of_perm h hperm hsource hsource', laneOf_eq_of_perm h hperm htarget htarget']

variable {schema : Option Schema} {rects : Text → Option (Rect K)}
    {relationships : List Relationship}

/-- **A diagram whose ends are told apart does not depend on the direction in which its references
are written**: with some of them written from their other ends, the paths of these have their ends
exchanged, and all other paths are the same. -/
theorem route_turned (hwidth : ∀ id, ∀ r ∈ rects id, 0 < r.width)
    (h : (route config rects style schema relationships).Untied) {indexes : Finset Nat}
    (hmany : ∀ i ∈ indexes, ∀ r ∈ relationships[i]?, r.cardinality ≠ .manyToMany) :
    let r := route config rects style schema relationships
    let r' := route config rects style schema (turned indexes relationships)
    List.Forall₂ (fun p q => if p.connection.relationshipIndex ∈ indexes
        then p.Exchanges config.cornerRadius q else q = p) r.paths r'.paths ∧
      r'.unresolved = r.unresolved := by
  have huntied := h.untiedEnds (isDrawn_route config style schema rects relationships)
  rw [attachedEnds_route] at huntied
  dsimp only
  rw [paths_route, paths_route, unresolved_route, unresolved_route,
    connectionsOf_turned hwidth hmany, unconnectedPairs_turned hwidth hmany, List.zipIdx_map,
    List.map_map]
  refine ⟨?_, rfl⟩
  rw [List.forall₂_map_left_iff, List.forall₂_map_right_iff, List.forall₂_same]
  exact fun (c, index) hc => drawConnection_turn config style huntied indexes hc

end Paths

/-- What holds of every value of a list holds of the one that is looked up. -/
theorem forall_lookup {α β : Type} [BEq α] [LawfulBEq α] {P : β → Prop} {l : List (α × β)}
    (h : ∀ x ∈ l, P x.2) (a : α) : ∀ b ∈ l.lookup a, P b := by
  intro b hb
  obtain ⟨front, back, rfl, -⟩ := List.lookup_eq_some_iff.1 hb
  exact h (a, b) (List.mem_append_right front List.mem_cons_self)

/-- The fan with its first two references written from their other ends. The third one, of many rows
to many rows, stays as it is. -/
theorem route_turned_fan :
    let indexes : Finset Nat := {0, 1}
    let r := route plainDistances fanRects .curve none fanReferences
    let r' := route plainDistances fanRects .curve none (turned indexes fanReferences)
    (∀ id, ∀ rect ∈ fanRects id, 0 < rect.width) ∧ r.Untied ∧
      (∀ i ∈ indexes, ∀ reference ∈ fanReferences[i]?, reference.cardinality ≠ .manyToMany) ∧
      (r.paths.map fun p => (p.fromLane, p.toLane)) = [(0, 3), (0, 1), (0, 2)] ∧
      (r'.paths.map fun p => (p.fromLane, p.toLane)) = [(3, 0), (1, 0), (0, 2)] ∧
      List.Forall₂ (fun p q => if p.connection.relationshipIndex ∈ indexes
        then p.Exchanges plainDistances.cornerRadius q else q = p) r.paths r'.paths ∧
      r'.unresolved = r.unresolved := by
  have hwidth : ∀ id, ∀ rect ∈ fanRects id, 0 < rect.width := forall_lookup (by decide +kernel)
  have huntied : (route plainDistances fanRects .curve none fanReferences).Untied :=
    RoutingResult.untied_of_pairwise (by decide +kernel) (by decide +kernel)
  have hmany : ∀ i ∈ ({0, 1} : Finset Nat), ∀ reference ∈ fanReferences[i]?,
      reference.cardinality ≠ .manyToMany := by decide +kernel
  exact ⟨hwidth, huntied, hmany, by decide +kernel, by decide +kernel,
    route_turned plainDistances .curve hwidth huntied hmany⟩

end SchemaDiagram
