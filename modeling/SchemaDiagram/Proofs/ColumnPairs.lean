import SchemaDiagram.Proofs.Numerals
import SchemaDiagram.Proofs.Arranging
import SchemaDiagram.Routing.Route

/-! # Pairs of columns

Routing goes through the pairs of columns of all references. Each pair has a number, that of its
reference and its own among the pairs of the reference, and its key is written with the two. What
becomes of a pair depends on that pair alone: it is connected if both of its ends have a rectangle,
and listed by its key if not.

* **`columnPairs`** — the pairs of some references, in the order of their numbers.
* **`ColumnPair.connect?`** — the connection of a pair.
* **`connectionsOf`** — the connections of some references.
* **`route_eachPairOnce`** — every pair is drawn or listed, once and in order. -/

namespace SchemaDiagram

/-! ## Keys -/

/-- Different counts are written in different ways. -/
theorem Text.ofNat_injective {m n : Nat} (h : Text.ofNat m = Text.ofNat n) : m = n := by
  have hread := congrArg (fun digits => Nat.ofDigitChars 10 digits 0) h
  simpa only [Text.ofNat, Nat.ofDigitChars_ten_toDigits] using hread

/-- No dash stands in a count. -/
theorem dash_notMem_ofNat (n : Nat) : '-' ∉ Text.ofNat n := fun h => by
  have hdigit := allDigits_ofNat n '-' h
  revert hdigit
  decide

/-- Keys of different numbers are different. -/
theorem pairKey_inj {i j i' j' : Nat} (h : pairKey i j = pairKey i' j') : i = i' ∧ j = j' := by
  have hmark : ∀ m n, pairKey m n = "rel-".toList ++ (Text.ofNat m ++ '-' :: Text.ofNat n) :=
    fun m n => by
    simp [pairKey, concat]
  rw [hmark, hmark, List.append_cancel_left_eq,
    List.append_cons_inj_of_notMem (dash_notMem_ofNat i) (dash_notMem_ofNat j)] at h
  obtain ⟨hi, -, hj⟩ := h
  exact ⟨Text.ofNat_injective hi, Text.ofNat_injective hj⟩

/-! ## The pairs of all references -/

/-- A pair of columns of a reference. -/
structure ColumnPair where
  /-- The reference. -/
  relationship : Relationship
  /-- The index of the reference. -/
  relationshipIndex : Nat
  /-- The column of the first table. -/
  fromColumn : Text
  /-- The column of the second table. -/
  toColumn : Text
  /-- The index of the pair in the reference. -/
  pairIndex : Nat

/-- The pairs of one reference. -/
def pairsOf (r : Relationship) (index : Nat) : List ColumnPair :=
  r.pairs.zipIdx.map fun ((fromColumn, toColumn), pairIndex) =>
    ⟨r, index, fromColumn, toColumn, pairIndex⟩

/-- **The pairs of columns of some references.** -/
def columnPairs (relationships : List Relationship) : List ColumnPair :=
  relationships.zipIdx.flatMap fun (r, index) => pairsOf r index

namespace ColumnPair

/-- The number of a pair. -/
def number (p : ColumnPair) : Nat ×ₗ Nat := toLex (p.relationshipIndex, p.pairIndex)

/-- The key of a pair. -/
def key (p : ColumnPair) : Text := pairKey p.relationshipIndex p.pairIndex

/-- Two pairs with the same key have the same number. -/
theorem number_eq_of_key {p q : ColumnPair} (h : p.key = q.key) : p.number = q.number := by
  obtain ⟨hi, hj⟩ := pairKey_inj h
  rw [number, number, hi, hj]

end ColumnPair

/-- A pair of a relationship is told by its index among the columns of both sides. -/
theorem mem_pairsOf {r : Relationship} {index : Nat} {p : ColumnPair} :
    p ∈ pairsOf r index ↔ p.relationship = r ∧ p.relationshipIndex = index ∧
      r.pairs[p.pairIndex]? = some (p.fromColumn, p.toColumn) := by
  simp only [pairsOf, List.mem_map, List.mem_zipIdx_iff_getElem?, Prod.exists]
  constructor
  · rintro ⟨a, b, j, hj, rfl⟩
    exact ⟨rfl, rfl, hj⟩
  · rintro ⟨rfl, rfl, hj⟩
    exact ⟨p.fromColumn, p.toColumn, p.pairIndex, hj, rfl⟩

/-- Which pairs there are. -/
theorem mem_columnPairs {relationships : List Relationship} {p : ColumnPair} :
    p ∈ columnPairs relationships ↔ relationships[p.relationshipIndex]? = some p.relationship ∧
      p.relationship.pairs[p.pairIndex]? = some (p.fromColumn, p.toColumn) := by
  simp only [columnPairs, List.mem_flatMap, List.mem_zipIdx_iff_getElem?, mem_pairsOf, Prod.exists]
  constructor
  · rintro ⟨r, i, hi, rfl, rfl, hj⟩
    exact ⟨hi, hj⟩
  · rintro ⟨hi, hj⟩
    exact ⟨_, _, hi, rfl, rfl, hj⟩

/-- The numbers of the pairs of a relationship grow. -/
theorem pairwise_pairsOf (r : Relationship) (index : Nat) :
    (pairsOf r index).Pairwise (·.number < ·.number) := by
  refine List.pairwise_map.2 ((placed_zipIdx r.pairs 0).imp ?_)
  rintro ⟨⟨a, b⟩, j⟩ ⟨⟨a', b'⟩, j'⟩ hlt
  exact Prod.Lex.toLex_lt_toLex.2 (.inr ⟨rfl, hlt⟩)

/-- The pairs stand in the order of their numbers. -/
theorem pairwise_columnPairs (relationships : List Relationship) :
    (columnPairs relationships).Pairwise (·.number < ·.number) := by
  refine List.pairwise_flatMap.2
    ⟨fun (r, i) _ => pairwise_pairsOf r i, (placed_zipIdx relationships 0).imp ?_⟩
  intro (r, i) (r', i') hlt p hp q hq
  obtain ⟨-, rfl, -⟩ := mem_pairsOf.1 hp
  obtain ⟨-, rfl, -⟩ := mem_pairsOf.1 hq
  exact Prod.Lex.toLex_lt_toLex.2 (.inl hlt)

/-- The keys of the pairs are different. -/
theorem nodup_keys (relationships : List Relationship) :
    ((columnPairs relationships).map (·.key)).Nodup :=
  List.pairwise_map.2 ((pairwise_columnPairs relationships).imp fun hlt heq =>
    hlt.ne (ColumnPair.number_eq_of_key heq))

/-- Pairs of columns with one key are the same. -/
theorem eq_of_key {relationships : List Relationship} {p q : ColumnPair}
    (hp : p ∈ columnPairs relationships)
    (hq : q ∈ columnPairs relationships) (h : p.key = q.key) : p = q := by
  obtain ⟨⟩ := p
  obtain ⟨⟩ := q
  obtain ⟨rfl, rfl⟩ := pairKey_inj h
  obtain ⟨hi, hj⟩ := mem_columnPairs.1 hp
  obtain ⟨hi', hj'⟩ := mem_columnPairs.1 hq
  obtain rfl := Option.some.inj (hi.symm.trans hi')
  obtain ⟨rfl, rfl⟩ := Prod.mk.inj (Option.some.inj (hj.symm.trans hj'))
  rfl

/-- Which keys there are: those of the places at which both lists of columns have one. -/
theorem mem_keys {relationships : List Relationship} {key : Text} :
    key ∈ (columnPairs relationships).map (·.key) ↔ ∃ i j rel, relationships[i]? = some rel ∧
      j < min rel.fromColumns.length rel.toColumns.length ∧ key = pairKey i j := by
  simp only [List.mem_map, mem_columnPairs]
  constructor
  · rintro ⟨p, ⟨hi, hj⟩, rfl⟩
    obtain ⟨hlt, -⟩ := List.getElem?_eq_some_iff.1 hj
    exact ⟨_, _, _, hi, by simpa [Relationship.pairs] using hlt, rfl⟩
  · rintro ⟨i, j, rel, hi, hlt, rfl⟩
    have hj : j < rel.pairs.length := by simpa [Relationship.pairs] using hlt
    exact ⟨⟨rel, i, rel.pairs[j].1, rel.pairs[j].2, j⟩, ⟨hi, List.getElem?_eq_getElem hj⟩, rfl⟩

/-! ## What becomes of a pair -/

/-- The number of the pair that a connection is drawn for. -/
def Connection.number {K : Type} (c : Connection K) : Nat ×ₗ Nat :=
  toLex (c.relationshipIndex, c.pairIndex)

/-- Neither a column nor its table has a rectangle. -/
def HasNoRect {K : Type} (rects : Text → Option (Rect K)) (tableId column : Text) : Prop :=
  rects (columnAnchor tableId column) = none ∧ rects (tableAnchor tableId) = none

/-- No end is measured just where no rectangle is found. -/
theorem measure_eq_none {K : Type} {rects : Text → Option (Rect K)} {tableId column : Text} :
    measure rects tableId column = none ↔ HasNoRect rects tableId column := Option.or_eq_none_iff

variable {K : Type} [Add K] [Div K] [NatCast K] [LT K] [DecidableLT K]
variable (schema : Option Schema) (rects : Text → Option (Rect K))

namespace ColumnPair

variable (p : ColumnPair)

/-- The rectangle at the first end of a pair. -/
def fromRect? : Option (Rect K) :=
  measure rects (tableIdOf schema p.relationship.fromTable) p.fromColumn

/-- The rectangle at the second end of a pair. -/
def toRect? : Option (Rect K) := measure rects (tableIdOf schema p.relationship.toTable) p.toColumn

/-- The connection of a pair whose rectangles have been found. -/
def connection (source target : Rect K) : Connection K :=
  makeConnection p.relationship p.relationshipIndex p.pairIndex
    (tableIdOf schema p.relationship.fromTable)
    (tableIdOf schema p.relationship.toTable) p.fromColumn
    p.toColumn source target

/-- **The connection of a pair**: there is none where an end has no rectangle. -/
def connect? : Option (Connection K) :=
  match p.fromRect? schema rects, p.toRect? schema rects with
  | some source, some target => some (p.connection schema source target)
  | _, _ => none

variable {schema rects p}

/-- A pair is connected just when both of its rectangles are found. -/
theorem connect?_eq_some {c : Connection K} :
    p.connect? schema rects = some c ↔ ∃ source target, p.fromRect? schema rects = some source ∧
      p.toRect? schema rects = some target ∧ c = p.connection schema source target := by
  unfold connect?
  split
  next source target hsource htarget =>
    simp [hsource, htarget, eq_comm]
  next hnone =>
    refine iff_of_false (by simp) ?_
    rintro ⟨source, target, hsource, htarget, -⟩
    exact hnone source target hsource htarget

/-- A pair stays unconnected just when one of its rectangles is not found. -/
theorem connect?_eq_none :
    p.connect? schema rects = none ↔
    p.fromRect? schema rects = none ∨ p.toRect? schema rects = none := by
  unfold connect?
  split
  next source target hsource htarget => simp [hsource, htarget]
  next hnone =>
    refine iff_of_true rfl ?_
    by_contra hboth
    obtain ⟨hsource, htarget⟩ := not_or.1 hboth
    obtain ⟨source, hsource⟩ := Option.ne_none_iff_exists'.1 hsource
    obtain ⟨target, htarget⟩ := Option.ne_none_iff_exists'.1 htarget
    exact hnone source target hsource htarget

/-- A connection keeps the number of its pair. -/
theorem number_of_connect? {c : Connection K} (h : p.connect? schema rects = some c) :
    c.number = p.number := by
  obtain ⟨source, target, -, -, rfl⟩ := connect?_eq_some.1 h
  rfl

/-- A connection keeps the key of its pair. -/
theorem key_of_connect? {c : Connection K} (h : p.connect? schema rects = some c) :
    c.key = p.key := by
  obtain ⟨source, target, -, -, rfl⟩ := connect?_eq_some.1 h
  rfl

end ColumnPair

/-- **The connections of some references.** -/
def connectionsOf (relationships : List Relationship) : List (Connection K) :=
  (columnPairs relationships).filterMap (·.connect? schema rects)

/-- The pairs of some references that have no connection. -/
def unconnectedPairs (relationships : List Relationship) : List ColumnPair :=
  (columnPairs relationships).filter fun p => (p.connect? schema rects).isNone

variable {schema rects} {relationships : List Relationship}

/-- A connection is one of a pair. -/
theorem mem_connectionsOf {c : Connection K} : c ∈ connectionsOf schema rects relationships ↔
    ∃ p ∈ columnPairs relationships, p.connect? schema rects = some c := List.mem_filterMap

/-- The connections stand in the order of their numbers. -/
theorem pairwise_connectionsOf :
    (connectionsOf schema rects relationships).Pairwise (·.number < ·.number) := by
  refine List.pairwise_filterMap.2 ((pairwise_columnPairs relationships).imp fun hlt c hc d hd =>
    ?_)
  rwa [ColumnPair.number_of_connect? hc, ColumnPair.number_of_connect? hd]

/-- Every pair has a connection, or none. -/
theorem keys_perm : ((connectionsOf schema rects relationships).map (·.key)
    ++ (unconnectedPairs schema rects relationships).map (·.key)).Perm
      ((columnPairs relationships).map (·.key)) := by
  have hkeys : (connectionsOf schema rects relationships).map (·.key)
      = ((columnPairs relationships).filter fun p =>
        !(p.connect? schema rects).isNone).map (·.key) := by
    rw [connectionsOf, List.map_filterMap, ← List.filterMap_eq_map, List.filterMap_filter]
    refine List.filterMap_congr fun p _ => ?_
    cases hc : p.connect? schema rects with
    | none => rfl
    | some c => exact congrArg some (ColumnPair.key_of_connect? hc)
  rw [hkeys, unconnectedPairs, ← List.map_append]
  exact (List.perm_append_comm.trans (List.filter_append_perm ..)).map _

/-- Which pairs have no connection. -/
theorem mem_keys_unconnectedPairs {i j : Nat} :
    pairKey i j ∈ (unconnectedPairs schema rects relationships).map (·.key) ↔
      ∃ rel a b, relationships[i]? = some rel ∧ rel.fromColumns[j]? = some a ∧
      rel.toColumns[j]? = some b ∧
        (HasNoRect rects (tableIdOf schema rel.fromTable) a ∨
          HasNoRect rects (tableIdOf schema rel.toTable) b) := by
  simp only [unconnectedPairs, List.mem_map, List.mem_filter, mem_columnPairs,
    Option.isNone_iff_eq_none, ColumnPair.connect?_eq_none, ColumnPair.fromRect?,
    ColumnPair.toRect?, measure_eq_none,
    Relationship.pairs, List.getElem?_zip_eq_some]
  constructor
  · -- Keys tell the pair, so the indexes are those of the pair that is left over.
    rintro ⟨p, ⟨⟨hi, ha, hb⟩, hnone⟩, hkey⟩
    obtain ⟨rfl, rfl⟩ := pairKey_inj hkey
    exact ⟨_, _, _, hi, ha, hb, hnone⟩
  · rintro ⟨rel, a, b, hi, ha, hb, hnone⟩
    exact ⟨⟨rel, i, a, b, j⟩, ⟨⟨hi, ha, hb⟩, hnone⟩, rfl⟩

/-- Routing tells the pairs of a reference one by one. -/
theorem connectPairs_eq (r : Relationship) (index : Nat) :
    connectPairs schema rects r index
      = (pairsOf r index).map fun p => (p.connect? schema rects).elim (.inr p.key) .inl := by
  rw [connectPairs, pairsOf, List.map_map]
  refine List.map_congr_left fun ((a, b), j) _ => ?_
  simp only [Function.comp_apply, ColumnPair.connect?, ColumnPair.fromRect?, ColumnPair.toRect?]
  cases measure rects (tableIdOf schema r.fromTable) a <;>
    cases measure rects (tableIdOf schema r.toTable) b <;> rfl

/-- Every pair comes to a connection or to its key, in order. -/
theorem flatMap_connectPairs :
    (relationships.zipIdx.flatMap fun (r, index) => connectPairs schema rects r index)
      = (columnPairs relationships).map fun p =>
        (p.connect? schema rects).elim (.inr p.key) .inl := by
  rw [columnPairs, List.map_flatMap]
  exact List.flatMap_congr fun (r, index) _ => connectPairs_eq r index

variable [Sub K] [Mul K] [LE K] [DecidableLE K] [Metric K]
variable (config : RouterConfig K) (style : LineStyle)

/-- The paths of a diagram are those of its connections. -/
theorem paths_route :
    (route config rects style schema relationships).paths
      = (connectionsOf schema rects relationships).zipIdx.map fun (c, index) =>
          drawConnection config style
            (allEnds (connectionsOf schema rects relationships)) c index := by
  unfold route
  dsimp only
  rw [flatMap_connectPairs, List.filterMap_map,
    List.filterMap_congr (g := fun p : ColumnPair => p.connect? schema rects), connectionsOf]
  intro p _
  rw [Function.comp_apply]
  cases p.connect? schema rects <;> rfl

/-- The keys left over are those of the pairs that cannot be connected. -/
theorem unresolved_route :
    (route config rects style schema relationships).unresolved
      = (unconnectedPairs schema rects relationships).map (·.key) := by
  unfold route
  dsimp only
  rw [flatMap_connectPairs, List.filterMap_map, unconnectedPairs, ← List.filterMap_eq_map,
    List.filterMap_filter]
  refine List.filterMap_congr fun p _ => ?_
  rw [Function.comp_apply]
  cases p.connect? schema rects <;> rfl

/-- The paths are those of the connections, in order. -/
theorem connections_route :
    (route config rects style schema relationships).paths.map (·.connection)
      = connectionsOf schema rects relationships := by
  rw [paths_route, List.map_map]
  exact List.zipIdx_map_fst 0 _

section OnePair

variable {pair : ColumnPair} (hpair : pair ∈ columnPairs relationships)
include hpair

/-- A pair of columns is listed if it has no connection. -/
theorem key_mem_unresolved_iff :
    pair.key ∈ (route config rects style schema relationships).unresolved ↔
    pair.connect? schema rects = none := by
  rw [unresolved_route, unconnectedPairs, List.mem_map]
  constructor
  · rintro ⟨q, hq, hkey⟩
    obtain ⟨hmem, hnone⟩ := List.mem_filter.1 hq
    exact eq_of_key hmem hpair hkey ▸ Option.isNone_iff_eq_none.1 hnone
  · exact fun hnone => ⟨pair, List.mem_filter.2 ⟨hpair, Option.isNone_iff_eq_none.2 hnone⟩, rfl⟩

/-- A path with the key of a pair of columns is that of its connection. -/
theorem connect?_of_key {p : ConnectionPath K}
    (hp : p ∈ (route config rects style schema relationships).paths)
    (hkey : p.key = pair.key) : pair.connect? schema rects = some p.connection := by
  have hmem := List.mem_map_of_mem (f := (·.connection)) hp
  rw [connections_route, mem_connectionsOf] at hmem
  obtain ⟨q, hq, hconnect⟩ := hmem
  rwa [← eq_of_key hq hpair ((ColumnPair.key_of_connect? hconnect).symm.trans hkey)]

/-- A pair of columns is drawn if it has a connection. -/
theorem exists_path_iff :
    (∃ p ∈ (route config rects style schema relationships).paths, p.key = pair.key) ↔
    pair.connect? schema rects ≠ none := by
  constructor
  · rintro ⟨p, hp, hkey⟩
    rw [connect?_of_key config style hpair hp hkey]
    simp
  · intro hconnect
    -- The pair has a connection, and every connection has its path.
    obtain ⟨c, hc⟩ := Option.ne_none_iff_exists'.1 hconnect
    have hmem : c ∈ (route config rects style schema relationships).paths.map (·.connection) := by
      rw [connections_route]
      exact mem_connectionsOf.2 ⟨pair, hpair, hc⟩
    obtain ⟨p, hp, rfl⟩ := List.mem_map.1 hmem
    exact ⟨p, hp, ColumnPair.key_of_connect? hc⟩

end OnePair

/-- **Every pair of columns is drawn or listed**, once and in order. -/
structure RoutingResult.EachPairOnce (schema : Option Schema) (rects : Text → Option (Rect K))
    (relationships : List Relationship) (r : RoutingResult K) : Prop where
  /-- No pair is drawn or listed twice. -/
  nodup : (r.paths.map (·.key) ++ r.unresolved).Nodup
  /-- There is a pair at every place that is in both lists of columns of a reference. -/
  keys : ∀ key, key ∈ r.paths.map (·.key) ++ r.unresolved ↔
    ∃ i j rel, relationships[i]? = some rel ∧
    j < min rel.fromColumns.length rel.toColumns.length ∧ key = pairKey i j
  /-- The paths are in order. -/
  pathOrder : r.paths.Pairwise (·.connection.number < ·.connection.number)
  /-- The listed keys are in order. -/
  unresolvedOrder : ∃ missing : List (Nat ×ₗ Nat), missing.Pairwise (· < ·) ∧
    r.unresolved = missing.map fun n => pairKey (ofLex n).1 (ofLex n).2
  /-- A pair is listed where an end has no rectangle. -/
  unresolved : ∀ i j, pairKey i j ∈ r.unresolved ↔
    ∃ rel a b, relationships[i]? = some rel ∧ rel.fromColumns[j]? = some a ∧
    rel.toColumns[j]? = some b ∧
      (HasNoRect rects (tableIdOf schema rel.fromTable) a ∨
        HasNoRect rects (tableIdOf schema rel.toTable) b)
  /-- A path joins the columns of its pair. -/
  joined : ∀ path ∈ r.paths, ∃ rel a b, relationships[path.connection.relationshipIndex]?
    = some rel ∧
    rel.fromColumns[path.connection.pairIndex]? = some a ∧
    rel.toColumns[path.connection.pairIndex]? = some b ∧
    path.connection.source.anchor = columnAnchor (tableIdOf schema rel.fromTable) a ∧
    path.connection.target.anchor = columnAnchor (tableIdOf schema rel.toTable) b
  /-- The markers are those of the start and of the end of each path. -/
  anchors : r.anchors = r.paths.flatMap fun path =>
    [⟨path.connection.source.anchor, path.start, path.key⟩,
      ⟨path.connection.target.anchor, path.stop, path.key⟩]

/-- **Routing loses no pair of columns and draws none twice.** -/
theorem route_eachPairOnce (config : RouterConfig K) (rects : Text → Option (Rect K))
    (style : LineStyle) (schema : Option Schema) (relationships : List Relationship) :
    (route config rects style schema relationships).EachPairOnce schema rects relationships := by
  -- What is said of a connection may be said of its path.
  have hpaths : ∀ {α : Type} (f : Connection K → α),
      (route config rects style schema relationships).paths.map (fun path => f path.connection)
        = (connectionsOf schema rects relationships).map f := fun f => by
    rw [← connections_route config style, List.map_map]
    rfl
  -- Every pair goes to the paths or to the keys that are left over.
  have hperm : ((route config rects style schema relationships).paths.map (·.key)
      ++ (route config rects style schema relationships).unresolved).Perm
        ((columnPairs relationships).map (·.key)) := by
    rw [unresolved_route]
    exact hpaths (·.key) ▸ keys_perm
  constructor
  case nodup => exact hperm.nodup_iff.2 (nodup_keys relationships)
  case keys => exact fun key => hperm.mem_iff.trans mem_keys
  case pathOrder =>
    have horder : (connectionsOf schema rects relationships).Pairwise (·.number < ·.number) :=
      pairwise_connectionsOf
    rwa [← connections_route config style, List.pairwise_map] at horder
  case unresolvedOrder =>
    -- The keys left over are those of the pairs without a connection, in the order of the pairs.
    refine ⟨(unconnectedPairs schema rects relationships).map (·.number), ?_, ?_⟩
    · exact List.pairwise_map.2 ((pairwise_columnPairs relationships).filter _)
    · rw [unresolved_route, List.map_map]
      rfl
  case unresolved =>
    intro i j
    rw [unresolved_route]
    exact mem_keys_unconnectedPairs
  case joined =>
    intro path hpath
    -- The path is traced back to its pair, which has the columns of both sides.
    have hmem := List.mem_map_of_mem (f := (·.connection)) hpath
    rw [connections_route, mem_connectionsOf] at hmem
    obtain ⟨p, hp, hconnect⟩ := hmem
    obtain ⟨hi, hj⟩ := mem_columnPairs.1 hp
    obtain ⟨ha, hb⟩ := List.getElem?_zip_eq_some.1 hj
    obtain ⟨source, target, -, -, hc⟩ := ColumnPair.connect?_eq_some.1 hconnect
    rw [hc]
    exact ⟨p.relationship, p.fromColumn, p.toColumn, hi, ha, hb, rfl, rfl⟩
  case anchors => rfl

end SchemaDiagram
