import Mathlib.Data.List.Infix
import SchemaDiagram.Json.Merge
import SchemaDiagram.Proofs.MapUpdate

/-! # Merged layers, path by path

A nested map is told by its leaves, the values at its paths that are no maps, and by the order of
the keys on each of its levels. Of two layers the upper one decides at a path as soon as it has a
leaf there or on the way, or a map there; else the leaf of the lower one shows through.

* **`Json.valueAt?`**, **`Json.leafAt?`**, **`Json.keysAt?`** — what stands at a path of keys.
* **`Json.EndsWithin`** — a layer that has a leaf at a path or on the way to it.
* **`Json.IsNested`** — a value in which every map has texts as keys, each once.
* **`valueAt?_merge`** — what stands at a path of two merged layers.
* **`merge_leafwise`** — the leaves, the keys and their order, and that a layer over itself stays as
  it is. -/

namespace SchemaDiagram

/-- The values of the keys of a map stay when one is written once more. -/
theorem OrderedMap.insert_of_get? {α : Type} {m : OrderedMap α} {key : Text} {value : α}
    (h : m.get? key = some value) : m.insert key value = m := by
  induction m with
  | nil => cases h
  | cons entry rest ih =>
    obtain ⟨k, v⟩ := entry
    rw [get?_cons] at h
    rw [insert]
    split at h
    next heq => rw [if_pos heq, Option.some.inj h]
    next hne => rw [if_neg hne, ih h]

namespace Json

/-! ## Paths -/

/-- Whether a value is a map, whatever its keys are. -/
def isMap : Json → Bool
  | object _ | table _ => true
  | _ => false

/-- The keys of a map, in order. -/
def keys? : Json → Option (List Text)
  | object members => some (OrderedMap.keys members)
  | _ => none

/-- **The value at a path** of keys. -/
def valueAt? (j : Json) : List Text → Option Json
  | [] => some j
  | key :: path => (j.get? key).bind fun value => value.valueAt? path

/-- **The leaf at a path**: the value there, unless that is a map. -/
def leafAt? (j : Json) (path : List Text) : Option Json := (j.valueAt? path).filter (!·.isMap)

/-- **The keys at a path**, where a map stands there. -/
def keysAt? (j : Json) (path : List Text) : Option (List Text) := (j.valueAt? path).bind keys?

/-- **There is a leaf at a path or on the way to it.** -/
def EndsWithin (j : Json) (path : List Text) : Prop :=
  ∃ before, before <+: path ∧ (j.leafAt? before).isSome

instance (j : Json) (path : List Text) : Decidable (j.EndsWithin path) :=
  decidable_of_iff (∃ before ∈ path.inits, (j.leafAt? before).isSome) (by simp [EndsWithin])

/-- The keys of a map are texts, each there once. -/
def HasPlainKeys : Json → Prop
  | object members => (OrderedMap.keys members).Nodup
  | table _ => False
  | _ => True

/-- **A value in which every map has texts as keys**, each there once. -/
def IsNested (j : Json) : Prop := ∀ path value, j.valueAt? path = some value → value.HasPlainKeys

variable {j base upper value : Json} {key : Text} {path : List Text}

@[simp] theorem valueAt?_nil (j : Json) : j.valueAt? [] = some j := by rw [valueAt?]

/-- A path goes on in the value of its first key. -/
theorem valueAt?_of_some (h : j.get? key = some value) (path : List Text) :
    j.valueAt? (key :: path) = value.valueAt? path := by rw [valueAt?, h, Option.bind_some]

/-- A path ends where its first key is missing. -/
theorem valueAt?_of_none (h : j.get? key = none) (path : List Text) :
    j.valueAt? (key :: path) = none := by
  rw [valueAt?, h, Option.bind_none]

/-- A value that is no map has no keys. -/
theorem get?_of_isMap_eq_false (h : j.isMap = false) (key : Text) : j.get? key = none := by
  cases j <;> first | rfl | cases h

/-- There is a leaf at a path just when it leads to a value that is no map. -/
theorem isSome_leafAt?_iff :
    (j.leafAt? path).isSome ↔ ∃ value, j.valueAt? path = some value ∧ value.isMap = false := by
  simp [leafAt?, Option.isSome_filter, Option.any_eq_true]

/-- A leaf at a path or on the way to it is the value itself, or it is one of the value of the first
key. -/
theorem endsWithin_cons : j.EndsWithin (key :: path) ↔
    j.isMap = false ∨ ∃ value, j.get? key = some value ∧ value.EndsWithin path := by
  constructor
  · rintro ⟨before, hbefore, hleaf⟩
    obtain ⟨leaf, hvalue, hmap⟩ := isSome_leafAt?_iff.1 hleaf
    -- The leaf is the value itself, or it lies behind the first key.
    obtain rfl | ⟨rest, rfl, hrest⟩ := List.prefix_cons_iff.1 hbefore
    · obtain rfl := Option.some.inj hvalue
      exact .inl hmap
    · rw [valueAt?] at hvalue
      obtain ⟨value, hkey, hvalue⟩ := Option.bind_eq_some_iff.1 hvalue
      exact .inr ⟨value, hkey, rest, hrest, isSome_leafAt?_iff.2 ⟨leaf, hvalue, hmap⟩⟩
  · rintro (hmap | ⟨value, hkey, before, hbefore, hleaf⟩)
    · exact ⟨[], List.nil_prefix, isSome_leafAt?_iff.2 ⟨j, valueAt?_nil j, hmap⟩⟩
    · refine ⟨key :: before, List.cons_prefix_cons.2 ⟨rfl, hbefore⟩, ?_⟩
      rwa [leafAt?, valueAt?_of_some hkey]

namespace IsNested

/-- A nested value has plain keys itself. -/
theorem hasPlainKeys (h : j.IsNested) : j.HasPlainKeys := h [] j (valueAt?_nil j)

/-- What stands at a path of a nested map is nested. -/
theorem valueAt (h : j.IsNested) (hvalue : j.get? key = some value) : value.IsNested :=
  fun path inner hinner =>
  h (key :: path) inner (by rwa [valueAt?_of_some hvalue])

/-- A nested value is a map with texts as keys, or no map at all. -/
theorem cases (h : j.IsNested) :
    (∃ members, j = object members ∧ (OrderedMap.keys members).Nodup) ∨ j.isMap = false := by
  have hkeys := h.hasPlainKeys
  cases j with
  | object members => exact .inl ⟨members, rfl, hkeys⟩
  | table entries => exact hkeys.elim
  | _ => exact .inr rfl

end IsNested

/-! ## One level -/

/-- A value over another one that may be missing. -/
def mergeOver (base : Option Json) (value : Json) : Json :=
  base.elim value fun base => merge base value

/-- Members are merged one by one, the first one first. -/
theorem mergeMembers_cons (below : OrderedMap Json) (key : Text) (value : Json)
    (members : OrderedMap Json) :
    mergeMembers below ((key, value) :: members)
      = mergeMembers (below.insert key (mergeOver (below.get? key) value)) members := by
  rw [mergeMembers]
  cases below.get? key <;> rfl

/-- The value of a key in merged members. -/
theorem get?_mergeMembers (below : OrderedMap Json) {members : OrderedMap Json}
    (hn : members.keys.Nodup) (key : Text) : (mergeMembers below members : OrderedMap Json).get? key
      = ((members.get? key).map (mergeOver (below.get? key))).or (below.get? key) := by
  induction members generalizing below with
  | nil => rw [mergeMembers]; rfl
  | cons entry members ih =>
    obtain ⟨k, v⟩ := entry
    -- No key stands twice, so the first member with the key is the only one.
    obtain ⟨hk, hrest⟩ : k ∉ OrderedMap.keys members ∧ (OrderedMap.keys members).Nodup :=
      List.nodup_cons.1 hn
    rw [mergeMembers_cons, ih _ hrest, OrderedMap.get?_insert, OrderedMap.get?_cons]
    by_cases heq : k = key
    · subst heq
      rw [if_pos rfl, if_pos rfl, OrderedMap.get?_eq_none hk]
      rfl
    · rw [if_neg heq, if_neg heq]

/-- **The keys of merged members**: those below in their order, and behind them the new ones in
theirs. -/
theorem keys_mergeMembers (below : OrderedMap Json) {members : OrderedMap Json}
    (hn : members.keys.Nodup) :
    (mergeMembers below members : OrderedMap Json).keys
      = below.keys ++ members.keys.filter (· ∉ below.keys) := by
  induction members generalizing below with
  | nil => rw [mergeMembers]; simp [OrderedMap.keys]
  | cons entry members ih =>
    obtain ⟨k, v⟩ := entry
    obtain ⟨hk, hrest⟩ : k ∉ OrderedMap.keys members ∧ (OrderedMap.keys members).Nodup :=
      List.nodup_cons.1 hn
    rw [mergeMembers_cons, ih _ hrest, OrderedMap.keys_insert,
      show OrderedMap.keys ((k, v) :: members) = k :: OrderedMap.keys members from rfl]
    by_cases hmem : k ∈ below.keys
    · rw [if_pos hmem, List.filter_cons_of_neg (by simpa using hmem)]
    · rw [if_neg hmem, List.filter_cons_of_pos (by simpa using hmem), List.append_assoc,
        List.singleton_append]
      congr 2
      -- The key that has just been written is no longer new, but no later member has it.
      refine List.filter_congr fun other hother => ?_
      have hne : other ≠ k := fun heq => hk (heq ▸ hother)
      simp [hne]

/-- No key stands twice among merged members. -/
theorem nodup_keys_mergeMembers {below : OrderedMap Json} (h : below.keys.Nodup)
    (members : OrderedMap Json) :
    (mergeMembers below members : OrderedMap Json).keys.Nodup := by
  induction members generalizing below with
  | nil => rwa [mergeMembers]
  | cons entry members ih =>
    rw [mergeMembers_cons]
    exact ih (OrderedMap.nodup_keys_insert h _ _)

/-- A value that is no map replaces whatever stands below it. -/
theorem merge_of_isMap_eq_false (base : Json) (h : upper.isMap = false) :
    merge base upper = upper := by
  cases upper with
  | object members => cases h
  | table entries => cases h
  | _ => simp only [merge]

/-- A map replaces a value that is no map. -/
theorem merge_object_of_isMap_eq_false (h : base.isMap = false) (members : OrderedMap Json) :
    merge base (object members) = object members := by
  cases base with
  | object below => cases h
  | table entries => cases h
  | _ => simp only [merge]

/-- Two maps are merged member by member. -/
theorem merge_object (below members : OrderedMap Json) :
    merge (object below) (object members) = object (mergeMembers below members) := by rw [merge]

/-- **The value of a key of two merged values.** -/
theorem get?_merge (hbase : base.IsNested) (hupper : upper.IsNested) (key : Text) :
    (merge base upper).get? key = ((upper.get? key).map (mergeOver (base.get? key))).or
      (if upper.isMap then base.get? key else none) := by
  obtain ⟨members, rfl, hmembers⟩ | hleaf := hupper.cases
  · obtain ⟨below, rfl, -⟩ | hbelow := hbase.cases
    · rw [merge_object]
      exact get?_mergeMembers below hmembers key
    · rw [merge_object_of_isMap_eq_false hbelow, get?_of_isMap_eq_false hbelow, isMap, if_pos rfl,
        Option.or_none]
      exact Option.map_id'.symm
  · rw [merge_of_isMap_eq_false base hleaf, get?_of_isMap_eq_false hleaf, hleaf]
    rfl

/-! ## All levels -/

/-- **What stands at a path of two merged values**: what the upper one has there, over what stands
below it; else what stands below, unless the upper one ends on the way. -/
theorem valueAt?_merge (hbase : base.IsNested) (hupper : upper.IsNested) (path : List Text) :
    (merge base upper).valueAt? path = match upper.valueAt? path with
      | some value => some (mergeOver (base.valueAt? path) value)
      | none => if upper.EndsWithin path then none else base.valueAt? path := by
  -- By induction on the path, over the layers: each key leads to the values that are merged one
  -- level further down.
  induction path generalizing base upper with
  | nil => rfl
  | cons key path ih =>
    have hget := get?_merge hbase hupper key
    cases hover : upper.get? key with
    | none =>
      rw [valueAt?_of_none hover]
      rw [hover, Option.map_none, Option.none_or] at hget
      have hends : upper.EndsWithin (key :: path) ↔ upper.isMap = false := by
        simp [endsWithin_cons, hover]
      cases hmap : upper.isMap with
      | true => simp [valueAt?, hget, hends, hmap]
      | false => simp [valueAt?, hget, hends, hmap]
    | some value =>
      have hmap : upper.isMap = true := by
        by_contra hleaf
        rw [get?_of_isMap_eq_false (by simpa using hleaf)] at hover
        cases hover
      have hends : upper.EndsWithin (key :: path) ↔ value.EndsWithin path := by
        simp [endsWithin_cons, hover, hmap]
      rw [hover, Option.map_some, Option.some_or] at hget
      rw [valueAt?_of_some hget, valueAt?_of_some hover]
      simp only [hends]
      cases hbelow : base.get? key with
      | none =>
        rw [valueAt?_of_none hbelow]
        show value.valueAt? path = _
        cases value.valueAt? path with
        | none => simp
        | some inner => rfl
      | some below =>
        rw [valueAt?_of_some hbelow]
        exact ih (hbase.valueAt hbelow) (hupper.valueAt hover)

/-! ## Leaves and keys -/

/-- A value that is no map is merged over anything by replacing it. -/
theorem mergeOver_of_isMap_eq_false (below : Option Json) (h : value.isMap = false) :
    mergeOver below value = value := by
  cases below with
  | none => rfl
  | some base => exact merge_of_isMap_eq_false base h

/-- A map over something else is a map whose keys are those below and behind them the new ones. -/
theorem exists_mergeOver_object {below : Option Json} (hbelow : ∀ base ∈ below, base.HasPlainKeys)
    {members : OrderedMap Json} (hn : members.keys.Nodup) :
      ∃ merged, mergeOver below (object members) = object merged ∧
      (OrderedMap.keys merged).Nodup ∧ OrderedMap.keys merged
        = (below.bind keys?).getD [] ++ members.keys.filter (· ∉ (below.bind keys?).getD []) := by
  cases below with
  | none => exact ⟨members, rfl, hn, by simp⟩
  | some base =>
    have hbase := hbelow base rfl
    -- A map keeps what stands below it, and anything else is replaced by the map.
    cases base with
    | object below =>
      exact ⟨mergeMembers below members, merge_object below members,
        nodup_keys_mergeMembers hbase members, keys_mergeMembers below hn⟩
    | table entries => exact hbase.elim
    | _ => exact ⟨members, merge_object_of_isMap_eq_false rfl members, hn, by simp [keys?]⟩

/-- A path leads nowhere, to a leaf, or to a map without a key that stands twice. -/
theorem IsNested.valueAt?_cases (h : j.IsNested) (path : List Text) : j.valueAt? path = none ∨
    (∃ leaf, j.valueAt? path = some leaf ∧ leaf.isMap = false) ∨
    ∃ members, j.valueAt? path = some (object members) ∧ (OrderedMap.keys members).Nodup := by
  cases hvalue : j.valueAt? path with
  | none => exact .inl rfl
  | some value =>
    have hkeys := h path value hvalue
    cases value with
    | object members => exact .inr (.inr ⟨members, rfl, hkeys⟩)
    | table entries => exact hkeys.elim
    | _ => exact .inr (.inl ⟨_, rfl, rfl⟩)

/-- There is no leaf where a map stands. -/
theorem leafAt?_of_object {members : OrderedMap Json}
    (h : j.valueAt? path = some (object members)) :
    j.leafAt? path = none := by rw [leafAt?, h]; rfl

/-- The keys at a path are those of the map that stands there. -/
theorem keysAt?_of_object {members : OrderedMap Json}
    (h : j.valueAt? path = some (object members)) :
    j.keysAt? path = some members.keys := by rw [keysAt?, h]; rfl

/-- There are no keys where a leaf stands. -/
theorem keysAt?_of_isMap_eq_false (h : j.valueAt? path = some value) (hleaf : value.isMap = false) :
    j.keysAt? path = none := by
  rw [keysAt?, h, Option.bind_some]
  cases value <;> first | rfl | cases hleaf

/-- **The leaves of two merged values**: those of the upper one, and those of the lower one at the
paths at which the upper one has no map and no leaf, there or on the way. -/
theorem leafAt?_merge (hbase : base.IsNested) (hupper : upper.IsNested) (path : List Text)
    (leaf : Json) :
    (merge base upper).leafAt? path = some leaf ↔ upper.leafAt? path = some leaf ∨
      base.leafAt? path = some leaf ∧ upper.keysAt? path = none ∧ ¬ upper.EndsWithin path := by
  have hvalue := valueAt?_merge hbase hupper path
  -- What the upper layer has at the path decides: nothing, a leaf or a map.
  obtain hnone | ⟨value, hsome, hleaf⟩ | ⟨members, hsome, hn⟩ := hupper.valueAt?_cases path
  · rw [hnone] at hvalue
    by_cases hends : upper.EndsWithin path <;> simp [leafAt?, keysAt?, hvalue, hnone, hends]
  · have hends : upper.EndsWithin path :=
      ⟨path, List.prefix_rfl, isSome_leafAt?_iff.2 ⟨value, hsome, hleaf⟩⟩
    simp [leafAt?, hvalue, hsome, hends, mergeOver_of_isMap_eq_false, hleaf]
  · -- A map of the upper layer leaves a map at the path, and no leaf.
    obtain ⟨merged, hmerged, -, -⟩ := exists_mergeOver_object (fun below => hbase path below) hn
    rw [hsome] at hvalue
    rw [leafAt?_of_object (hvalue.trans (congrArg some hmerged)), leafAt?_of_object hsome,
      keysAt?_of_object hsome]
    simp

/-- **The maps of two merged values**, with their keys: those of the lower one in their order, and
behind them the new ones of the upper one in theirs. -/
theorem keysAt?_merge (hbase : base.IsNested) (hupper : upper.IsNested) (path : List Text)
    (keys : List Text) :
    (merge base upper).keysAt? path = some keys ↔
      ((upper.keysAt? path).isSome ∨ (base.keysAt? path).isSome ∧ ¬ upper.EndsWithin path) ∧
      keys = (base.keysAt? path).getD [] ++
        ((upper.keysAt? path).getD []).filter (· ∉ (base.keysAt? path).getD []) := by
  have hvalue := valueAt?_merge hbase hupper path
  obtain hnone | ⟨value, hsome, hleaf⟩ | ⟨members, hsome, hn⟩ := hupper.valueAt?_cases path
  · rw [hnone] at hvalue
    have hupperKeys : upper.keysAt? path = none := by rw [keysAt?, hnone]; rfl
    -- Without anything at the path, the upper layer may still end on the way to it.
    by_cases hends : upper.EndsWithin path
    · simp [keysAt?, hvalue, hnone, hends]
    · have hsame : (merge base upper).keysAt? path = base.keysAt? path := by
        simp [keysAt?, hvalue, hends]
      rw [hsame, hupperKeys]
      cases base.keysAt? path with
      | none => simp
      | some below => simp [hends, eq_comm]
  · have hends : upper.EndsWithin path :=
      ⟨path, List.prefix_rfl, isSome_leafAt?_iff.2 ⟨value, hsome, hleaf⟩⟩
    rw [hsome] at hvalue
    have hvalue : (merge base upper).valueAt? path = some value :=
      hvalue.trans (congrArg some (mergeOver_of_isMap_eq_false _ hleaf))
    rw [keysAt?_of_isMap_eq_false hvalue hleaf, keysAt?_of_isMap_eq_false hsome hleaf]
    simp [hends]
  · -- The keys of both maps are there, the lower ones first.
    obtain ⟨merged, hmerged, -, hkeys⟩ := exists_mergeOver_object (fun below => hbase path below) hn
    rw [hsome] at hvalue
    rw [keysAt?_of_object (hvalue.trans (congrArg some hmerged)), hkeys, keysAt?_of_object hsome]
    exact ⟨fun h => ⟨.inl rfl, (Option.some.inj h).symm⟩, fun h => congrArg some h.2.symm⟩

/-- Merging keeps maps nested. -/
theorem IsNested.merge (hbase : base.IsNested) (hupper : upper.IsNested) :
    (merge base upper).IsNested := by
  intro path value hvalue
  rw [valueAt?_merge hbase hupper path] at hvalue
  obtain hnone | ⟨leaf, hsome, hleaf⟩ | ⟨members, hsome, hn⟩ := hupper.valueAt?_cases path
  · -- Where the upper layer has nothing, the value is one of the lower layer.
    rw [hnone] at hvalue
    dsimp only at hvalue
    split at hvalue
    next => cases hvalue
    next => exact hbase path value hvalue
  · rw [hsome] at hvalue
    obtain rfl := Option.some.inj hvalue
    rw [mergeOver_of_isMap_eq_false _ hleaf]
    exact hupper path leaf hsome
  · -- Merged members have no key twice.
    obtain ⟨merged, hmerged, hmergedKeys, -⟩ :=
      exists_mergeOver_object (fun below => hbase path below) hn
    rw [hsome] at hvalue
    obtain rfl := Option.some.inj hvalue
    rw [hmerged]
    exact hmergedKeys

/-- Members over a map that has them stay as they are, if each does so itself. -/
theorem mergeMembers_eq_self {below : OrderedMap Json} {members : OrderedMap Json}
    (h : ∀ e ∈ members, below.get? e.1 = some e.2 ∧ Json.merge e.2 e.2 = e.2) :
      mergeMembers below members = below := by
  induction members with
  | nil => rw [mergeMembers]
  | cons entry members ih =>
    obtain ⟨⟨hget, hself⟩, hrest⟩ := List.forall_mem_cons.1 h
    rw [mergeMembers_cons, hget, show mergeOver (some entry.2) entry.2 = entry.2 from hself,
      OrderedMap.insert_of_get? hget, ih hrest]

/-- The value of a member is smaller than the map. -/
theorem sizeOf_lt_of_mem {members : OrderedMap Json} {e : Text × Json} (h : e ∈ members) :
    sizeOf e.2 < sizeOf (object members) := by
  have hentry := List.sizeOf_lt_of_mem h
  obtain ⟨key, value⟩ := e
  rw [Prod.mk.sizeOf_spec] at hentry
  rw [object.sizeOf_spec]
  show sizeOf value < 1 + sizeOf members
  omega

/-- **A layer over itself stays as it is.** -/
theorem merge_self : {j : Json} → j.IsNested → Json.merge j j = j
  | object members, h => by
    -- Every key is there already, so nothing moves, and its value is merged with itself.
    rw [merge_object, mergeMembers_eq_self]
    intro e he
    have hget := OrderedMap.get?_of_mem h.hasPlainKeys he
    exact ⟨hget, merge_self (h.valueAt hget)⟩
  | table entries, h => h.hasPlainKeys.elim
  | null, _ | bool _, _ | int _, _ | float _, _ | text _, _ | list _, _ | moment _, _ =>
    merge_of_isMap_eq_false _ rfl
termination_by j => sizeOf j
decreasing_by exact sizeOf_lt_of_mem he

/-! ## Layers -/

/-- A value that is no map is nested. -/
theorem isNested_of_isMap_eq_false (h : j.isMap = false) : j.IsNested := by
  intro path value hvalue
  cases path with
  | nil =>
    obtain rfl := Option.some.inj hvalue
    cases j with
    | object members => cases h
    | table entries => cases h
    | _ => trivial
  | cons key path =>
    rw [valueAt?_of_none (get?_of_isMap_eq_false h key)] at hvalue
    cases hvalue

/-- A map is nested if its keys are different and its values are nested. -/
theorem isNested_object_iff {members : OrderedMap Json} :
    (object members).IsNested ↔ members.keys.Nodup ∧ ∀ e ∈ members, e.2.IsNested := by
  constructor
  · intro h
    exact ⟨h.hasPlainKeys, fun e he => h.valueAt (OrderedMap.get?_of_mem h.hasPlainKeys he)⟩
  · rintro ⟨hn, hmembers⟩ path value hvalue
    cases path with
    | nil =>
      obtain rfl := Option.some.inj hvalue
      exact hn
    | cons key path =>
      obtain ⟨next, hnext, hvalue⟩ := Option.bind_eq_some_iff.1 hvalue
      exact hmembers _ (OrderedMap.mem_of_get? hnext) path value hvalue

/-- **Layers are merged leaf by leaf.** At a path stands the leaf of the upper layer, if it has one
there; else that of the lower layer, unless the upper one has a map there or a leaf on the way; and
nothing else. On every level the keys of the lower layer come first, as it has them, and then the
new ones, as the upper one has them. A layer over itself stays as it is. -/
theorem merge_leafwise {lower upper : OrderedMap Json} (hlower : (object lower).IsNested)
    (hupper : (object upper).IsNested) :
    let merged := Json.merge (object lower) (object upper)
    merged.IsNested ∧
    (∀ path leaf, merged.leafAt? path = some leaf ↔ (object upper).leafAt? path = some leaf ∨
      (object lower).leafAt? path = some leaf ∧ (object upper).keysAt? path = none ∧
        ¬ (object upper).EndsWithin path) ∧
    (∀ path keys, merged.keysAt? path = some keys ↔
      (((object upper).keysAt? path).isSome ∨
        ((object lower).keysAt? path).isSome ∧ ¬ (object upper).EndsWithin path) ∧
      let known := ((object lower).keysAt? path).getD []
      keys = known ++ (((object upper).keysAt? path).getD []).filter (· ∉ known)) ∧
    Json.merge (object lower) (object lower) = object lower :=
  ⟨hlower.merge hupper, leafAt?_merge hlower hupper, keysAt?_merge hlower hupper, merge_self hlower⟩

/-- A map over a number, nothing over a map, a map over a text, and new keys on two levels. -/
theorem merge_leafwise_sections :
    let lower : OrderedMap Json := [("display".toList, object [("theme".toList, text "light"),
      ("grid_size".toList, int 20)]), ("layout".toList, int 5),
      ("logging".toList, object [("level".toList, int 30)])]
    let upper : OrderedMap Json :=
      [("router".toList, object []), ("layout".toList, object [("columns".toList, int 3)]),
        ("logging".toList, null),
        ("display".toList,
        object [("zoom".toList, int 2), ("theme".toList, object [("name".toList, text "dark")])])]
    let merged := Json.merge (object lower) (object upper)
    (object lower).IsNested ∧ (object upper).IsNested ∧
      merged.leafAt? ["display".toList, "grid_size".toList] = some (int 20) ∧
      merged.leafAt? ["logging".toList] = some null ∧
      merged.keysAt? ["display".toList] = some ["theme".toList, "grid_size".toList, "zoom".toList] ∧
      merged.keysAt? []
        = some ["display".toList, "layout".toList, "logging".toList, "router".toList] := by
  intro lower upper merged
  -- The single values are no maps, so they are nested.
  have hint (n : Int) : (int n).IsNested := isNested_of_isMap_eq_false rfl
  have htext (s : Text) : (text s).IsNested := isNested_of_isMap_eq_false rfl
  have hnull : null.IsNested := isNested_of_isMap_eq_false rfl
  have hlower : (object lower).IsNested := by
    simp [lower, isNested_object_iff, OrderedMap.keys, hint, htext]
  have hupper : (object upper).IsNested := by
    simp [upper, isNested_object_iff, OrderedMap.keys, hint, htext, hnull]
  -- What stands at the paths is read off the theorem.
  obtain ⟨-, hleaves, hkeys, -⟩ := merge_leafwise hlower hupper
  exact ⟨hlower, hupper, (hleaves _ _).2 (.inr ⟨rfl, rfl, by decide⟩), (hleaves _ _).2 (.inl rfl),
    (hkeys _ _).2 ⟨.inl rfl, by decide⟩, (hkeys _ _).2 ⟨.inl rfl, by decide⟩⟩

end Json

end SchemaDiagram
