import Mathlib.Data.List.Forall2
import SchemaDiagram.Declaration.Merge
import SchemaDiagram.Proofs.MapUpdate

/-! # What merging keeps

Merging writes fields, settings and indexes into maps, one after the other. Such a map has every key
once, in the order in which the keys came first, each with what was written last. So a merged table
is told by the lists of what is written: the fields of its body with the partials in place of their
injections, and the settings and indexes of the partials followed by its own.

* **`Latest key items kept`** — what is kept when an item takes the place of the earlier one of its
  key.
* **`OrderedMap.Collects m writes`** — the map that writing some entries leaves; `Collects.update`
  says what writing more of them does.
* **`expandedFields`**, **`injectedPartials`** — what is written.
* **`MergedTable.Resolves`**, **`mergeTable_resolves`** — the merged table, and the reports on
  it. -/

namespace SchemaDiagram

variable {α β : Type}

/-! ## First places and last values -/

/-- **What is kept of some items** when a later one takes the place of an earlier one of its key. -/
structure Latest (key : β → Text) (items kept : List β) : Prop where
  /-- No key twice. -/
  nodup : (kept.map key).Nodup
  /-- The keys stand in the order in which they come first. -/
  order : kept.map key = (items.map key).eraseDups
  /-- Every item is the last one of its key. -/
  last : ∀ x ∈ kept, items.reverse.find? (key · = key x) = some x

namespace OrderedMap

/-- **The map that some writes leave.** -/
structure Collects (m writes : OrderedMap α) : Prop where
  /-- No key twice. -/
  nodup : m.keys.Nodup
  /-- The keys stand in the order of their first writes. -/
  keys : m.keys = writes.keys.eraseDups
  /-- A key has the value of its last write. -/
  get? : ∀ key, m.get? key = OrderedMap.get? writes.reverse key

namespace Collects

variable {m writes : OrderedMap α}

/-- An empty map is what no writes leave. -/
theorem nil : Collects ([] : OrderedMap α) [] := ⟨List.nodup_nil, rfl, fun _ => rfl⟩

/-- One more write. -/
theorem insert (h : m.Collects writes) (key : Text) (value : α) :
    (m.insert key value).Collects (writes ++ [(key, value)]) where
  nodup := nodup_keys_insert h.nodup key value
  keys := by
    have hmem : key ∈ m.keys ↔ key ∈ writes.keys := by rw [h.keys, List.mem_eraseDups]
    have hkeys : OrderedMap.keys (writes ++ [(key, value)]) = writes.keys ++ [key] :=
      List.map_append
    rw [keys_insert, hkeys, List.eraseDups_append, ← h.keys]
    -- A key that is written again keeps its place.
    by_cases hkey : key ∈ writes.keys
    · rw [if_pos (hmem.2 hkey)]
      simp [List.removeAll, hkey]
    · rw [if_neg (mt hmem.1 hkey)]
      simp [List.removeAll, hkey, List.eraseDups_cons]
  get? other := by
    rw [get?_insert, List.reverse_append, List.reverse_singleton, List.singleton_append, get?_cons,
      h.get?]

/-- More writes. -/
theorem update (h : m.Collects writes) (more : OrderedMap α) :
    (m.update more).Collects (writes ++ more) := by
  induction more generalizing m writes with
  | nil => rwa [List.append_nil]
  | cons e more ih =>
    have hrest := ih (h.insert e.1 e.2)
    rwa [List.append_assoc] at hrest

/-- An entry of the map is the last write of its key. -/
theorem last (h : m.Collects writes) {e : Text × α} (he : e ∈ m) :
    writes.reverse.find? (·.1 = e.1) = some e := by
  obtain ⟨key, value⟩ := e
  have hget : OrderedMap.get? writes.reverse key = some value := by
    rw [← h.get?, get?_of_mem h.nodup he]
  obtain ⟨⟨k, v⟩, hfind, rfl⟩ := Option.map_eq_some_iff.1 hget
  have hkey : k = key := by simpa using List.find?_some hfind
  rw [hfind, hkey]

/-- **The entries of the map** are what is kept of the writes. -/
theorem latest (h : m.Collects writes) : Latest Prod.fst writes m :=
  ⟨h.nodup, h.keys, fun _ he => h.last he⟩

/-- **The values of the map** are what is kept of the items that are written under their keys. -/
theorem latest_values {key : β → Text} {items : List β} {m : OrderedMap β}
    (h : m.Collects (items.map fun x => (key x, x))) : Latest key items m.values := by
  -- An entry is a value under its own key.
  have hentry : ∀ e ∈ m, items.reverse.find? (key · = e.1) = some e.2 ∧ key e.2 = e.1 := by
    intro e he
    have hlast := h.last he
    rw [← List.map_reverse, List.find?_map] at hlast
    obtain ⟨x, hfind, rfl⟩ := Option.map_eq_some_iff.1 hlast
    exact ⟨hfind, rfl⟩
  have hkeys : m.values.map key = m.keys := by
    rw [values, OrderedMap.keys, List.map_map]
    exact List.map_congr_left fun e he => (hentry e he).2
  have hwrites : OrderedMap.keys (items.map fun x => (key x, x)) = items.map key := by
    rw [OrderedMap.keys, List.map_map]
    rfl
  refine ⟨hkeys ▸ h.nodup, by rw [hkeys, h.keys, hwrites], fun x hx => ?_⟩
  obtain ⟨e, he, rfl⟩ := List.mem_map.1 hx
  obtain ⟨hfind, hkey⟩ := hentry e he
  rwa [hkey]

end Collects

end OrderedMap

/-! ## What a body writes -/

/-- The partial that an entry takes in. -/
def TableEntry.taken? (partials : OrderedMap TablePartial) : TableEntry → Option TablePartial
  | .field _ => none
  | .inject name _ => partials.get? name

/-- The fields that an entry stands for: itself, or those of the partial that it takes in. -/
def TableEntry.fields (partials : OrderedMap TablePartial) : TableEntry → List Field
  | .field f => [f]
  | .inject name _ => ((partials.get? name).map (·.fields)).getD []

/-- Whether an entry is an injection of an unknown partial. -/
def TableEntry.isUnknown (partials : OrderedMap TablePartial) : TableEntry → Bool
  | .field _ => false
  | .inject name _ => (partials.get? name).isNone

/-- **The fields of a body** with the fields of every known partial in place of its injection. -/
def expandedFields (partials : OrderedMap TablePartial) (entries : List TableEntry) : List Field :=
  entries.flatMap (·.fields partials)

/-- **The partials that a body takes in**, in the order of their injections. -/
def injectedPartials (partials : OrderedMap TablePartial) (entries : List TableEntry) :
    List TablePartial :=
  entries.filterMap (·.taken? partials)

/-- The note of a partial that has more than an empty one. -/
def TablePartial.properNote? (p : TablePartial) : Option Text := p.note.filter (! ·.isEmpty)

/-- **A table with all injections resolved.** -/
structure MergedTable.Resolves (m : MergedTable) (written : List Field) (taken : List TablePartial)
    (header : OrderedMap Text) (own : List IndexEntry) : Prop where
  /-- Of the fields, the last one of each name, in the place of the first one. -/
  fields : Latest (·.name) written m.fields.values
  /-- Of the settings of the partials and the header, the last one of each key. -/
  settings : Latest Prod.fst (taken.flatMap (·.settings) ++ header) m.settings
  /-- Of the indexes of the partials and the table, the last one of each key. -/
  indexes : Latest IndexEntry.key (taken.flatMap (·.indexes) ++ own) m.indexes.values
  /-- The note of the last partial that has one. -/
  note : m.note = (taken.filterMap TablePartial.properNote?).getLast?

/-! ## Merging -/

namespace MergedTable

/-- The maps of a table whose injections are resolved so far. -/
structure Collects (m : MergedTable) (written : List Field) (taken : List TablePartial) : Prop where
  /-- The fields are written under their names. -/
  fields : m.fields.Collects (written.map fun f => (f.name, f))
  /-- The settings are those of the partials. -/
  settings : m.settings.Collects (taken.flatMap (·.settings))
  /-- The indexes are those of the partials, written under their keys. -/
  indexes : m.indexes.Collects ((taken.flatMap (·.indexes)).map fun index => (index.key, index))
  /-- The note is that of the last partial that has one. -/
  note : m.note = (taken.filterMap TablePartial.properNote?).getLast?

variable {m : MergedTable} {written : List Field} {taken : List TablePartial}

/-- Before anything is injected, nothing has been written. -/
theorem Collects.empty : empty.Collects [] [] := ⟨.nil, .nil, .nil, rfl⟩

/-- One partial more. -/
theorem Collects.addPartial (h : m.Collects written taken) (p : TablePartial) :
    (m.addPartial p).Collects (written ++ p.fields) (taken ++ [p]) where
  fields := by
    rw [List.map_append]
    exact h.fields.update _
  settings := by
    rw [List.flatMap_append, List.flatMap_singleton]
    exact h.settings.update p.settings
  indexes := by
    rw [List.flatMap_append, List.flatMap_singleton, List.map_append]
    exact h.indexes.update _
  note := by
    have hnote : ([p].filterMap TablePartial.properNote?).getLast? = p.properNote? := by
      cases hp : p.properNote? <;> simp [hp]
    rw [List.filterMap_append, List.getLast?_append, hnote, ← h.note]
    rfl

/-- **One entry more.** -/
theorem Collects.addEntry (partials : OrderedMap TablePartial) (h : m.Collects written taken)
    (entry : TableEntry) :
    (m.addEntry partials entry).Collects (written ++ entry.fields partials)
      (taken ++ (entry.taken? partials).toList) := by
  -- A field is written under its name, and an injection adds its partial if that is known.
  cases entry with
  | field f =>
    have htaken : taken ++ (TableEntry.taken? partials (.field f)).toList = taken :=
      List.append_nil _
    rw [htaken]
    refine ⟨?_, h.settings, h.indexes, h.note⟩
    rw [List.map_append]
    exact h.fields.insert f.name f
  | inject name line =>
    rw [TableEntry.fields, TableEntry.taken?, MergedTable.addEntry]
    cases partials.get? name with
    | none => simpa using h
    | some p => exact h.addPartial p

/-- **A whole body.** -/
theorem Collects.foldl (partials : OrderedMap TablePartial) (entries : List TableEntry)
    (h : m.Collects written taken) :
    (entries.foldl (MergedTable.addEntry partials) m).Collects
      (written ++ expandedFields partials entries)
        (taken ++ injectedPartials partials entries) := by
  induction entries generalizing m written taken with
  | nil => simpa [expandedFields, injectedPartials] using h
  -- Each step goes on from what the steps before it have written.
  | cons entry entries ih =>
    have hrest := ih (h.addEntry partials entry)
    have hfields : expandedFields partials (entry :: entries)
        = entry.fields partials ++ expandedFields partials entries := List.flatMap_cons
    have htaken : injectedPartials partials (entry :: entries)
        = (entry.taken? partials).toList ++ injectedPartials partials entries := by
      rw [injectedPartials, List.filterMap_cons]
      cases entry.taken? partials <;> rfl
    rwa [hfields, htaken, ← List.append_assoc, ← List.append_assoc]

/-- An unknown injection has no effect. -/
theorem addEntry_of_isUnknown {partials : OrderedMap TablePartial} {entry : TableEntry}
    (h : entry.isUnknown partials = true) : m.addEntry partials entry = m := by
  cases entry with
  | field f => cases h
  | inject name line => rw [addEntry, Option.isNone_iff_eq_none.1 h]

/-- A body has the effect that it has without its unknown injections. -/
theorem foldl_filter_isUnknown (partials : OrderedMap TablePartial) (entries : List TableEntry) :
    (entries.filter (! ·.isUnknown partials)).foldl (addEntry partials) m
      = entries.foldl (addEntry partials) m := by
  induction entries generalizing m with
  | nil => rfl
  | cons entry entries ih =>
    cases hentry : entry.isUnknown partials with
    | true =>
      rw [List.filter_cons_of_neg (by simp [hentry]), List.foldl_cons,
        addEntry_of_isUnknown hentry, ih]
    | false => rw [List.filter_cons_of_pos (by simp [hentry]), List.foldl_cons, List.foldl_cons, ih]

/-- The maps of the merged table, behind the header and the indexes of the table. -/
theorem resolves_mergeTable (entries : List TableEntry) (partials : OrderedMap TablePartial)
    (header : OrderedMap Text) (indexes : List IndexEntry) :
    (mergeTable entries partials header indexes).Resolves (expandedFields partials entries)
      (injectedPartials partials entries) header indexes := by
  have hbody := Collects.empty.foldl partials entries
  rw [List.nil_append, List.nil_append] at hbody
  have hindexes := hbody.indexes.update (indexes.map fun index => (index.key, index))
  rw [← List.map_append] at hindexes
  exact ⟨hbody.fields.latest_values, (hbody.settings.update header).latest, hindexes.latest_values,
    hbody.note⟩

end MergedTable

/-- The warning that a table injects an unknown partial. -/
def IsInjectionWarning (table : Text) (entry : TableEntry) (d : Diagnostic) : Prop :=
  ∃ name line, entry = .inject name line ∧ d = ⟨.unknownPartial table name, line⟩ ∧
    d.severity = .warning

/-- Every unknown injection is reported once, in its place. -/
theorem reports_forall₂ (partials : OrderedMap TablePartial) (table : Text)
    (entries : List TableEntry) :
    List.Forall₂ (IsInjectionWarning table) (entries.filter (·.isUnknown partials))
      (entries.filterMap (unknownInjection? partials table)) := by
  induction entries with
  | nil => exact .nil
  | cons entry entries ih =>
    -- A field is no injection; an injection is reported if its partial is unknown.
    cases entry with
    | field f => exact ih
    | inject name line =>
      rw [List.filter_cons, List.filterMap_cons, TableEntry.isUnknown, unknownInjection?]
      cases partials.get? name with
      | none => exact .cons ⟨name, line, rfl, rfl, rfl⟩ ih
      | some p => exact ih

/-- **Merging a body, its partials, a header and indexes** resolves all known injections, whatever
the order in which fields and injections stand. Every unknown injection is reported by one warning,
and the merged table is what it is without these injections. -/
theorem mergeTable_resolves (entries : List TableEntry) (partials : OrderedMap TablePartial)
    (header : OrderedMap Text) (indexes : List IndexEntry) (table : Text) :
    (mergeTable entries partials header indexes).Resolves (expandedFields partials entries)
        (injectedPartials partials entries) header indexes ∧
      List.Forall₂ (IsInjectionWarning table) (entries.filter (·.isUnknown partials))
        (entries.filterMap (unknownInjection? partials table)) ∧
      mergeTable (entries.filter (! ·.isUnknown partials)) partials header indexes
        = mergeTable entries partials header indexes := by
  refine ⟨MergedTable.resolves_mergeTable .., reports_forall₂ partials table entries, ?_⟩
  rw [mergeTable, MergedTable.foldl_filter_isUnknown]
  rfl

end SchemaDiagram
