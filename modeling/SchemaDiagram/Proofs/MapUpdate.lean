import SchemaDiagram.OrderedMap

/-! # Writing one map into another

Writing a map with distinct keys into another one replaces the values of the keys that both have and
puts the other entries at the end.

* **`OrderedMap.overlay values entry`** — the entry with the value that `values` has for its key.
* **`update_eq`** — the map after the writing.
* **`update_update`** — writing two maps one after the other.
* **`ofList_overlay_append`** — replacing values in a list of entries and putting the entries that
  it lacks behind them is writing into its map.
* **`mem_of_get?_ofList`**, **`get?_ofList`** — reading the map of a list of entries. -/

namespace SchemaDiagram.OrderedMap

variable {α : Type}

/-- The entry with the value that the map has for its key, where it has one. -/
def overlay (values : OrderedMap α) (entry : Text × α) : Text × α :=
  (entry.1, (values.get? entry.1).getD entry.2)

@[simp] theorem overlay_fst (values : OrderedMap α) (entry : Text × α) :
    (overlay values entry).1 = entry.1 := rfl

/-- The key of an entry is one of the keys. -/
theorem mem_keys {m : OrderedMap α} {entry : Text × α} (h : entry ∈ m) : entry.1 ∈ m.keys :=
  List.mem_map_of_mem h

/-- Nothing is found under a key that is not there. -/
theorem get?_eq_none {m : OrderedMap α} {key : Text} (h : key ∉ m.keys) : m.get? key = none := by
  rw [get?, Option.map_eq_none_iff, List.find?_eq_none]
  intro entry hentry heq
  have hkey : entry.1 = key := by simpa using heq
  exact h (hkey ▸ mem_keys hentry)

/-- A new key comes last, with its value. -/
theorem insert_of_not_mem {m : OrderedMap α} {key : Text} (h : key ∉ m.keys) (value : α) :
    m.insert key value = m ++ [(key, value)] := by
  induction m with
  | nil => rfl
  | cons entry rest ih =>
    simp only [keys, List.map_cons, List.mem_cons, not_or] at h
    rw [insert, if_neg (Ne.symm h.1), ih h.2, List.cons_append]

/-- Replacing values is writing the replaced value. -/
theorem insert_map_overlay (values m : OrderedMap α) (key : Text) (value : α) :
    insert (m.map (overlay values)) key ((values.get? key).getD value)
      = (m.insert key value).map (overlay values) := by
  induction m with
  | nil => rfl
  | cons entry rest ih =>
    obtain ⟨k, v⟩ := entry
    by_cases hk : k = key
    · subst hk
      simp [insert, overlay]
    · simp only [List.map_cons, insert, overlay, hk, if_false]
      rw [← ih]

/-- New values may be put in before an update or behind it. -/
theorem update_map_overlay (values m entries : OrderedMap α) :
    update (m.map (overlay values)) (entries.map (overlay values))
      = (m.update entries).map (overlay values) := by
  induction entries generalizing m with
  | nil => rfl
  | cons entry entries ih =>
    rw [List.map_cons, update, update, List.foldl_cons, List.foldl_cons]
    rw [← update, ← update, ← ih]
    congr 1
    exact insert_map_overlay values m entry.1 entry.2

/-- The keys behind an insertion are those before it and the inserted one. -/
theorem mem_keys_insert {m : OrderedMap α} {key other : Text} {value : α} :
    other ∈ (m.insert key value).keys ↔ other ∈ m.keys ∨ other = key := by
  rw [keys_insert]
  by_cases h : key ∈ m.keys
  · rw [if_pos h]
    exact ⟨.inl, fun h' => h'.elim id fun heq => heq ▸ h⟩
  · simp [h]

/-- The keys behind an update are those before it and those of the update. -/
theorem mem_keys_update {m entries : OrderedMap α} {key : Text} :
    key ∈ (m.update entries).keys ↔ key ∈ m.keys ∨ key ∈ entries.keys := by
  induction entries generalizing m with
  | nil => simp [update, keys]
  | cons entry entries ih =>
    rw [update, List.foldl_cons, ← update, ih, mem_keys_insert, or_assoc]
    simp [keys]

/-- No key stands twice behind an insertion. -/
theorem nodup_keys_insert {m : OrderedMap α} (h : m.keys.Nodup) (key : Text) (value : α) :
    (m.insert key value).keys.Nodup := by
  rw [keys_insert]
  by_cases hk : key ∈ m.keys
  · rwa [if_pos hk]
  · rw [if_neg hk]
    exact List.nodup_append.2 ⟨h, by simp, fun a ha b hb => by
      rw [List.mem_singleton.1 hb]
      rintro rfl
      exact hk ha⟩

/-- The keys of a map that has been written are distinct. -/
theorem nodup_keys_update {m : OrderedMap α} (h : m.keys.Nodup) (entries : OrderedMap α) :
    (m.update entries).keys.Nodup := by
  induction entries generalizing m with
  | nil => exact h
  | cons entry entries ih => exact ih (nodup_keys_insert h entry.1 entry.2)

/-- Changing the values keeps the keys. -/
@[simp] theorem keys_mapValues {β : Type} (f : α → β) (m : OrderedMap α) :
    (mapValues f m).keys = m.keys := by
  rw [keys, mapValues, List.map_map]
  rfl

/-- The entries whose keys are not among the given ones. -/
def without (values : OrderedMap α) (known : List Text) : OrderedMap α :=
  values.filter fun entry => !known.contains entry.1

/-- The first entry of a map is found under its key, and the others under theirs. -/
theorem get?_cons (key : Text) (value : α) (m : OrderedMap α) (other : Text) :
    get? ((key, value) :: m) other = if key = other then some value else m.get? other := by
  by_cases h : key = other <;> simp [get?, h]

/-- A value that is found stands in the map. -/
theorem mem_of_get? {m : OrderedMap α} {key : Text} {value : α} (h : m.get? key = some value) :
    (key, value) ∈ m := by
  obtain ⟨e, he, rfl⟩ := Option.map_eq_some_iff.1 h
  have hkey : e.1 = key := by simpa using List.find?_some he
  rw [← hkey]
  exact List.mem_of_find?_eq_some he

/-- The value of an entry is found under its key, unless the key stands twice. -/
theorem get?_of_mem {m : OrderedMap α} (hm : m.keys.Nodup) {e : Text × α} (h : e ∈ m) :
    m.get? e.1 = some e.2 := by
  induction m with
  | nil => cases h
  | cons f m ih =>
    obtain ⟨key, value⟩ := f
    obtain ⟨hkey, hm'⟩ : key ∉ keys m ∧ (keys m).Nodup := List.nodup_cons.1 hm
    rw [get?_cons]
    rcases List.mem_cons.1 h with rfl | h
    · rw [if_pos rfl]
    · have hne : key ≠ e.1 := fun heq => hkey (heq ▸ mem_keys h)
      rw [if_neg hne]
      exact ih hm' h

/-- Writing a known key replaces its value. -/
theorem insert_of_mem {m : OrderedMap α} (hm : m.keys.Nodup) {key : Text} (h : key ∈ m.keys)
    (value : α) : m.insert key value = m.map (overlay [(key, value)]) := by
  induction m with
  | nil => cases h
  | cons entry rest ih =>
    obtain ⟨k, v⟩ := entry
    obtain ⟨hk, hrest⟩ : k ∉ keys rest ∧ (keys rest).Nodup := List.nodup_cons.1 hm
    -- The key is that of the first entry, and of no other one.
    by_cases heq : k = key
    · subst heq
      have hsame : ∀ e ∈ rest, overlay [(k, value)] e = e := by
        intro e he
        have hne : k ≠ e.1 := fun heq => hk (heq ▸ mem_keys he)
        simp [overlay, get?_cons, hne]
      rw [insert, if_pos rfl, List.map_cons, List.map_congr_left hsame]
      simp [overlay, get?_cons]
    · have hmem : key ∈ keys rest := by
        rcases List.mem_cons.1 h with rfl | h
        · exact absurd rfl heq
        · exact h
      rw [insert, if_neg heq, List.map_cons, ih hrest hmem]
      simp [overlay, get?_cons, Ne.symm heq]

/-- **Writing a map with distinct keys into another one** replaces the values of known keys and puts
the other entries at the end. -/
theorem update_eq {m values : OrderedMap α} (hm : m.keys.Nodup) (hv : values.keys.Nodup) :
    m.update values = m.map (overlay values) ++ values.without m.keys := by
  induction values generalizing m with
  | nil =>
    have hid : ∀ entry ∈ m, overlay ([] : OrderedMap α) entry = entry := fun _ _ => rfl
    rw [List.map_congr_left hid]
    simp [update, without]
  | cons entry values ih =>
    obtain ⟨key, value⟩ := entry
    obtain ⟨hkey, hv'⟩ : key ∉ keys values ∧ (keys values).Nodup := List.nodup_cons.1 hv
    have hnone : get? values key = none := get?_eq_none hkey
    have hstep : m.update ((key, value) :: values) = (m.insert key value).update values := rfl
    rw [hstep, ih (nodup_keys_insert hm key value) hv']
    -- A known key is replaced in the map, and its value is the last one, for it stands once among
    -- the values.
    by_cases hmem : key ∈ m.keys
    · have hoverlay : ∀ e ∈ m, (overlay values ∘ overlay [(key, value)]) e
          = overlay ((key, value) :: values) e := by
        intro e _
        rw [Function.comp_apply]
        by_cases he : key = e.1
        · simp [overlay, get?_cons, ← he, hnone]
        · simp [overlay, get?_cons, he]
      rw [keys_insert, if_pos hmem, insert_of_mem hm hmem, List.map_map,
        List.map_congr_left hoverlay]
      simp [without, hmem]
    · -- A new key is put at the end, behind the entries that are there.
      have hoverlay : ∀ e ∈ m, overlay values e = overlay ((key, value) :: values) e := by
        intro e he
        have hne : key ≠ e.1 := fun heq => hmem (heq ▸ mem_keys he)
        simp [overlay, get?_cons, hne]
      -- The key stands once among the values, so the others do not depend on it.
      have hwithout : without values (m.keys ++ [key]) = without values m.keys := by
        refine List.filter_congr fun e he => ?_
        have hne : e.1 ≠ key := fun heq => hkey (heq ▸ mem_keys he)
        simp [hne]
      rw [keys_insert, if_neg hmem, insert_of_not_mem hmem, List.map_append, hwithout,
        List.map_congr_left hoverlay]
      simp [overlay, hnone, without, hmem]

/-- Entries with distinct keys are the map that they make. -/
theorem ofList_of_nodup {entries : OrderedMap α} (h : entries.keys.Nodup) :
    ofList entries = entries := by
  have hnil : (keys ([] : OrderedMap α)).Nodup := List.nodup_nil
  rw [ofList, update_eq hnil h]
  simp [without, keys]

/-- **Replacing values in a list of entries and putting behind them the entries that it lacks** is
writing into its map. -/
theorem ofList_overlay_append (entries : OrderedMap α) {values : OrderedMap α}
    (hv : values.keys.Nodup) :
    ofList (entries.map (overlay values) ++ values.without entries.keys)
      = (ofList entries).update values := by
  have hnodup : (ofList entries).keys.Nodup := by
    rw [ofList]
    exact nodup_keys_update (by simp [keys]) entries
  have hmem : ∀ key, key ∈ (ofList entries).keys ↔ key ∈ entries.keys := by
    intro key
    rw [ofList, mem_keys_update]
    simp [keys]
  have hkeys : values.without entries.keys = values.without (ofList entries).keys := by
    refine List.filter_congr fun e _ => ?_
    rw [Bool.eq_iff_iff]
    simp [hmem]
  have hlist : ofList (entries.map (overlay values)) = (ofList entries).map (overlay values) :=
    update_map_overlay values [] entries
  have hknown : keys ((ofList entries).map (overlay values)) = (ofList entries).keys := by
    simp [keys]
  have hmissing : (values.without (ofList entries).keys).keys.Nodup :=
    hv.sublist (List.filter_sublist.map _)
  have happend : ofList (entries.map (overlay values) ++ values.without (ofList entries).keys)
      = (ofList (entries.map (overlay values))).update (values.without (ofList entries).keys) :=
    List.foldl_append
  rw [hkeys, happend, update_eq hnodup hv, hlist, update_eq (hknown ▸ hnodup) hmissing, hknown]
  congr 1
  · -- No key of the map is among those it lacks.
    have hsame : ∀ e ∈ (ofList entries).map (overlay values),
        overlay (values.without (ofList entries).keys) e = e := by
      intro e he
      have hnone : (values.without (ofList entries).keys).get? e.1 = none := by
        refine get?_eq_none fun hkey => ?_
        obtain ⟨e', he', heq⟩ := List.mem_map.1 hkey
        have hnot := (List.mem_filter.1 he').2
        have hin : e.1 ∈ (ofList entries).keys := hknown ▸ mem_keys he
        simp [heq, hin] at hnot
      rw [overlay, hnone]
      rfl
    exact List.map_congr_left hsame |>.trans (List.map_id _)
  · rw [without, without, List.filter_filter]
    simp

/-! ## Writing twice -/

/-- The second of two values of a key stays. -/
theorem insert_insert (m : OrderedMap α) (key : Text) (v w : α) :
    (m.insert key v).insert key w = m.insert key w := by
  induction m with
  | nil => simp [insert]
  | cons entry rest ih =>
    obtain ⟨k, u⟩ := entry
    by_cases hk : k = key
    · simp [insert, hk]
    · simp [insert, hk, ih]

/-- Two keys may be written in either order, when the first one is known. -/
theorem insert_comm {m : OrderedMap α} {key other : Text} (hne : key ≠ other) (h : key ∈ m.keys)
    (v w : α) : (m.insert other w).insert key v = (m.insert key v).insert other w := by
  induction m with
  | nil => cases h
  | cons entry rest ih =>
    obtain ⟨k, u⟩ := entry
    by_cases hk : k = key
    · subst hk
      simp [insert, hne]
    · have hrest : key ∈ keys rest := by
        rcases List.mem_cons.1 h with rfl | h
        · exact absurd rfl hk
        · exact h
      by_cases ho : k = other
      · subst ho
        simp [insert, hk]
      · simp [insert, hk, ho, ih hrest]

/-- A known key may be written before other ones. -/
theorem insert_update_comm {m entries : OrderedMap α} {key : Text} (h : key ∈ m.keys)
    (hnot : key ∉ entries.keys) (v : α) :
    (m.update entries).insert key v = (m.insert key v).update entries := by
  induction entries generalizing m with
  | nil => rfl
  | cons entry entries ih =>
    obtain ⟨hne, hnot⟩ : key ≠ entry.1 ∧ key ∉ keys entries := by
      simpa [keys] using hnot
    rw [update, update, List.foldl_cons, List.foldl_cons, ← update, ← update,
      ih (mem_keys_insert.2 (.inl h)) hnot, insert_comm hne h]

/-- Writing a map with one more entry is writing the map and then the entry. -/
theorem update_insert (m : OrderedMap α) {entries : OrderedMap α} (hn : entries.keys.Nodup)
    (key : Text) (v : α) : m.update (entries.insert key v) = (m.update entries).insert key v := by
  induction entries generalizing m with
  | nil => rfl
  | cons entry rest ih =>
    obtain ⟨k, u⟩ := entry
    obtain ⟨hk, hrest⟩ : k ∉ keys rest ∧ (keys rest).Nodup := List.nodup_cons.1 hn
    -- The entry that is replaced is written first, so the replacement is written right behind it.
    by_cases heq : k = key
    · subst heq
      have hmem : k ∈ (m.insert k u).keys := mem_keys_insert.2 (.inr rfl)
      rw [insert, if_pos rfl, update, update, List.foldl_cons, List.foldl_cons, ← update, ← update,
        insert_update_comm hmem hk, insert_insert]
    · rw [insert, if_neg heq, update, update, List.foldl_cons, List.foldl_cons, ← update, ← update]
      exact ih _ hrest

/-- **Writing two maps one after the other** is writing the first one with the second one written
into it. -/
theorem update_update (m : OrderedMap α) {entries : OrderedMap α} (hn : entries.keys.Nodup)
    (values : OrderedMap α) :
    (m.update entries).update values = m.update (entries.update values) := by
  induction values generalizing entries with
  | nil => rfl
  | cons e values ih =>
    have hinsert := update_insert m hn e.1 e.2
    rw [update, List.foldl_cons, ← update, ← hinsert, ih (nodup_keys_insert hn e.1 e.2)]
    rfl

/-- Reading after writing a map with distinct keys. -/
theorem get?_update (m : OrderedMap α) {values : OrderedMap α} (hn : values.keys.Nodup)
    (key : Text) : (m.update values).get? key = (values.get? key).or (m.get? key) := by
  induction values generalizing m with
  | nil => rfl
  | cons e values ih =>
    obtain ⟨k, v⟩ := e
    obtain ⟨hk, hrest⟩ : k ∉ keys values ∧ (keys values).Nodup := List.nodup_cons.1 hn
    rw [update, List.foldl_cons, ← update, ih _ hrest, get?_insert, get?_cons]
    by_cases heq : k = key
    · subst heq
      rw [if_pos rfl, if_pos rfl, get?_eq_none hk]
      rfl
    · rw [if_neg heq, if_neg heq]

/-! ## Maps of entries -/

/-- An entry behind an insertion was there before or is the inserted one. -/
theorem mem_of_mem_insert {m : OrderedMap α} {key : Text} {value : α} {e : Text × α}
    (h : e ∈ m.insert key value) : e ∈ m ∨ e = (key, value) := by
  induction m with
  | nil => exact .inr (List.mem_singleton.1 h)
  | cons entry rest ih =>
    rw [insert] at h
    split at h
    -- The first entry is replaced, or the insertion goes on behind it.
    next heq =>
      subst heq
      exact (List.mem_cons.1 h).elim .inr fun h => .inl (List.mem_cons_of_mem _ h)
    next =>
      obtain rfl | h := List.mem_cons.1 h
      · exact .inl List.mem_cons_self
      · exact (ih h).imp (List.mem_cons_of_mem _) id

/-- An entry behind an update was there before or comes from the update. -/
theorem mem_of_mem_update {m entries : OrderedMap α} {e : Text × α} (h : e ∈ m.update entries) :
    e ∈ m ∨ e ∈ entries := by
  induction entries generalizing m with
  | nil => exact .inl h
  | cons entry entries ih =>
    obtain h | h := ih h
    · refine (mem_of_mem_insert h).imp id fun heq => ?_
      rw [heq]
      exact List.mem_cons_self
    · exact .inr (List.mem_cons_of_mem _ h)

/-- A value is found just under the keys of the map. -/
theorem isSome_get?_iff {m : OrderedMap α} {key : Text} : (m.get? key).isSome ↔ key ∈ m.keys := by
  rw [get?, Option.isSome_map, List.find?_isSome, keys, List.mem_map]
  exact exists_congr fun e => and_congr_right fun _ => decide_eq_true_iff

/-- The value of a key is that of one of its entries. -/
theorem mem_of_get?_ofList {entries : OrderedMap α} {key : Text} {value : α}
    (h : (ofList entries).get? key = some value) : (key, value) ∈ entries :=
  (mem_of_mem_update (mem_of_get? h)).resolve_left List.not_mem_nil

/-- A map made of entries has values under their keys. -/
theorem isSome_get?_ofList {entries : OrderedMap α} {key : Text} :
    ((ofList entries).get? key).isSome ↔ key ∈ entries.keys := by
  rw [isSome_get?_iff, ofList, mem_keys_update]
  simp [keys]

/-- A map made of entries with different keys has their values. -/
theorem get?_ofList {entries : OrderedMap α} (h : entries.keys.Nodup) (key : Text) :
    (ofList entries).get? key = entries.get? key := by
  rw [ofList, get?_update _ h, get?_nil, Option.or_none]

end SchemaDiagram.OrderedMap
