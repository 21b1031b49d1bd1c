import SchemaDiagram.Proofs.Rewriting
import SchemaDiagram.Proofs.WrittenValues

/-! # Updating a settings list

A settings list is a map that keeps its spelling. Writing values into a list at whose end nothing is
open updates the map: items with other keys stay as they are spelled, in their order, new keys come
last, and a second writing changes nothing.

* **`isSettingValue_formatValue`** — every value is written so that the splitting gives it back.
* **`rawItems s`** — the items as they are spelled, with their keys.
* **`Updated`** and **`rewriteSettings_updated`** — what writing values makes of a list. -/

namespace SchemaDiagram

/-! ## Written values in a list -/

/-- A quoted text ends at its closing quote, whatever stands in it. -/
theorem pass?_escaped (s : Text) (depth : Nat) :
    SplitState.pass? ⟨some '\x27', false, depth⟩ (escaped s ++ ['\x27'])
      = some ⟨none, false, depth⟩ := by
  induction s with
  | nil => rfl
  | cons c s ih =>
    -- A backslash or a quote is escaped, and its own backslash makes it stand for itself.
    by_cases hc : c = '\\' ∨ c = '\x27'
    · have htext : escaped (c :: s) = '\\' :: c :: escaped s := by
        rw [escaped, List.flatMap_cons, if_pos hc]
        rfl
      rw [htext, List.cons_append, List.cons_append, SplitState.pass?_quoted,
        SplitState.behind_backslash (by decide), SplitState.pass?_quoted,
        SplitState.behind_escaped, ih]
    · -- Any other character stays inside the quotes.
      push Not at hc
      have htext : escaped (c :: s) = c :: escaped s := by
        rw [escaped, List.flatMap_cons, if_neg (by simp [hc])]
        rfl
      rw [htext, List.cons_append, SplitState.pass?_quoted,
        SplitState.behind_quoted (fun h => hc.1 h.1), if_neg hc.2, ih]

/-- A quoted text is a chunk. -/
theorem isChunk_quoteValue (s : Text) : IsChunk (quoteValue s) := by
  rw [← List.append_nil (quoteValue s), quoteValue_append, IsChunk,
    SplitState.pass?_cons _ (by decide), SplitState.outside,
    SplitState.behind_quote (by decide), pass?_escaped]

/-- **Every value is written so that the splitting gives it back.** -/
theorem isSettingValue_formatValue (value : Scalar) : IsSettingValue (formatValue value) := by
  rcases formatValue_cases value with ⟨hne, hbare⟩ | ⟨s, -, hquoted⟩
  · refine ⟨.of_bland fun c hc => ?_, (isWritten_of_bare hne hbare).trimmed, hne⟩
    exact (isKeyChar_iff.1 (isBareChar_iff.1 (hbare c hc)).1).1
  · rw [hquoted]
    exact ⟨isChunk_quoteValue s, trimmed_quoteValue s, by simp [quoteValue]⟩

/-- Values under keys that can be written. -/
theorem settingEntries_mapValues {values : OrderedMap Scalar}
    (hkey : ∀ k ∈ values.keys, IsSettingKey k)
    (hnodup : values.keys.Nodup) : SettingEntries (OrderedMap.mapValues formatValue values) := by
  refine ⟨fun e he => hkey e.1 ?_, fun e he => ?_, by rwa [OrderedMap.keys_mapValues]⟩
  · rw [← OrderedMap.keys_mapValues formatValue]
    exact OrderedMap.mem_keys he
  · obtain ⟨entry, -, rfl⟩ := List.mem_map.1 he
    exact isSettingValue_formatValue entry.2

/-! ## Items as they are spelled -/

/-- The items of a list as they are spelled, with their keys. -/
def rawItems (s : Text) : List (Text × Text) :=
  (splitSettings s 0).map fun item => (item.key, item.span.slice s)

/-- The item of a part as it is spelled, with its key. -/
def rawItem? (p : Text) : Option (Text × Text) := (itemText? p).map fun e => (e.1.key, e.2)

/-- The items of a list are read off its parts, wherever the list starts in the text. -/
theorem map_itemsFrom_slice {text a : Text} {ps : List Text} (h : text = a ++ Text.join [','] ps) :
    (itemsFrom a.length ps).map (fun item => (item.key, item.span.slice text))
      = ps.filterMap rawItem? := by
  induction ps generalizing a with
  | nil => rfl
  | cons p ps ih =>
    -- The part stands at the front of what is left of the list.
    obtain ⟨b, hb, hrest⟩ := exists_behind h
    have hps : (itemsFrom (a.length + p.length + 1) ps).map
        (fun item => (item.key, item.span.slice text)) = ps.filterMap rawItem? := by
      rcases hrest with rfl | hrest
      · rfl
      · have hih := ih hrest
        rwa [length_behind] at hih
    rw [itemsFrom, List.map_append, hps, List.filterMap_cons, rawItem?, itemText?]
    cases hitem : partItem? p with
    | none => rfl
    | some item =>
      -- The item is the part without its blanks, at its place in the text.
      obtain ⟨lead, trail, hp, -, -, hspan⟩ := exists_span hitem
      have htext : text = (a ++ lead) ++ (p.trim ++ (trail ++ b)) := by
        rw [hb]
        nth_rewrite 1 [hp]
        simp
      have hslice : (item.span.shift a.length).slice text = p.trim := by
        rw [hspan, Span.shift_behind]
        exact slice_behind htext (by rw [List.length_append, Nat.add_comm])
      simp [SettingItem.shift, hslice]

/-- **The items of a list as they are spelled** are its parts without the blanks at their ends. -/
theorem rawItems_join {ps : List Text} (hne : ps ≠ []) (h : ∀ p ∈ ps, IsChunk p) :
    rawItems (Text.join [','] ps) = ps.filterMap rawItem? := by
  rw [rawItems, splitSettings_join hne h]
  exact map_itemsFrom_slice (a := []) rfl

/-- The keys of a list are those of its parts. -/
theorem keys_join {ps : List Text} (hne : ps ≠ []) (h : ∀ p ∈ ps, IsChunk p) :
    (rawItems (Text.join [','] ps)).map (·.1) = OrderedMap.keys (ps.filterMap keyValue?) := by
  rw [rawItems, splitSettings_join hne h, List.map_map, ← map_itemsFrom 0, OrderedMap.keys,
    List.map_map]
  rfl

/-- The key under which a part says something. -/
theorem map_fst_rawItem? (p : Text) : (rawItem? p).map Prod.fst = (keyValue? p).map Prod.fst := by
  rw [rawItem?, keyValue?_eq_itemText?, Option.map_map, Option.map_map]
  rfl

section

variable {values : OrderedMap Text}

/-- A part keeps its key when values are written into it. -/
theorem map_fst_rewritePart (hv : SettingEntries values) (p : Text) :
    (rawItem? (rewritePart values p)).map Prod.fst = (rawItem? p).map Prod.fst := by
  rw [map_fst_rawItem?, map_fst_rawItem?, (rewrites hv p).keyValue?_eq hv, Option.map_map]
  cases keyValue? p <;> rfl

/-- **A part with another key** is spelled as it was. -/
theorem filter_rewritePart (hv : SettingEntries values) (p : Text) :
    (rawItem? (rewritePart values p)).filter (fun e => e.1 ∉ values.keys)
      = (rawItem? p).filter (fun e => e.1 ∉ values.keys) := by
  have hfst := map_fst_rewritePart hv p
  -- A key that is written is filtered out on both sides, and a part with any other key is kept.
  cases hraw : rawItem? p with
  | none =>
    rw [hraw, Option.map_none, Option.map_eq_none_iff] at hfst
    rw [hfst]
  | some e =>
    by_cases hkey : e.1 ∈ values.keys
    · rw [hraw, Option.map_some, Option.map_eq_some_iff] at hfst
      obtain ⟨e', he', heq⟩ := hfst
      rw [he', Option.filter_some_neg (by simpa [heq] using hkey),
        Option.filter_some_neg (by simpa using hkey)]
    · have hkept : rewritePart values p = p := by
        refine rewritePart_kept hv fun item hitem => OrderedMap.get?_eq_none ?_
        rw [rawItem?, itemText?, Option.mem_def.1 hitem] at hraw
        obtain rfl := Option.some.inj hraw
        exact hkey
      rw [hkept, hraw]

namespace RewrittenList

variable {Good : Text → Prop} {ps old fresh : List Text}

/-- The old parts are spelled as the old list was. -/
theorem raw_old (h : RewrittenList values Good ps old fresh) :
    old.filterMap rawItem? = ps.filterMap rawItem? := by
  rw [show rawItem? = fun p => (itemText? p).map fun e => (e.1.key, e.2) from rfl,
    ← List.map_filterMap, h.items, List.map_filterMap]

/-- **Parts with other keys** stay as they are spelled, in their order. -/
theorem filter_raw (hv : SettingEntries values) (h : RewrittenList values Good ps old fresh) :
    ((old.map (rewritePart values) ++ fresh).filterMap rawItem?).filter (fun e => e.1 ∉ values.keys)
      = (ps.filterMap rawItem?).filter (fun e => e.1 ∉ values.keys) := by
  -- The parts that are added have keys that are written.
  have hfresh : (fresh.filterMap rawItem?).filter (fun e => e.1 ∉ values.keys) = [] := by
    rw [List.filter_eq_nil_iff]
    intro e he
    obtain ⟨f, hf, hraw⟩ := List.mem_filterMap.1 he
    have hfst := map_fst_rawItem? f
    rw [hraw, Option.map_some, eq_comm, Option.map_eq_some_iff] at hfst
    obtain ⟨entry, hentry, heq⟩ := hfst
    have hmissing : entry ∈ SchemaDiagram.missing values ps :=
      h.missing ▸ List.mem_filterMap.2 ⟨f, hf, hentry⟩
    have hmem := OrderedMap.mem_keys (List.mem_filter.1 hmissing).1
    rw [heq] at hmem
    simpa using hmem
  rw [List.filterMap_append, List.filter_append, hfresh, List.append_nil, ← h.raw_old,
    List.filterMap_map, List.filter_filterMap, List.filter_filterMap]
  refine congrArg (List.filterMap · old) (funext fun p => ?_)
  rw [Function.comp_apply]
  exact filter_rewritePart hv p

/-- **New keys come last**, in the order of the values. -/
theorem keys_eq (hv : SettingEntries values) (h : RewrittenList values Good ps old fresh) :
    OrderedMap.keys ((old.map (rewritePart values) ++ fresh).filterMap keyValue?)
      = OrderedMap.keys (ps.filterMap keyValue?)
        ++ values.keys.filter (· ∉ OrderedMap.keys (ps.filterMap keyValue?)) := by
  have hold : ((ps.filterMap keyValue?).map (OrderedMap.overlay values)).map Prod.fst
      = OrderedMap.keys (ps.filterMap keyValue?) := by
    rw [List.map_map]
    rfl
  rw [h.entries hv, OrderedMap.keys, List.map_append, hold, SchemaDiagram.missing,
    OrderedMap.without, OrderedMap.keys, OrderedMap.keys, List.filter_map]
  congr 3
  funext e
  simp

end RewrittenList

end

/-! ## The updated list -/

/-- What writing values into a list makes of it. -/
structure Updated (values : OrderedMap Text) (old new : Text) : Prop where
  /-- Nothing is open at its end. -/
  readsOut : ReadsOut new
  /-- It is the old map with the values written into it. -/
  settings : parseSettings new = (parseSettings old).update values
  /-- Items with other keys stay as they are spelled, in their order. -/
  others : (rawItems new).filter (fun e => e.1 ∉ values.keys)
    = (rawItems old).filter (fun e => e.1 ∉ values.keys)
  /-- New keys come last, in the order of the values. -/
  keys : (rawItems new).map (·.1)
    = (rawItems old).map (·.1) ++ values.keys.filter (· ∉ (rawItems old).map (·.1))
  /-- A second writing changes nothing. -/
  again : rewriteSettings new values = new

/-- **Writing values into a list** at whose end nothing is open updates it as a map. -/
theorem rewriteSettings_updated {old : Text} (h : ReadsOut old) {values : OrderedMap Scalar}
    (hkey : ∀ k ∈ values.keys, IsSettingKey k) (hnodup : values.keys.Nodup) :
    Updated (OrderedMap.mapValues formatValue values) old
      (rewriteSettings old (OrderedMap.mapValues formatValue values)) := by
  -- Each value is written as the text of an entry.
  have hv := settingEntries_mapValues hkey hnodup
  obtain ⟨ps, hne, rfl, hps⟩ := exists_chunks h
  obtain ⟨parts, fresh, hnew, hlist⟩ := exists_rewritten hv hv.keptBy hne hps
  have hchunk := hlist.good hv hv.keptBy
  have hne' : parts.map (rewritePart (OrderedMap.mapValues formatValue values)) ++ fresh ≠ [] := by
    simpa using hlist.ne_nil
  rw [hnew]
  refine ⟨readsOut_join hchunk, hlist.parseSettings_eq hv hv.keptBy hne hps, ?_, ?_,
    hlist.rewriteSettings_again hv hv.keptBy⟩
  · rw [rawItems_join hne' hchunk, rawItems_join hne hps, hlist.filter_raw hv]
  · rw [keys_join hne' hchunk, keys_join hne hps, hlist.keys_eq hv]

/-- A list with a flag, a repeated key, an escaped quote, an empty value and a comma at its end. -/
def crowded : Text := "pk, Note: 'it\\'s, two', x: 1, note:, ".toList

/-- What is written into it. -/
def crowdedValues : OrderedMap Scalar :=
  [("note".toList, .text "a, b".toList), ("pk".toList, .bool true), ("y".toList, .int 2)]

/-- The crowded list is updated: both notes, the flag, and behind its last comma the new key. -/
theorem rewriteSettings_updated_crowded :
    ReadsOut crowded ∧ (∀ k ∈ crowdedValues.keys, IsSettingKey k) ∧ crowdedValues.keys.Nodup ∧
      Updated (OrderedMap.mapValues formatValue crowdedValues) crowded
        "pk: true, Note: 'a, b', x: 1, note: 'a, b', y: 2 ".toList := by
  have hread : ReadsOut crowded := by decide +kernel
  have hkey : ∀ k ∈ crowdedValues.keys, IsSettingKey k := by decide +kernel
  have hnodup : crowdedValues.keys.Nodup := by decide
  have hnew : rewriteSettings crowded (OrderedMap.mapValues formatValue crowdedValues)
      = "pk: true, Note: 'a, b', x: 1, note: 'a, b', y: 2 ".toList := by decide +kernel
  exact ⟨hread, hkey, hnodup, hnew ▸ rewriteSettings_updated hread hkey hnodup⟩

end SchemaDiagram
