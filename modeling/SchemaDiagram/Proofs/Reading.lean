import SchemaDiagram.Declaration.Document
import SchemaDiagram.Proofs.MapUpdate
import SchemaDiagram.Proofs.Views

/-! # What a schema is read from

A schema is read from what the blocks of a tree say; the places of the blocks only stand in the
reports. So two trees that say the same make the same schema, reports apart, and two trees that
differ in the settings of one block make schemas that differ in one table or note.

* **`map_eq_of_map_eq`** — readings agree where they are told by what agrees.
* **`readTableBody_congr`**, **`readTable_congr`**, **`readNote_congr`** — what a block is read as.
* **`TypedSettings.get?_eq`** — what the settings of a map are read as. -/

namespace SchemaDiagram

/-- **Readings agree** when they are told by something that agrees. -/
theorem map_eq_of_map_eq {α β γ δ : Type} {k : α → γ} {k' : β → γ} {f : α → δ} {g : β → δ}
    {l : List α} {l' : List β} (h : l.map k = l'.map k') (hfg : ∀ a b, k a = k' b → f a = g b) :
    l.map f = l'.map g := by
  induction l generalizing l' with
  | nil =>
    rw [List.map_nil] at h
    rw [List.map_eq_nil_iff.1 h.symm]
    rfl
  | cons a l ih =>
    rw [List.map_cons] at h
    obtain ⟨b, l', rfl, hb, hl⟩ := List.map_eq_cons_iff.1 h.symm
    rw [List.map_cons, List.map_cons, hfg a b hb.symm, ih hl.symm]

/-! ## Settings -/

/-- **What a setting is read as**, when no key comes twice. -/
theorem TypedSettings.get?_eq {raw : OrderedMap Text} (hn : raw.keys.Nodup) (owner : SettingsOwner)
    (line : Option Nat) (key : Text) :
    (interpretSettings raw owner line).values.get? key
      = (raw.get? key).bind fun value => (readSetting owner key value).toOption := by
  induction raw with
  | nil => rfl
  | cons e raw ih =>
    obtain ⟨k, v⟩ := e
    obtain ⟨hk, hrest⟩ : k ∉ OrderedMap.keys raw ∧ (OrderedMap.keys raw).Nodup :=
      List.nodup_cons.1 hn
    have ih := ih hrest
    rw [interpretSettings] at ih ⊢
    dsimp only at ih ⊢
    rw [List.filterMap_cons, OrderedMap.get?_cons]
    -- The key stands first, and it comes in no later entry.
    by_cases heq : k = key
    · subst heq
      rw [if_pos rfl, Option.bind_some]
      cases hread : (readSetting owner k v).toOption with
      -- Its value is not readable, and the others do not have the key.
      | none =>
        rw [Option.map_none]
        dsimp only
        rw [ih, OrderedMap.get?_eq_none hk]
        rfl
      | some value =>
        rw [Option.map_some]
        dsimp only
        rw [OrderedMap.get?_cons, if_pos rfl]
    · -- Another key comes first, and what it is read as is looked past.
      rw [if_neg heq, ← ih]
      cases hread : (readSetting owner k v).toOption with
      | none => rfl
      | some value =>
        rw [Option.map_some]
        dsimp only
        rw [OrderedMap.get?_cons, if_neg heq]

/-- A text is read as before when its key is not written. -/
theorem TypedSettings.text?_update {raw values : OrderedMap Text} (hn : raw.keys.Nodup)
    (hv : values.keys.Nodup) (owner : SettingsOwner) (line line' : Option Nat) {key : Text}
    (h : key ∉ values.keys) :
    (interpretSettings (raw.update values) owner line).text? key
      = (interpretSettings raw owner line').text? key := by
  rw [text?, text?, get?_eq (OrderedMap.nodup_keys_update hn values), get?_eq hn,
    OrderedMap.get?_update raw hv, OrderedMap.get?_eq_none h, Option.none_or]

/-! ## Lines -/

/-- The line number of a reference only stands in the reports. -/
theorem readInlineRef_fst (value : Text) (line line' : Option Nat) :
    (readInlineRef value line).1 = (readInlineRef value line').1 := by
  unfold readInlineRef
  split
  next => rfl
  next => split <;> rfl

/-- The line number of a field only stands in the reports. -/
theorem makeField_fst (name type settings : Text) (doc : List Text) (line line' : Option Nat) :
    (makeField name type settings doc line).1 = (makeField name type settings doc line').1 := by
  have htext : ∀ key, (interpretSettings (parseSettings settings) .field line').text? key
      = (interpretSettings (parseSettings settings) .field line).text? key := fun _ => rfl
  have hflag : ∀ key, (interpretSettings (parseSettings settings) .field line').flag key
      = (interpretSettings (parseSettings settings) .field line).flag key := fun _ => rfl
  simp only [makeField, htext, hflag]
  cases (interpretSettings (parseSettings settings) .field line).text? "ref" with
  | none => rfl
  | some value => simp only [readInlineRef_fst value line line']

/-- The line number of a declaration only stands in the reports. -/
theorem readField_fst (text : Text) (doc : List Text) (line line' : Option Nat) :
    (readField text doc line).1 = (readField text doc line').1 := by
  -- Both ways to find the type make the field alike.
  have hpart : ∀ name type settings : Text,
      (if isType type then
          (some (makeField name (unquote type) settings doc line).1,
            (makeField name (unquote type) settings doc line).2)
        else (none, [⟨.unreadableType type name, line⟩]) : Option Field × List Diagnostic).1
      = (if isType type then
          (some (makeField name (unquote type) settings doc line').1,
            (makeField name (unquote type) settings doc line').2)
        else (none, [⟨.unreadableType type name, line'⟩])).1 := by
    intro name type settings
    split
    next => exact congrArg some (makeField_fst name _ settings doc line line')
    next => rfl
  unfold readField
  dsimp only
  split
  next => rfl
  next =>
    split
    next => exact hpart _ _ _
    next => exact hpart _ _ _

/-- The line number of an index only stands in the reports. -/
theorem readIndex_fst (text : Text) (line line' : Option Nat) :
    (readIndex text line).1 = (readIndex text line').1 := by
  unfold readIndex
  dsimp only
  split <;> rfl

/-- The line number of a reference line only stands in the reports. -/
theorem readReference_fst (text : Text) (line line' : Option Nat) (name : Option Text) :
    (readReference text line name).1 = (readReference text line' name).1 := by
  unfold readReference
  dsimp only
  split
  next => rfl
  next => split <;> rfl

/-- The line number of a value only stands in the reports. -/
theorem readEnumValue_congr {l l' : BodyLine} (h : l.content = l'.content) :
    (readEnumValue l).value = (readEnumValue l').value := by
  have htext : l.text = l'.text := congrArg Prod.fst h
  rw [readEnumValue, readEnumValue, htext]
  rfl

/-- What an entry of a table body says: a field, or the partial that it injects. -/
def TableEntry.content : TableEntry → Field ⊕ Text
  | .field f => .inl f
  | .inject name _ => .inr name

/-- The entries of a line are told by what it says. -/
theorem readEntries_congr {l l' : BodyLine} (h : l.content = l'.content) :
    (readEntries l).value.map TableEntry.content
      = (readEntries l').value.map TableEntry.content := by
  have htext : l.text = l'.text := congrArg Prod.fst h
  have hdoc : l.doc = l'.doc := congrArg Prod.snd h
  unfold readEntries
  rw [← htext, ← hdoc]
  split
  next => rfl
  next =>
    dsimp only
    congr 1
    cases splitDeclarations l.text with
    | nil => rfl
    | cons first others =>
      dsimp only
      rw [List.filterMap_cons, List.filterMap_cons,
        readField_fst first l.doc (some l.line) (some l'.line), List.filterMap_map,
        List.filterMap_map]
      -- Only the reports of a field tell its line.
      have hothers : ∀ line : Nat,
        ((fun r : Option Field × List Diagnostic => r.1.map TableEntry.field) ∘
          fun declaration => readField declaration [] (some line))
          = fun declaration => (readField declaration [] none).1.map TableEntry.field := by
        intro line
        funext declaration
        exact congrArg (Option.map TableEntry.field) (readField_fst declaration [] _ none)
      rw [hothers, hothers]

/-! ## Blocks -/

section

variable {s s' : Text} {b b' : Block}

/-- What a block says of its body and its list. -/
theorem bodyText_eq (s : Text) (b : Block) : b.bodyText s = (b.view s).body.getD [] := by
  rw [Block.view]
  rfl

/-- The settings of a block are those that its view shows. -/
theorem settingsText_eq (s : Text) (b : Block) :
    b.settingsText s = (b.view s).settings.getD [] := by
  rw [Block.view]
  rfl

/-- The indexes of a block are told by its lines. -/
theorem readIndexes_congr (h : b.lines.map BodyLine.content = b'.lines.map BodyLine.content) :
    (readIndexes b).value = (readIndexes b').value := by
  -- An index is told by the text of its line.
  have hread : ∀ l l' : BodyLine, l.content = l'.content →
      (readIndex l.text (some l.line)).1 = (readIndex l'.text (some l'.line)).1 := by
    intro l l' hl
    rw [show l.text = l'.text from congrArg Prod.fst hl]
    exact readIndex_fst _ _ _
  have hresults := map_eq_of_map_eq h hread
  -- The indexes are those results that are one.
  have hmap : ∀ c : Block, (readIndexes c).value
      = (c.lines.map fun l => (readIndex l.text (some l.line)).1).filterMap id := by
    intro c
    rw [List.filterMap_map, readIndexes, List.filterMap_map]
    rfl
  rw [hmap, hmap, hresults]

/-- The text of a note is told by the body of its block. -/
theorem noteContent_congr (h : (b.view s).body = (b'.view s').body) :
    noteContent b s = noteContent b' s' := by
  rw [noteContent, noteContent, bodyText_eq, bodyText_eq, h]

/-- What a block inside a table says is told by its view. -/
theorem readInnerBlock_congr (h : b.view s = b'.view s') (owner : Text) :
    (readInnerBlock s owner b).value = (readInnerBlock s' owner b').value := by
  have hnote := noteContent_congr (congrArg BlockView.body h)
  rw [Block.view, Block.view, BlockView.mk.injEq] at h
  obtain ⟨hkeyword, -, -, -, -, -, -, hlines, -⟩ := h
  have hindexes := readIndexes_congr hlines
  unfold readInnerBlock
  rw [hkeyword, hnote]
  split
  next => exact congrArg (·, none) hindexes
  next => split <;> rfl

/-- What a property inside a table says is told by its key and value. -/
theorem readInnerProperty_congr {p p' : Property} (h : p.content = p'.content) (owner : Text) :
    (readInnerProperty owner p).value = (readInnerProperty owner p').value := by
  have hkey : p.key = p'.key := congrArg Prod.fst h
  have hvalue : p.value = p'.value := congrArg Prod.snd h
  unfold readInnerProperty
  rw [hkey, hvalue]
  split <;> rfl

/-- What the body of a table says. -/
def TableBody.content (body : TableBody) :
    List (Field ⊕ Text) × List IndexEntry × Option Text :=
  (body.entries.map TableEntry.content, body.indexes, body.note)

/-- **The body of a table** is told by its view, whatever the settings are. -/
theorem readTableBody_congr {settings : Option Text}
    (h : b'.view s' = { b.view s with settings }) (owner : Text) :
    (readTableBody s' owner b').value.content = (readTableBody s owner b).value.content := by
  rw [Block.view, Block.view, BlockView.mk.injEq] at h
  obtain ⟨-, -, -, -, -, -, hchildren, hlines, hproperties, -⟩ := h
  have hinner := map_eq_of_map_eq hchildren fun c c' hc => readInnerBlock_congr hc owner
  have hprops := map_eq_of_map_eq hproperties fun p p' hp => readInnerProperty_congr hp owner
  have hentries := map_eq_of_map_eq hlines fun l l' hl => readEntries_congr hl
  -- Each part of the body is read from its own nodes.
  have hsplit : ∀ (t : Text) (c : Block), (readTableBody t owner c).value.content =
      ((c.lines.map fun l => (readEntries l).value.map TableEntry.content).flatten,
        ((c.children.map fun d => (readInnerBlock t owner d).value).map (·.1)).flatten,
        ((c.children.map fun d => (readInnerBlock t owner d).value).filterMap (·.2) ++
          (c.properties.map fun p =>
            (readInnerProperty owner p).value).filterMap id).getLast?) := by
    intro t c
    simp only [readTableBody, TableBody.content, List.flatMap_def, List.map_map, List.map_flatten,
      List.filterMap_map, Function.comp_def, id]
  rw [hsplit, hsplit, hinner, hprops, hentries]

end

/-! ## Tables -/

/-- Entries that say the same are merged alike. -/
theorem foldl_addEntry_congr {entries entries' : List TableEntry}
    (h : entries.map TableEntry.content = entries'.map TableEntry.content)
    (partials : OrderedMap TablePartial) (m : MergedTable) :
    entries.foldl (MergedTable.addEntry partials) m
      = entries'.foldl (MergedTable.addEntry partials) m := by
  induction entries generalizing entries' m with
  | nil =>
    rw [List.map_eq_nil_iff.1 h.symm]
  | cons e entries ih =>
    rw [List.map_cons] at h
    obtain ⟨e', entries', rfl, he, hrest⟩ := List.map_eq_cons_iff.1 h.symm
    -- A field and an injection are told by what they say.
    have hstep : MergedTable.addEntry partials m e' = MergedTable.addEntry partials m e := by
      cases e <;> cases e' <;> first | cases he; rfl | cases he
    rw [List.foldl_cons, List.foldl_cons, hstep]
    exact ih hrest.symm _

/-- The keys of merged settings are distinct. -/
theorem nodup_mergeTable (entries : List TableEntry) (partials : OrderedMap TablePartial)
    (header : OrderedMap Text) (indexes : List IndexEntry) :
    (mergeTable entries partials header indexes).settings.keys.Nodup := by
  -- An entry adds settings by updates, which keep keys apart.
  have hstep : ∀ (m : MergedTable) (e : TableEntry), m.settings.keys.Nodup →
      (m.addEntry partials e).settings.keys.Nodup := by
    intro m e hm
    cases e with
    | field f => exact hm
    | inject name line =>
      rw [MergedTable.addEntry]
      cases partials.get? name with
      | none => exact hm
      | some p => exact OrderedMap.nodup_keys_update hm _
  have hfold : ∀ (m : MergedTable), m.settings.keys.Nodup →
      (entries.foldl (MergedTable.addEntry partials) m).settings.keys.Nodup := by
    induction entries with
    | nil => exact fun m hm => hm
    | cons e entries ih => exact fun m hm => ih _ (hstep m e hm)
  exact OrderedMap.nodup_keys_update (hfold .empty List.nodup_nil) header

/-- Values written into the header are written into the merged settings. -/
theorem mergeTable_update (entries : List TableEntry) (partials : OrderedMap TablePartial)
    {header : OrderedMap Text} (hn : header.keys.Nodup) (values : OrderedMap Text)
    (indexes : List IndexEntry) :
    mergeTable entries partials (header.update values) indexes
      = { mergeTable entries partials header indexes with
          settings := (mergeTable entries partials header indexes).settings.update values } := by
  rw [mergeTable, mergeTable]
  simp only [OrderedMap.update_update _ hn]

/-- The keys of a settings list are distinct. -/
theorem nodup_parseSettings (s : Text) : (parseSettings s).keys.Nodup :=
  OrderedMap.nodup_keys_update (by simp [OrderedMap.keys]) _

/-- The table with other settings: what is read from them is read again. -/
def Table.resettle (t : Table) (settings : OrderedMap Text) : Table :=
  let typed := interpretSettings settings .table none
  { t with
    color := (typed.text? "color").or (typed.text? "headercolor")
    width := typed.number? "width"
    x := typed.number? "x"
    y := typed.number? "y"
    settings }

/-- The table with values written into its settings. The note of the table stays as it is, unless
one is written. -/
def Table.IsResettled (values : OrderedMap Text) (t t' : Table) : Prop :=
  ∃ note, t' = { t.resettle (t.settings.update values) with note } ∧
    (note = t.note ∨ "note".toList ∈ values.keys ∧
      note = (interpretSettings (t.settings.update values) .table none).text? "note")

/-- A note that is written is read. -/
theorem TypedSettings.isSome_note {raw values : OrderedMap Text} (hn : raw.keys.Nodup)
    (hv : values.keys.Nodup) (h : "note".toList ∈ values.keys) (line : Option Nat) :
    ((interpretSettings (raw.update values) .table line).text? "note").isSome = true := by
  have hget := TypedSettings.get?_eq (OrderedMap.nodup_keys_update hn values) .table line "note"
  obtain ⟨e, he, hkey⟩ := List.mem_map.1 h
  have hvalue := OrderedMap.get?_of_mem hv he
  rw [hkey] at hvalue
  rw [OrderedMap.get?_update raw hv, hvalue, Option.some_or, Option.bind_some] at hget
  rw [text?, hget]
  rfl

/-- **A table is told by the view of its block**, and values written into its list are written into
its settings. -/
theorem readTable_congr {context context' : TableContext}
    (hp : context'.partials = context.partials)
    (he : context'.enums = context.enums) {b b' : Block} {settings : Option Text}
    (h : b'.view context'.text = { b.view context.text with settings })
    {values : OrderedMap Text} (hv : values.keys.Nodup)
    (hset : parseSettings (settings.getD [])
      = (parseSettings (b.settingsText context.text)).update values) (id name : Text) :
    (context.readTable id name b).value.IsResettled values
      (context'.readTable id name b').value := by
  have hbody := readTableBody_congr h name
  have hsettings : b'.settingsText context'.text = settings.getD [] := by
    rw [settingsText_eq, h]
  rw [Block.view, Block.view, BlockView.mk.injEq] at h
  obtain ⟨-, -, halias, -, -, -, -, -, -, hdoc⟩ := h
  simp only [TableBody.content, Prod.mk.injEq] at hbody
  obtain ⟨hentries, hindexes, hnote⟩ := hbody
  have hmerged : mergeTable (readTableBody context'.text name b').value.entries context'.partials
      (parseSettings (b'.settingsText context'.text))
      (readTableBody context'.text name b').value.indexes
      = { mergeTable (readTableBody context.text name b).value.entries context.partials
            (parseSettings (b.settingsText context.text))
            (readTableBody context.text name b).value.indexes with
          settings := (mergeTable (readTableBody context.text name b).value.entries context.partials
            (parseSettings (b.settingsText context.text))
            (readTableBody context.text name b).value.indexes).settings.update values } := by
    rw [← mergeTable_update _ _ (nodup_parseSettings _), hsettings, hset, hindexes, hp, mergeTable,
      mergeTable, foldl_addEntry_congr hentries]
  have henum : context'.withEnum = context.withEnum := by
    funext f
    rw [TableContext.withEnum, TableContext.enumOf?, he]
    rfl
  have hnodup := nodup_mergeTable (readTableBody context.text name b).value.entries context.partials
    (parseSettings (b.settingsText context.text)) (readTableBody context.text name b).value.indexes
  refine ⟨(context'.readTable id name b').value.note, ?_, ?_⟩
  · simp only [TableContext.readTable, Table.resettle, hmerged, henum, halias]
    rfl
  · simp only [TableContext.readTable, hmerged, hnote, hdoc]
    cases hown : (readTableBody context.text name b).value.note.filter (! ·.isEmpty) with
    | some note => exact .inl rfl
    | none =>
      by_cases hmem : "note".toList ∈ values.keys
      · -- The note that is written stands before the doc comments and the partials.
        refine .inr ⟨hmem, ?_⟩
        obtain ⟨note, hwritten⟩ :=
          Option.isSome_iff_exists.1 (TypedSettings.isSome_note hnodup hv hmem (some b'.line))
        rw [hwritten]
        exact hwritten.symm
      · rw [TypedSettings.text?_update hnodup hv .table (some b'.line) (some b.line) hmem]
        exact .inl rfl

/-- Two lists that differ in the element at the given place. -/
def DifferAt {α : Type} (place : Nat) (R : α → α → Prop) (l l' : List α) : Prop :=
  ∃ before a a' after, l = before ++ a :: after ∧ l' = before ++ a' :: after ∧
    before.length = place ∧ R a a'

/-- How many of some blocks have a name. -/
def countNamed (blocks : List Block) : Nat := (blocks.filter (·.properName?.isSome)).length

/-- The name of a block is the one that its view shows, unless it is empty. -/
theorem properName?_eq (s : Text) (b : Block) :
    b.properName? = (b.view s).name.filter (! ·.isEmpty) := by
  rw [Block.view]
  rfl

namespace TableContext

/-- Tables are read one after the other. -/
theorem readTables_append (context : TableContext) (earlier : List Table) (xs ys : List Block) :
    (context.readTables earlier (xs ++ ys)).value = (context.readTables earlier xs).value ++
      (context.readTables (earlier ++ (context.readTables earlier xs).value) ys).value := by
  induction xs generalizing earlier with
  | nil => simp [readTables]
  | cons b xs ih =>
    rw [List.cons_append, readTables, readTables]
    cases b.properName? with
    | none => exact ih earlier
    | some name =>
      dsimp only
      rw [ih, List.cons_append, List.append_assoc, List.singleton_append]

/-- Every block with a name makes a table. -/
theorem length_readTables (context : TableContext) (earlier : List Table) (blocks : List Block) :
    (context.readTables earlier blocks).value.length = countNamed blocks := by
  induction blocks generalizing earlier with
  | nil => rfl
  | cons b blocks ih =>
    rw [readTables, countNamed]
    cases hname : b.properName? with
    | none =>
      rw [List.filter_cons_of_neg (by simp [hname])]
      exact ih earlier
    | some name =>
      rw [List.filter_cons_of_pos (by simp [hname])]
      exact congrArg (· + 1) (ih _)

/-- A table that is read has the name of its block. -/
theorem name_readTable (context : TableContext) (id name : Text) (b : Block) :
    (context.readTable id name b).value.name = name := rfl

/-- A table that is read has the identifier that it is given. -/
theorem id_readTable (context : TableContext) (id name : Text) (b : Block) :
    (context.readTable id name b).value.id = id := rfl

variable {context context' : TableContext} (hp : context'.partials = context.partials)
  (he : context'.enums = context.enums)

include hp he

/-- A table is told by the view of its block. -/
theorem readTable_eq {b b' : Block} (h : b'.view context'.text = b.view context.text)
    (id name : Text) :
    (context'.readTable id name b').value = (context.readTable id name b).value := by
  -- Keeping its own settings is the change that changes nothing.
  have hsame : b'.view context'.text
      = { b.view context.text with settings := (b.view context.text).settings } := by
    rw [h]
    cases b.view context.text
    rfl
  have hset : parseSettings ((b.view context.text).settings.getD [])
      = (parseSettings (b.settingsText context.text)).update [] := by
    rw [settingsText_eq]
    rfl
  have hnil : (OrderedMap.keys ([] : OrderedMap Text)).Nodup := List.nodup_nil
  obtain ⟨note, ht, hnote⟩ := readTable_congr hp he hsame hnil hset id name
  rw [ht, hnote.resolve_right fun hmem => List.not_mem_nil hmem.1]
  rfl

/-- **Tables are told by the views of their blocks** and by the identifiers before them. -/
theorem readTables_eq {blocks blocks' : List Block} {earlier earlier' : List Table}
    (h : blocks'.map (Block.view context'.text) = blocks.map (Block.view context.text))
    (hids : earlier'.map (·.id) = earlier.map (·.id)) :
    (context'.readTables earlier' blocks').value = (context.readTables earlier blocks).value := by
  induction blocks generalizing blocks' earlier earlier' with
  | nil =>
    rw [List.map_eq_nil_iff.1 h]
    rfl
  | cons b blocks ih =>
    rw [List.map_cons] at h
    obtain ⟨b', blocks', rfl, hb, hrest⟩ := List.map_eq_cons_iff.1 h
    have hname : b'.properName? = b.properName? := by
      rw [properName?_eq context'.text, hb, ← properName?_eq]
    rw [readTables, readTables, hname]
    cases b.properName? with
    | none => exact ih hrest hids
    | some name =>
      dsimp only
      rw [hids, readTable_eq hp he hb]
      refine congrArg _ (ih hrest ?_)
      rw [List.map_append, List.map_append, hids]

/-- **Tables that are read when another block of the name stands in place of one**: only its table
differs, and it keeps its identifier. -/
theorem readTables_swap {front back front' back' : List Block} {b b' : Block} {name : Text}
    (hfront : front'.map (Block.view context'.text) = front.map (Block.view context.text))
    (hback : back'.map (Block.view context'.text) = back.map (Block.view context.text))
    (hname : b.properName? = some name) (hname' : b'.properName? = some name) :
    ∃ id, DifferAt (countNamed front) (fun t t' => t = (context.readTable id name b).value ∧
        t' = (context'.readTable id name b').value)
      (context.readTables [] (front ++ b :: back)).value
      (context'.readTables [] (front' ++ b' :: back')).value := by
  have hbefore := readTables_eq hp he hfront (Eq.refl (List.map Table.id []))
  rw [readTables_append, readTables_append, hbefore, readTables, readTables, hname, hname']
  refine ⟨_, _, _, _, _, rfl, ?_, length_readTables context [] front, rfl, rfl⟩
  refine congrArg _ (congrArg _ (readTables_eq hp he hback ?_))
  simp only [List.map_append, List.map_cons, List.map_nil, id_readTable]

/-- **Tables that are read after an edit**: only the edited one differs. -/
theorem readTables_edited {front back front' back' : List Block} {b b' : Block}
    {settings : Option Text}
    (hfront : front'.map (Block.view context'.text) = front.map (Block.view context.text))
    (hb : b'.view context'.text = { b.view context.text with settings })
    (hback : back'.map (Block.view context'.text) = back.map (Block.view context.text))
    {values : OrderedMap Text} (hv : values.keys.Nodup)
    (hset : parseSettings (settings.getD [])
      = (parseSettings (b.settingsText context.text)).update values) :
    (b.properName? = none ∧ (context'.readTables [] (front' ++ b' :: back')).value
        = (context.readTables [] (front ++ b :: back)).value) ∨
      ∃ name, b.properName? = some name ∧
        DifferAt (countNamed front) (fun t t' => t.name = name ∧ t.IsResettled values t')
          (context.readTables [] (front ++ b :: back)).value
          (context'.readTables [] (front' ++ b' :: back')).value := by
  have hname : b'.properName? = b.properName? := by
    rw [properName?_eq context'.text, hb, properName?_eq context.text b]
  cases hproper : b.properName? with
  -- The block is no table, so the tables are those in front and behind.
  | none =>
    have hbefore := readTables_eq hp he hfront (Eq.refl (List.map Table.id []))
    rw [readTables_append, readTables_append, hbefore, readTables, readTables, hname, hproper]
    exact .inl ⟨rfl, congrArg _ (readTables_eq hp he hback rfl)⟩
  -- The block is a table, and the one read from it is resettled.
  | some name =>
    obtain ⟨id, before, _, _, after, hold, hnew, hlength, rfl, rfl⟩ :=
      readTables_swap hp he hfront hback hproper (hname.trans hproper)
    exact .inr ⟨name, rfl, before, _, _, after, hold, hnew, hlength, rfl,
      readTable_congr hp he hb hv hset id name⟩

end TableContext

/-! ## Sticky notes -/

/-- The note with other settings: what is read from them is read again. -/
def Note.resettle (n : Note) (settings : OrderedMap Text) : Note :=
  let typed := interpretSettings settings .note none
  { n with
    x := (typed.number? "x").getD (.whole 0)
    y := (typed.number? "y").getD (.whole 0)
    width := (typed.number? "width").getD defaultNoteWidth
    height := typed.number? "height"
    color := (typed.text? "color").getD defaultNoteColor }

/-- The notes that are read from some settings and from those with values written into them. -/
def Note.IsResettled (settings values : OrderedMap Text) (n n' : Note) : Prop :=
  n = n.resettle settings ∧ n' = n.resettle (settings.update values)

section

variable {s s' : Text}

/-- **A note is told by the view of its block**, and values written into its list are read again. -/
theorem readNote_congr {b b' : Block} {settings : Option Text}
    (h : b'.view s' = { b.view s with settings }) {values : OrderedMap Text}
    (hset : parseSettings (settings.getD []) = (parseSettings (b.settingsText s)).update values)
    (id name : Text) :
    (readNote s id name b).value.IsResettled (parseSettings (b.settingsText s)) values
      (readNote s' id name b').value := by
  have hbody : noteContent b' s' = noteContent b s := noteContent_congr (by rw [h])
  have hsettings : b'.settingsText s' = settings.getD [] := by
    rw [settingsText_eq, h]
  refine ⟨rfl, ?_⟩
  rw [readNote, hbody, hsettings, hset]
  rfl

/-- Notes are read one after the other. -/
theorem readNotes_append (s : Text) (taken : List Text) (xs ys : List Block) :
    (readNotes s taken (xs ++ ys)).value = (readNotes s taken xs).value ++
      (readNotes s (taken ++ (readNotes s taken xs).value.map (·.id)) ys).value := by
  induction xs generalizing taken with
  | nil => simp [readNotes]
  | cons b xs ih =>
    rw [List.cons_append, readNotes, readNotes]
    cases b.properName? with
    | none => exact ih taken
    | some name =>
      dsimp only
      rw [ih, List.cons_append, List.map_cons, List.append_assoc]
      rfl

/-- Every block with a name makes a note. -/
theorem length_readNotes (s : Text) (taken : List Text) (blocks : List Block) :
    (readNotes s taken blocks).value.length = countNamed blocks := by
  induction blocks generalizing taken with
  | nil => rfl
  | cons b blocks ih =>
    rw [readNotes, countNamed]
    cases hname : b.properName? with
    | none =>
      rw [List.filter_cons_of_neg (by simp [hname])]
      exact ih taken
    | some name =>
      rw [List.filter_cons_of_pos (by simp [hname])]
      exact congrArg (· + 1) (ih _)

/-- **Notes are told by the views of their blocks.** -/
theorem readNotes_eq {blocks blocks' : List Block}
    (h : blocks'.map (Block.view s') = blocks.map (Block.view s)) (taken : List Text) :
    (readNotes s' taken blocks').value = (readNotes s taken blocks).value := by
  induction blocks generalizing blocks' taken with
  | nil =>
    rw [List.map_eq_nil_iff.1 h]
    rfl
  | cons b blocks ih =>
    rw [List.map_cons] at h
    obtain ⟨b', blocks', rfl, hb, hrest⟩ := List.map_eq_cons_iff.1 h
    have hname : b'.properName? = b.properName? := by
      rw [properName?_eq s', hb, ← properName?_eq]
    -- A note is told by its body and its settings, both of which the view has.
    have hnote : ∀ id name, (readNote s' id name b').value = (readNote s id name b).value := by
      intro id name
      have hsettings : b'.settingsText s' = b.settingsText s := by
        rw [settingsText_eq, settingsText_eq, hb]
      rw [readNote, readNote, noteContent_congr (congrArg BlockView.body hb), hsettings]
      rfl
    rw [readNotes, readNotes, hname]
    cases b.properName? with
    | none => exact ih hrest taken
    | some name =>
      dsimp only
      rw [hnote, ih hrest]

/-- **Notes that are read after an edit**: only the edited one differs. -/
theorem readNotes_edited {front back front' back' : List Block} {b b' : Block}
    {settings : Option Text}
    (hfront : front'.map (Block.view s') = front.map (Block.view s))
    (hb : b'.view s' = { b.view s with settings })
    (hback : back'.map (Block.view s') = back.map (Block.view s))
    {values : OrderedMap Text}
    (hset : parseSettings (settings.getD []) = (parseSettings (b.settingsText s)).update values) :
    (b.properName? = none ∧ (readNotes s' [] (front' ++ b' :: back')).value
        = (readNotes s [] (front ++ b :: back)).value) ∨
      ∃ name, b.properName? = some name ∧
        DifferAt (countNamed front)
          (fun n n' => n.name = name ∧
            n.IsResettled (parseSettings (b.settingsText s)) values n')
          (readNotes s [] (front ++ b :: back)).value
          (readNotes s' [] (front' ++ b' :: back')).value := by
  have hname : b'.properName? = b.properName? := by
    rw [properName?_eq s', hb, properName?_eq s b]
  rw [readNotes_append, readNotes_append, readNotes_eq hfront, readNotes, readNotes, hname]
  cases hproper : b.properName? with
  | none => exact .inl ⟨rfl, congrArg _ (readNotes_eq hback _)⟩
  | some name =>
    refine .inr ⟨name, rfl, _, _, _, _, rfl, ?_, length_readNotes s [] front, rfl,
      readNote_congr hb hset _ name⟩
    exact congrArg _ (congrArg _ (readNotes_eq hback _))

/-! ## Other blocks -/

/-- The blocks of a keyword are told by their views. -/
theorem filter_keyword {bs bs' : List Block} (h : bs'.map (Block.view s') = bs.map (Block.view s))
    (keyword : Text) :
    (bs'.filter (·.keyword = keyword)).map (Block.view s')
      = (bs.filter (·.keyword = keyword)).map (Block.view s) := by
  have hview : ∀ (t : Text) (l : List Block), (l.filter (·.keyword = keyword)).map (Block.view t)
      = (l.map (Block.view t)).filter (·.keyword = keyword) := by
    intro t l
    rw [List.filter_map]
    congr 1
    refine List.filter_congr fun b _ => ?_
    rw [Function.comp_apply, Block.view]
  rw [hview, hview, h]

/-- The enum of a block is told by its view. -/
theorem readEnum_congr {b b' : Block} (h : b'.view s' = b.view s) (name : Text) :
    (readEnum name b').value = (readEnum name b).value := by
  rw [Block.view, Block.view, BlockView.mk.injEq] at h
  obtain ⟨-, -, -, -, -, -, -, hlines, -⟩ := h
  have hvalues := map_eq_of_map_eq hlines fun l l' hl => readEnumValue_congr hl
  have hsplit : ∀ c : Block, (readEnum name c).value =
      ⟨name, (c.lines.map fun l => (readEnumValue l).value).map (·.1),
        .ofList ((c.lines.map fun l => (readEnumValue l).value).filterMap fun v =>
          v.2.map (v.1, ·))⟩ := by
    intro c
    simp only [readEnum, List.map_map, List.filterMap_map, Function.comp_def]
  rw [hsplit, hsplit, hvalues]

/-- The partial of a block is told by its view. -/
theorem readPartial_congr {b b' : Block} (h : b'.view s' = b.view s) (name : Text) :
    (readPartial s' name b').value = (readPartial s name b).value := by
  -- The settings and the body of the partial are both in the view.
  have hsettings : b'.settingsText s' = b.settingsText s := by
    rw [settingsText_eq, settingsText_eq, h]
  have hsame : b'.view s' = { b.view s with settings := (b.view s).settings } := by
    rw [h]
    cases b.view s
    rfl
  have hbody := readTableBody_congr hsame name
  simp only [TableBody.content, Prod.mk.injEq] at hbody
  obtain ⟨hentries, hindexes, hnote⟩ := hbody
  -- The fields are read off the entries by what these say.
  have hfields : ∀ f : TableEntry → Option (Text × Field),
      (∀ e, f e = e.content.getLeft?.map fun field => (field.name, field)) →
      (readTableBody s' name b').value.entries.filterMap f
        = (readTableBody s name b).value.entries.filterMap f := by
    intro f hf
    have hcomp : f
        = (fun c => c.getLeft?.map fun field => (field.name, field)) ∘ TableEntry.content :=
      funext hf
    rw [hcomp, ← List.filterMap_map, hentries, List.filterMap_map]
  simp only [readPartial, hindexes, hnote, hsettings]
  rw [hfields]
  intro e
  cases e <;> rfl

/-- The values of a project are told by the view of its block. -/
theorem projectValues_congr {b b' : Block} (h : b'.view s' = b.view s) :
    projectValues b' s' = projectValues b s := by
  rw [Block.view, Block.view, BlockView.mk.injEq] at h
  obtain ⟨-, -, -, -, -, -, hchildren, -, hproperties, -⟩ := h
  -- A property is read from its key and its value.
  have hprops := map_eq_of_map_eq (f := fun property : Property =>
    (if property.key.lower = "note".toList then "note".toList else property.key,
      readScalar property.value)) (g := fun property : Property =>
    (if property.key.lower = "note".toList then "note".toList else property.key,
      readScalar property.value)) hproperties fun p p' hp => by
        rw [show p.key = p'.key from congrArg Prod.fst hp,
          show p.value = p'.value from congrArg Prod.snd hp]
  have hnotes := map_eq_of_map_eq (filter_keyword hchildren (Text.lower "note".toList))
    fun c c' hc => noteContent_congr (congrArg BlockView.body hc)
  -- The notes among the inner blocks are written over what the properties say.
  have hfold : ∀ (t : Text) (c : Block) (m : OrderedMap Scalar),
      (c.childrenNamed "note").foldl (fun m child =>
        m.insert "note" (.text (noteContent child t))) m
        = ((c.childrenNamed "note").map fun child => noteContent child t).foldl
            (fun m content => m.insert "note" (.text content)) m := by
    intro t c m
    rw [List.foldl_map]
  rw [projectValues, projectValues, hfold, hfold, hprops]
  exact congrArg _ hnotes

end

/-! ## Documents -/

section

variable {tree tree' : BlockTree}

/-- The name of a block is told by its view. -/
theorem properName?_congr {s s' : Text} {b b' : Block} (h : b'.view s' = b.view s) :
    b'.properName? = b.properName? := by
  rw [properName?_eq s', h, ← properName?_eq s]

/-- The enums are told by the views of their blocks. -/
theorem readEnums_congr (h : (tree'.withKeyword "enum").map (Block.view tree'.text)
      = (tree.withKeyword "enum").map (Block.view tree.text)) :
    (readEnums tree').value = (readEnums tree).value := by
  -- What one block says, if it has a name.
  let read (b : Block) : Option EnumDef := b.properName?.map fun name => (readEnum name b).value
  have hread : (tree'.withKeyword "enum").map read = (tree.withKeyword "enum").map read := by
    refine map_eq_of_map_eq h fun b b' hb => ?_
    rw [show read b = b.properName?.map fun name => (readEnum name b).value from rfl,
      properName?_congr hb]
    exact Option.map_congr fun name _ => readEnum_congr hb name
  -- The enums are those results that are some, under their names.
  have hsplit : ∀ t : BlockTree, (readEnums t).value
      = .ofList ((((t.withKeyword "enum").map read).filterMap id).map fun e => (e.name, e)) := by
    intro t
    simp only [readEnums, List.filterMap_map]
    congr 3
    funext b
    simp only [Function.comp_apply, read]
    cases b.properName? <;> rfl
  rw [hsplit, hsplit, hread]

/-- The partials are told by the views of their blocks. -/
theorem readPartials_congr (h : (tree'.withKeyword "tablepartial").map (Block.view tree'.text)
      = (tree.withKeyword "tablepartial").map (Block.view tree.text)) :
    (readPartials tree').value = (readPartials tree).value := by
  -- What one block says, if it has a name.
  let read (text : Text) (b : Block) : Option TablePartial :=
    b.properName?.map fun name => (readPartial text name b).value
  have hread : (tree'.withKeyword "tablepartial").map (read tree'.text)
      = (tree.withKeyword "tablepartial").map (read tree.text) := by
    refine map_eq_of_map_eq h fun b b' hb => ?_
    rw [show read tree'.text b
      = b.properName?.map fun name => (readPartial tree'.text name b).value from rfl,
      properName?_congr hb]
    exact Option.map_congr fun name _ => readPartial_congr hb name
  -- The partials are those results that are some, under their names.
  have hsplit : ∀ t : BlockTree, (readPartials t).value
      = .ofList ((((t.withKeyword "tablepartial").map (read t.text)).filterMap id).map
          fun p => (p.name, p)) := by
    intro t
    simp only [readPartials, List.filterMap_map]
    congr 3
    funext b
    simp only [Function.comp_apply, read]
    cases b.properName? <;> rfl
  rw [hsplit, hsplit, hread]

/-- The references are told by the views of their blocks. -/
theorem readRefs_congr (h : (tree'.withKeyword "ref").map (Block.view tree'.text)
      = (tree.withKeyword "ref").map (Block.view tree.text)) :
    (readRefs tree').value = (readRefs tree).value := by
  -- A block of references says one for each line that can be read.
  let read (b : Block) : List Relationship :=
    (b.lines.map fun line => (readReference line.text none b.name).1).filterMap id
  have hread : (tree'.withKeyword "ref").map read = (tree.withKeyword "ref").map read := by
    refine map_eq_of_map_eq h fun b b' hb => ?_
    rw [Block.view, Block.view, BlockView.mk.injEq] at hb
    obtain ⟨-, hname, -, -, -, -, -, hlines, -⟩ := hb
    refine congrArg (List.filterMap id) (map_eq_of_map_eq hlines fun l l' hl => ?_)
    rw [show l.text = l'.text from congrArg Prod.fst hl, hname]
  -- The references are those of the blocks, one behind the other.
  have hsplit : ∀ t : BlockTree, (readRefs t).value = ((t.withKeyword "ref").map read).flatten := by
    intro t
    simp only [readRefs, List.flatMap_def, List.map_map]
    congr 2
    funext b
    simp only [Function.comp_apply, read, List.filterMap_map]
    congr 1
    funext line
    exact readReference_fst _ _ _ _
  rw [hsplit, hsplit, hread]

/-- The project is told by the view of its block. -/
theorem readProject_congr (h : (tree'.withKeyword "project").map (Block.view tree'.text)
      = (tree.withKeyword "project").map (Block.view tree.text)) :
    (readProject tree').value = (readProject tree).value := by
  rw [readProject, readProject]
  cases hp : tree.withKeyword "project" with
  | nil =>
    rw [hp] at h
    rw [List.map_eq_nil_iff.1 h]
  -- Only the first project block counts, and it has its name and its values in its view.
  | cons b others =>
    rw [hp, List.map_cons] at h
    obtain ⟨b', others', hp', hb, -⟩ := List.map_eq_cons_iff.1 h
    have hname : b'.name = b.name := by
      rw [Block.view, Block.view, BlockView.mk.injEq] at hb
      exact hb.2.1
    rw [hp']
    dsimp only
    rw [hname, projectValues_congr hb]

end

end SchemaDiagram
