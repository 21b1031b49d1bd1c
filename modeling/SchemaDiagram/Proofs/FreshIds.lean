import SchemaDiagram.Proofs.ColumnPairs
import SchemaDiagram.Proofs.Naming
import SchemaDiagram.Proofs.Numerals
import SchemaDiagram.Proofs.Reading
import SchemaDiagram.Routing.Route

/-! # Identifiers of tables and notes

Entities get their identifiers one after the other, in the order of their blocks: the name as an
identifier, or the first of its suffixes that no earlier entity has. A suffixed identifier may be
the plain one of another name, so what counts are the identifiers that were given, and not the
names. There are always more suffixes than these, and an entity never changes one that was given.

An identifier consists of letters, digits and underscores, so the id of a column, which has a dash
behind the identifier of the table, names one table and one column.

* **`IsIdentifier`** — a text of ASCII letters, digits and underscores; `isIdentifier_sanitizeId`
  says that what is made of a name is such a text.
* **`columnAnchor_inj`** — the id of a column tells the table and the column.
* **`IsFirstFree taken slug id`** — what identifier is given; `IsFirstFree.unique` says that it is
  the only one.
* **`AssignsIds taken names ids`** — how a list of names gets identifiers, step by step;
  `assignsIds_readTables` and `assignsIds_readNotes` say that entities get theirs so.
* **`ownIds_readSchema`** — the identifiers of a document. -/

namespace SchemaDiagram

/-! ## Texts that are identifiers -/

/-- **A text of ASCII letters, digits and underscores.** -/
def IsIdentifier (s : Text) : Prop := ∀ c ∈ s, c.isAlphanum = true ∨ c = '_'

instance (s : Text) : Decidable (IsIdentifier s) :=
  inferInstanceAs (Decidable (∀ c ∈ s, c.isAlphanum = true ∨ c = '_'))

namespace IsIdentifier

variable {s t : Text}

/-- Two identifiers one behind the other are an identifier. -/
theorem append (hs : IsIdentifier s) (ht : IsIdentifier t) : IsIdentifier (s ++ t) := fun c hc =>
  (List.mem_append.1 hc).elim (hs c) (ht c)

/-- No dash stands in an identifier. -/
theorem dash_notMem (h : IsIdentifier s) : '-' ∉ s := fun hmem => by
  have hdash := h '-' hmem
  revert hdash
  decide

end IsIdentifier

/-- A name that is made an identifier is one. -/
theorem isIdentifier_sanitizeId (name : Text) : IsIdentifier (sanitizeId name) := by
  unfold sanitizeId
  split
  · simp [IsIdentifier]
  · intro c hc
    obtain ⟨d, -, rfl⟩ := List.mem_map.1 hc
    split
    next hsafe => simpa using hsafe
    next => exact .inr rfl

/-- A count is an identifier. -/
theorem isIdentifier_ofNat (n : Nat) : IsIdentifier (Text.ofNat n) := fun c hc => by
  left
  rw [Char.isAlphanum, allDigits_ofNat n c hc, Bool.or_true]

/-- A table that a name is resolved to is one of the schema. -/
theorem mem_tables_of_resolve {s : Schema} {name : Text} {t : Table} (h : s.resolve name = some t) :
    t ∈ s.tables := by
  simp only [Schema.resolve, Option.or_eq_some_iff] at h
  obtain hfound | ⟨-, hfound | ⟨-, hfound⟩⟩ := h <;> exact List.mem_of_find?_eq_some hfound

/-- A reference names its tables by identifiers, if the tables of the schema have identifiers. -/
theorem isIdentifier_tableIdOf {schema : Option Schema}
    (hids : ∀ s ∈ schema, ∀ t ∈ s.tables, IsIdentifier t.id) (name : Text) :
    IsIdentifier (tableIdOf schema name) := by
  unfold tableIdOf
  cases hfound : schema.bind (·.resolve name) with
  | none => exact isIdentifier_sanitizeId name
  | some t =>
    obtain ⟨s, hs, ht⟩ := Option.bind_eq_some_iff.1 hfound
    exact hids s hs t (mem_tables_of_resolve ht)

/-- Two texts with a mark between them are told apart, if the mark is not in the first one. -/
theorem append_mark_inj {mark : Char} {s s' t t' : Text} (hs : mark ∉ s) (hs' : mark ∉ s')
    (h : s ++ mark :: t = s' ++ mark :: t') : s = s' ∧ t = t' := by
  have hsplit : ∀ {u : Text}, mark ∉ u → ∀ v, (u ++ mark :: v).takeWhile (· != mark) = u := by
    intro u hu v
    have hfree : ∀ c ∈ u, (c != mark) = true := fun c hc =>
      bne_iff_ne.2 fun heq => hu (heq ▸ hc)
    rw [List.takeWhile_append_of_pos hfree]
    simp
  have hhead : s = s' := by rw [← hsplit hs t, ← hsplit hs' t', h]
  subst hhead
  exact ⟨rfl, (List.cons.inj (List.append_cancel_left h)).2⟩

/-- **The id of a column tells the table and the column.** -/
theorem columnAnchor_inj {id id' column column' : Text} (h : IsIdentifier id)
    (h' : IsIdentifier id')
    (heq : columnAnchor id column = columnAnchor id' column') : id = id' ∧ column = column' := by
  have hmark : ∀ id column : Text, columnAnchor id column
      = "col-".toList ++ (id ++ '-' :: column) :=
    fun id column => by simp [columnAnchor, concat]
  rw [hmark, hmark] at heq
  exact append_mark_inj h.dash_notMem h'.dash_notMem (List.append_cancel_left heq)

/-! ## The first free identifier -/

/-- Different suffixes give different identifiers. -/
theorem suffixedId_injective (base : Text) : Function.Injective (suffixedId base) := by
  intro m n h
  -- The first identifier has no suffix, and all others have their numbers.
  cases m with
  | zero =>
    cases n with
    | zero => rfl
    | succ n => simp [suffixedId] at h
  | succ m =>
    cases n with
    | zero => simp [suffixedId] at h
    | succ n =>
      simp only [suffixedId, List.append_cancel_left_eq, List.cons.injEq, true_and] at h
      have hnumber := Text.ofNat_injective h
      omega

/-- There are more suffixes than earlier identifiers, so one of them gives a new identifier. -/
theorem freshId_notMem (base : Text) (taken : List Text) : freshId base taken ∉ taken := by
  unfold freshId
  cases hfound :
    ((List.range (taken.length + 1)).map (suffixedId base)).find? (! taken.contains ·) with
  | some id => simpa using List.find?_some hfound
  | none =>
    -- Otherwise all the suffixed identifiers are taken, and there are too many of them.
    have hnodup : ((List.range (taken.length + 1)).map (suffixedId base)).Nodup :=
      List.nodup_range.map (suffixedId_injective base)
    have hsub : (List.range (taken.length + 1)).map (suffixedId base) ⊆ taken := fun id hid => by
      simpa using List.find?_eq_none.1 hfound id hid
    have hlength := (hnodup.subperm hsub).length_le
    simp at hlength

/-- **The identifier of a slug**: the slug itself if it is not taken, else the slug with the
smallest number from 2 on that makes it one that is not. -/
def IsFirstFree (taken : List Text) (slug id : Text) : Prop :=
  (slug ∉ taken ∧ id = slug) ∨
    slug ∈ taken ∧ ∃ k, 2 ≤ k ∧ id = slug ++ '_' :: Text.ofNat k ∧ id ∉ taken ∧
      ∀ j, 2 ≤ j → j < k → slug ++ '_' :: Text.ofNat j ∈ taken

/-- All suffixes before that of a new identifier are taken. -/
theorem exists_suffix_freshId (base : Text) (taken : List Text) :
    ∃ n, freshId base taken = suffixedId base n ∧ ∀ m < n, suffixedId base m ∈ taken := by
  have hfresh := freshId_notMem base taken
  unfold freshId at hfresh ⊢
  rw [List.find?_map] at hfresh ⊢
  cases hfound : (List.range (taken.length + 1)).find? ((! taken.contains ·) ∘ suffixedId base) with
  | some n =>
    refine ⟨n, rfl, fun m hm => ?_⟩
    simpa using (List.find?_range_eq_some.1 hfound).2.2 m hm
  | none => exact ⟨0, rfl, fun m hm => absurd hm (Nat.not_lt_zero m)⟩

namespace IsFirstFree

variable {taken : List Text} {slug id id' : Text}

/-- The first free identifier has not been taken. -/
theorem notMem (h : IsFirstFree taken slug id) : id ∉ taken := by
  obtain ⟨hslug, rfl⟩ | ⟨-, k, -, -, hid, -⟩ := h
  · exact hslug
  · exact hid

/-- The first free identifier of an identifier is one. -/
theorem isIdentifier (h : IsFirstFree taken slug id) (hslug : IsIdentifier slug) :
    IsIdentifier id := by
  obtain ⟨-, rfl⟩ | ⟨-, k, -, rfl, -, -⟩ := h
  · exact hslug
  · exact hslug.append (List.forall_mem_cons.2 ⟨.inr rfl, isIdentifier_ofNat k⟩)

/-- **There is one first free identifier.** -/
theorem unique (h : IsFirstFree taken slug id) (h' : IsFirstFree taken slug id') : id = id' := by
  obtain ⟨hfree, rfl⟩ | ⟨htaken, k, hk, rfl, hid, hleast⟩ := h
  · obtain ⟨-, rfl⟩ | ⟨htaken, -⟩ := h'
    · rfl
    · exact absurd htaken hfree
  · obtain ⟨hfree, -⟩ | ⟨-, k', hk', rfl, hid', hleast'⟩ := h'
    · exact absurd htaken hfree
    · obtain hlt | rfl | hlt := Nat.lt_trichotomy k k'
      · exact absurd (hleast' k hk hlt) hid
      · rfl
      · exact absurd (hleast k' hk' hlt) hid'

end IsFirstFree

/-- The fresh identifier is the first free one. -/
theorem isFirstFree_freshId (slug : Text) (taken : List Text) :
    IsFirstFree taken slug (freshId slug taken) := by
  have hfresh := freshId_notMem slug taken
  obtain ⟨n, hid, hbefore⟩ := exists_suffix_freshId slug taken
  rw [hid] at hfresh ⊢
  cases n with
  | zero => exact .inl ⟨hfresh, rfl⟩
  | succ n =>
    refine .inr ⟨hbefore 0 n.succ_pos, n + 2, Nat.le_add_left 2 n, rfl, hfresh, fun j hj hlt => ?_⟩
    obtain ⟨j, rfl⟩ := Nat.exists_eq_add_of_le' hj
    exact hbefore (j + 1) (by omega)

/-! ## Identifiers one after the other -/

/-- **Names get identifiers one after the other**, each the first free one behind those before. -/
inductive AssignsIds : List Text → List Text → List Text → Prop
  | nil {taken : List Text} : AssignsIds taken [] []
  | cons {taken names ids : List Text} {name id : Text}
    (hid : IsFirstFree taken (sanitizeId name) id)
      (hrest : AssignsIds (taken ++ [id]) names ids) : AssignsIds taken (name :: names) (id :: ids)

namespace AssignsIds

variable {taken names names' ids ids' : List Text}

/-- No identifier is given twice. -/
theorem nodup (h : AssignsIds taken names ids) (htaken : taken.Nodup) : (taken ++ ids).Nodup := by
  induction h with
  | nil => rwa [List.append_nil]
  | @cons taken _ ids _ id hid _ ih =>
    have hnext : (taken ++ [id]).Nodup := by
      rw [List.nodup_append_comm]
      exact List.nodup_cons.2 ⟨hid.notMem, htaken⟩
    have hall := ih hnext
    rwa [List.append_assoc] at hall

/-- All of the identifiers that are assigned are identifiers. -/
theorem isIdentifier (h : AssignsIds taken names ids) : ∀ id ∈ ids, IsIdentifier id := by
  induction h with
  | nil => simp
  | cons hid _ ih => exact List.forall_mem_cons.2 ⟨hid.isIdentifier (isIdentifier_sanitizeId _), ih⟩

/-- At every place stands the first identifier that is free behind those before it. -/
theorem firstFree (h : AssignsIds taken names ids) {i : Nat} {name id : Text}
    (hname : names[i]? = some name)
    (hid : ids[i]? = some id) : IsFirstFree (taken ++ ids.take i) (sanitizeId name) id := by
  induction h generalizing i with
  | nil => cases hname
  | cons hfirst _ ih =>
    -- The first one is free behind what was taken before, and the others behind it too.
    cases i with
    | zero =>
      cases hname
      cases hid
      rwa [List.take_zero, List.append_nil]
    | succ i =>
      have hrest := ih hname hid
      rwa [List.append_assoc] at hrest

/-- **What is given first stays**, whatever names come later. -/
theorem take_eq (h : AssignsIds taken names ids) (h' : AssignsIds taken names' ids') {n : Nat}
    (hnames : names.take n = names'.take n) : ids.take n = ids'.take n := by
  -- An identifier is told by its name and those before, so the two lists go the same way.
  induction h generalizing names' ids' n with
  | nil =>
    cases h' with
    | nil => rfl
    | cons =>
      obtain rfl : n = 0 := by simpa using hnames
      rfl
  | cons hid _ ih =>
    cases n with
    | zero => rfl
    | succ n =>
      cases h' with
      | nil => cases hnames
      | cons hid' hrest' =>
        rw [List.take_succ_cons, List.take_succ_cons] at hnames ⊢
        obtain ⟨rfl, hrest⟩ := List.cons.inj hnames
        obtain rfl := hid.unique hid'
        rw [ih hrest' hrest]

end AssignsIds

/-- **Tables get their identifiers one after the other.** -/
theorem assignsIds_readTables (context : TableContext) (earlier : List Table)
    (blocks : List Block) :
    AssignsIds (earlier.map (·.id)) (blocks.filterMap (·.properName?))
      ((context.readTables earlier blocks).value.map (·.id)) := by
  induction blocks generalizing earlier with
  | nil => exact .nil
  | cons b rest ih =>
    rw [TableContext.readTables, List.filterMap_cons]
    -- A block without a name is no table and takes no identifier.
    cases b.properName? with
    | none => exact ih earlier
    | some name =>
      have hrest := ih (earlier ++
        [(context.readTable (freshId (sanitizeId name) (earlier.map (·.id))) name b).value])
      rw [List.map_append] at hrest
      exact .cons (isFirstFree_freshId _ _) hrest

/-- **So do sticky notes.** -/
theorem assignsIds_readNotes (text : Text) (taken : List Text) (blocks : List Block) :
    AssignsIds taken (blocks.filterMap (·.properName?))
      ((readNotes text taken blocks).value.map (·.id)) := by
  induction blocks generalizing taken with
  | nil => exact .nil
  | cons b rest ih =>
    rw [readNotes, List.filterMap_cons]
    cases b.properName? with
    | none => exact ih taken
    | some name => exact .cons (isFirstFree_freshId _ _) (ih _)

/-! ## The identifiers of a document -/

/-- The names that the blocks of a keyword declare. -/
def declaredNames (keyword : Text) (blocks : List Block) : List Text :=
  (blocks.filter (·.keyword = keyword)).filterMap (·.properName?)

/-- The names that blocks declare are listed block by block. -/
theorem declaredNames_append (keyword : Text) (front back : List Block) :
    declaredNames keyword (front ++ back)
      = declaredNames keyword front ++ declaredNames keyword back := by
  rw [declaredNames, List.filter_append, List.filterMap_append]
  rfl

/-- The tables of a schema get their identifiers in order. -/
theorem assignsIds_tables (text : Text) :
    AssignsIds [] (declaredNames "table".toList (parseBlocks (clean text)).blocks)
      ((readSchema text).tables.map (·.id)) :=
  assignsIds_readTables _ [] _

/-- The notes of a schema get their identifiers in order. -/
theorem assignsIds_notes (text : Text) :
    AssignsIds [] (declaredNames "note".toList (parseBlocks (clean text)).blocks)
      ((readSchema text).notes.map (·.id)) :=
  assignsIds_readNotes _ [] _

/-- **The tables of a document have identifiers.** -/
theorem isIdentifier_readSchema {text : Text} {t : Table} (h : t ∈ (readSchema text).tables) :
    IsIdentifier t.id :=
  (assignsIds_tables text).isIdentifier _ (List.mem_map_of_mem h)

/-- **The tables of a document have different identifiers.** -/
theorem nodup_ids_readSchema (text : Text) : ((readSchema text).tables.map (·.id)).Nodup :=
  (assignsIds_tables text).nodup List.nodup_nil

/-- **The sticky notes of a document have different identifiers.** -/
theorem nodup_notes_readSchema (text : Text) : ((readSchema text).notes.map (·.id)).Nodup :=
  (assignsIds_notes text).nodup List.nodup_nil

section

variable {α : Type} (name id : α → Text)

/-- A name and the identifier that it got. -/
def nameAndId (a : α) : Text × Text := (name a, id a)

/-- **Identifiers of entities**, where `entities` gives those that the blocks of the keyword declare
in a text. -/
structure OwnIds (keyword : Text) (entities : Text → List α) : Prop where
  /-- No two entities of a text have the same one. -/
  nodup (text : Text) : ((entities text).map id).Nodup
  /-- They are made of letters, digits and underscores. -/
  isIdentifier (text : Text) : ∀ a ∈ entities text, IsIdentifier (id a)
  /-- Each is made of the name, and differs from those before. -/
  firstFree (text : Text) (i : Nat) (a : α) (ha : (entities text)[i]? = some a) :
    IsFirstFree (((entities text).take i).map id) (sanitizeId (name a)) (id a)
  /-- What the first blocks of a text declare has the same identifiers in another text whose first
  blocks declare the same names, whatever blocks come later. -/
  stable (text text' : Text) (front front' back back' : List Block)
    (hblocks : (parseBlocks (clean text)).blocks = front ++ back)
    (hblocks' : (parseBlocks (clean text')).blocks = front' ++ back')
    (hfront : declaredNames keyword front' = declaredNames keyword front) :
    ∃ common, common.map (·.1) = declaredNames keyword front ∧
      common <+: (entities text).map (nameAndId name id) ∧
      common <+: (entities text').map (nameAndId name id)

variable {name id}

/-- Entities that are read one from each block with a name have the names of these blocks. -/
theorem names_of_forall₂ {entities : List α} {blocks : List Block}
    (h : List.Forall₂ (fun a b => b.properName? = some (name a)) entities
      (blocks.filter (·.properName?.isSome))) :
    entities.map name = blocks.filterMap (·.properName?) := by
  -- Only the blocks with names count on both sides.
  have hnamed : blocks.filterMap (·.properName?)
      = (blocks.filter (·.properName?.isSome)).filterMap (·.properName?) := by
    rw [List.filterMap_filter]
    refine List.filterMap_congr fun b _ => ?_
    cases b.properName? <;> rfl
  rw [hnamed]
  generalize blocks.filter (·.properName?.isSome) = named at h
  induction h with
  | nil => rfl
  | cons hname _ ih => rw [List.map_cons, List.filterMap_cons_some hname, ih]

/-- Lists with the same names and identifiers have the same pairs of them. -/
theorem map_nameAndId_eq {l l' : List α} (hnames : l.map name = l'.map name)
    (hids : l.map id = l'.map id) : l.map (nameAndId name id) = l'.map (nameAndId name id) := by
  have hzip : ∀ l : List α, l.map (nameAndId name id) = (l.map name).zip (l.map id) := fun _ =>
    List.zip_map'.symm
  rw [hzip, hzip, hnames, hids]

/-- **Entities that get their identifiers one after the other** have identifiers of their own. -/
theorem OwnIds.of_assignsIds {keyword : Text} {entities : Text → List α}
    (hnames : ∀ text, (entities text).map name
      = declaredNames keyword (parseBlocks (clean text)).blocks)
    (hids : ∀ text, AssignsIds [] (declaredNames keyword (parseBlocks (clean text)).blocks)
      ((entities text).map id)) :
    OwnIds name id keyword entities where
  nodup text := (hids text).nodup List.nodup_nil
  isIdentifier text a ha := (hids text).isIdentifier _ (List.mem_map_of_mem ha)
  firstFree text i a ha := by
    have hname : (declaredNames keyword (parseBlocks (clean text)).blocks)[i]? = some (name a) := by
      rw [← hnames, List.getElem?_map, ha, Option.map_some]
    have hid : ((entities text).map id)[i]? = some (id a) := by
      rw [List.getElem?_map, ha, Option.map_some]
    have hfirst := (hids text).firstFree hname hid
    rwa [List.nil_append, ← List.map_take] at hfirst
  stable text text' front front' back back' hblocks hblocks' hfront := by
    -- What the first blocks declare is a stretch of the names of both texts.
    have htake : (declaredNames keyword (parseBlocks (clean text)).blocks).take
        (declaredNames keyword front).length = declaredNames keyword front := by
      rw [hblocks, declaredNames_append, List.take_left]
    have htake' : (declaredNames keyword (parseBlocks (clean text')).blocks).take
        (declaredNames keyword front).length = declaredNames keyword front := by
      rw [hblocks', declaredNames_append, hfront, List.take_left]
    have hsame := (hids text).take_eq (hids text') (htake.trans htake'.symm)
    rw [← hnames, ← List.map_take] at htake htake'
    rw [← List.map_take, ← List.map_take] at hsame
    refine ⟨((entities text).take (declaredNames keyword front).length).map (nameAndId name id), ?_,
      ?_, ?_⟩
    · rw [List.map_map]
      exact htake
    · rw [List.map_take]
      exact List.take_prefix _ _
    · rw [map_nameAndId_eq (htake.trans htake'.symm) hsame, List.map_take]
      exact List.take_prefix _ _

end

/-- **The identifiers of a document**: those of its tables, and those of its sticky notes. -/
theorem ownIds_readSchema :
    OwnIds Table.name Table.id "table".toList (fun text => (readSchema text).tables) ∧
      OwnIds Note.name Note.id "note".toList (fun text => (readSchema text).notes) :=
  ⟨.of_assignsIds (fun _ => names_of_forall₂ ((readTables_forall₂ _ [] _).imp fun _ _ h => h.1))
      assignsIds_tables,
    .of_assignsIds (fun _ => names_of_forall₂ ((readNotes_forall₂ _ [] _).imp fun _ _ h => h.1))
      assignsIds_notes⟩

/-- Tables of one name, and between them one whose name is that name with a suffix. -/
def repeatedNames : Text :=
  "Table a \x7b\n x int\n\x7d\nTable a_2 \x7b\n x int\n\x7d\nTable \"a\" \x7b\n x int\n\x7d".toList

/-- The tables, and behind them one whose name is the identifier that the last of them got. -/
def repeatedNamesExtended : Text :=
  repeatedNames ++ "\nTable a_3 \x7b\n x int\n\x7d\nNote a \x7b\n 'text'\n\x7d".toList

example : (readSchema repeatedNamesExtended).tables.map (nameAndId Table.name Table.id)
    = [("a".toList, "a".toList), ("a_2".toList, "a_2".toList), ("a".toList, "a_3".toList),
        ("a_3".toList, "a_3_2".toList)] := by
  decide +kernel

/-- The three tables keep their identifiers when the others come behind them. -/
theorem ownIds_readSchema_repeatedNames :
    ∃ front back, (parseBlocks (clean repeatedNamesExtended)).blocks = front ++ back ∧
    back.length = 2 ∧
      declaredNames "table".toList front = ["a".toList, "a_2".toList, "a".toList] ∧
      ∃ common, common.map (·.1) = ["a".toList, "a_2".toList, "a".toList] ∧
        common <+: (readSchema repeatedNames).tables.map (nameAndId Table.name Table.id) ∧
        common
        <+: (readSchema repeatedNamesExtended).tables.map (nameAndId Table.name Table.id) := by
  -- The names on the tables are read in the kernel, and the result is taken from the theorem.
  have hnames : declaredNames "table".toList (parseBlocks (clean repeatedNames)).blocks
      = ["a".toList, "a_2".toList, "a".toList] := by decide +kernel
  have hfront : declaredNames "table".toList
      ((parseBlocks (clean repeatedNamesExtended)).blocks.take 3)
      = ["a".toList, "a_2".toList, "a".toList] := by decide +kernel
  have hback : ((parseBlocks (clean repeatedNamesExtended)).blocks.drop 3).length = 2 := by
    decide +kernel
  have hsplit := (List.take_append_drop 3 (parseBlocks (clean repeatedNamesExtended)).blocks).symm
  have hstable := ownIds_readSchema.1.stable repeatedNames repeatedNamesExtended _ _ [] _
    (List.append_nil _).symm hsplit (hfront.trans hnames.symm)
  rw [hnames] at hstable
  exact ⟨_, _, hsplit, hback, hfront, hstable⟩

end SchemaDiagram
