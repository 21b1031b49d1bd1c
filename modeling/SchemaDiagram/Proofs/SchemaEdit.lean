import SchemaDiagram.Proofs.Naming
import SchemaDiagram.Proofs.WrittenValues

/-! # What an edit does to the schema

A change of a table or a note that writes numbers under plain keys is read back from the list of its
block, and nothing else in the schema changes: the blocks before it and behind it say what they
said, and so does the block itself, its list apart.

Such a change keeps every comment of the text, for none stands in the list and nothing that is
written starts one. And it keeps the text when it has been made before. Neither holds of every text:
a comment in the list goes with the value that it stands behind, and a list that stands behind a
stray token is not found again.

* **`plainValue_of_numeralChars`** — a written number is a plain value.
* **`views_withKeyword`** — the blocks of the other keywords say what they said.
* **`readSchema_edited`** — the schema of the text after the change.
* **`comments_preview`** — the comments of the text after a change.
* **`preview_preview`** — a change that is made twice. -/

namespace SchemaDiagram

/-! ## Numbers in a list -/

/-- The characters of numbers are small. -/
theorem lower_of_numeralChars {s : Text} (h : ∀ c ∈ s, c ∈ numeralChars) : s.lower = s := by
  -- All the characters of numbers are in the lower half of the table and not upper case.
  have hall : numeralChars.all (fun c => c.toNat < 128 && c.toLower == c) = true := by decide
  have hfrom : ∀ afterCased, lowerFrom afterCased s = s := by
    induction s with
    | nil => intro _; rfl
    | cons c s ih =>
      intro afterCased
      have hc := List.all_eq_true.1 hall c (h c (List.mem_cons_self ..))
      simp only [Bool.and_eq_true, decide_eq_true_eq, beq_iff_eq] at hc
      have h₁ : c ≠ '\u0130' := by
        rintro rfl
        exact absurd hc.1 (by decide)
      have h₂ : c ≠ '\u03a3' := by
        rintro rfl
        exact absurd hc.1 (by decide)
      rw [lowerFrom, if_neg h₁, if_neg h₂, lowerChar_of_ascii hc.1, hc.2,
        ih fun d hd => h d (List.mem_cons_of_mem _ hd)]
  exact hfrom false

/-- **A written number is a plain value**: no block starts with it. -/
theorem plainValue_of_numeralChars {v : Text} (hne : v ≠ []) (h : ∀ c ∈ v, c ∈ numeralChars) :
    PlainValue v := by
  have hbare : ∀ c ∈ v, isBareChar c = true := fun c hc => isBareChar_of_mem_numeralChars (h c hc)
  have hkey : ∀ c ∈ v, isKeyChar c = true := fun c hc => (isBareChar_iff.1 (hbare c hc)).1
  have hwritten := isWritten_of_bare hne hbare
  refine ⟨⟨settled_of_keyChars hkey, nesting_of_keyChars hkey false []⟩, hwritten.trimmed, hne,
    isQuiet_of_no_newline fun t ht hkind => ?_, ?_⟩
  · -- Tokens of the number stand on one line, so none of them is a newline.
    have hflat := hwritten.flat 0 1 t ht
    rw [hkind] at hflat
    cases hflat
  · obtain ⟨c, rest, rfl⟩ := List.exists_cons_of_ne_nil hne
    obtain ⟨kind, x, after, heq, hpiece⟩ := Piece.exists_of_cons c rest
    rw [heq] at h hbare hkey ⊢
    obtain ⟨k, rfl, hflat⟩ := hpiece.exists_kind fun c hc => hbare c (List.mem_append_left _ hc)
    have hafter : Settled after :=
      settled_of_keyChars fun c hc => hkey c (List.mem_append_right _ hc)
    have htokens := hpiece.tokensFrom_clean 0 1
    rw [hafter.clean_eq] at htokens
    have hkind : (pieceToken k x 0 1).kind = k := rfl
    have hstop : ¬(k = .newline ∨ k = .doc) := by
      rintro (rfl | rfl) <;> cases hflat
    -- The text starts with a token of its own, which is neither a line end nor a doc comment.
    rw [tokenize, htokens, startsBlock_cons, hkind, if_neg hstop]
    split
    next hword =>
      subst hword
      have hvalue : (pieceToken .word x 0 1).value = x := rfl
      -- Every keyword has a letter that no number is written with.
      have hnone : topLevelKeywords.all (fun w => !w.all numeralChars.contains) = true := by decide
      have hx : Text.lower x = x :=
        lower_of_numeralChars fun c hc => h c (List.mem_append_left _ hc)
      rw [hvalue, hx, Bool.and_eq_false_iff]
      refine .inl (Bool.eq_false_iff.2 fun hmem => ?_)
      have hkeyword := List.all_eq_true.1 hnone x (List.contains_iff_mem.1 hmem)
      rw [Bool.not_eq_true', List.all_eq_false] at hkeyword
      obtain ⟨c, hc, hnumeral⟩ := hkeyword
      exact hnumeral (List.contains_iff_mem.2 (h c (List.mem_append_left _ hc)))
    next => rfl

/-- A change that writes numbers under plain keys, none of them twice, and at least one. -/
structure Change.IsNumeric (change : Change) : Prop where
  /-- It writes something, all of which has a written form. -/
  writable : change.IsWritable
  /-- It writes numbers. -/
  number : ∀ e ∈ change.values, e.2.isNumber = true
  /-- Its keys are plain. -/
  key : ∀ e ∈ change.values, PlainKey e.1
  /-- No key comes twice. -/
  nodup : change.values.keys.Nodup

/-- What such a change writes is read back as it is written. -/
theorem Change.IsNumeric.plainEntries {change : Change} (h : change.IsNumeric) :
    PlainEntries change.texts := by
  refine ⟨fun e he => ?_, fun e he => ?_, ?_⟩
  · obtain ⟨c, hc, rfl⟩ := List.mem_map.1 he
    exact h.key c hc
  · obtain ⟨c, hc, rfl⟩ := List.mem_map.1 he
    obtain ⟨hne, hmem⟩ := formatValue_number (h.number c hc)
    exact plainValue_of_numeralChars hne hmem
  · rw [Change.texts, OrderedMap.keys_mapValues]
    exact h.nodup

/-! ## Blocks by keyword -/

section

variable {s s' : Text} {front back front' back' : List Block} {b b' : Block}
  (hfront : front'.map (Block.view s') = front.map (Block.view s))
  (hback : back'.map (Block.view s') = back.map (Block.view s)) (hb : b'.keyword = b.keyword)

include hfront hback hb

/-- **The blocks of the other keywords say what they said.** -/
theorem views_withKeyword {keyword : Text} (h : b.keyword ≠ keyword) :
    ((front' ++ b' :: back').filter (·.keyword = keyword)).map (Block.view s')
      = ((front ++ b :: back).filter (·.keyword = keyword)).map (Block.view s) := by
  have hdrop : ∀ (c : Block), c.keyword = b.keyword → ∀ l : List Block,
      (c :: l).filter (·.keyword = keyword) = l.filter (·.keyword = keyword) := by
    intro c hc l
    exact List.filter_cons_of_neg (by simpa [hc] using h)
  rw [List.filter_append, List.filter_append, hdrop b' hb, hdrop b rfl, List.map_append,
    List.map_append, filter_keyword hfront, filter_keyword hback]

end

/-- The blocks of the keyword of a block. -/
theorem filter_keyword_self {front back : List Block} {b : Block} {keyword : Text}
    (h : b.keyword = keyword) : (front ++ b :: back).filter (·.keyword = keyword)
      = front.filter (·.keyword = keyword) ++ b :: back.filter (·.keyword = keyword) := by
  rw [List.filter_append, List.filter_cons, h, decide_eq_true rfl, if_pos rfl]

/-- A block with a name is found among those with a name at the number of those before it. -/
theorem getElem?_countNamed {front back : List Block} {b : Block}
    (h : b.properName?.isSome = true) :
    ((front ++ b :: back).filter (·.properName?.isSome))[countNamed front]? = some b := by
  rw [List.filter_append, List.filter_cons, h, if_pos rfl, countNamed, List.getElem?_append_right
    (Nat.le_refl _), Nat.sub_self]
  rfl

/-! ## Schemas that differ in one entity -/

/-- Two schemas that say the same beside their tables and sticky notes. -/
structure Schema.SameBeside (s s' : Schema) : Prop where
  /-- The references are the same. -/
  relationships : s'.relationships = s.relationships
  /-- The enums are the same. -/
  enums : s'.enums = s.enums
  /-- The project settings are the same. -/
  project : s'.project = s.project
  /-- The name of the project is the same. -/
  projectName : s'.projectName = s.projectName

/-- One entity is edited: the one that is read from the block. A block without a name makes none. -/
def EditedAt {α : Type} (blocks : List Block) (b : Block) (R : α → α → Prop) (l l' : List α) :
    Prop :=
  b.properName? = none ∧ l' = l ∨ ∃ i, blocks[i]? = some b ∧ DifferAt i R l l'

/-- A table keeps its references when values are written into its settings. -/
theorem Table.IsResettled.inlineReferences {values : OrderedMap Text} {t t' : Table}
    (h : t.IsResettled values t') : t'.inlineReferences = t.inlineReferences := by
  obtain ⟨note, rfl, -⟩ := h
  rfl

/-- What is told of each element by something that the edit keeps. -/
theorem EditedAt.flatMap_eq {α β : Type} {blocks : List Block} {b : Block} {R : α → α → Prop}
    {l l' : List α} (h : EditedAt blocks b R l l') {f : α → List β}
      (hf : ∀ a a', R a a' → f a' = f a) :
    l'.flatMap f = l.flatMap f := by
  obtain ⟨-, rfl⟩ | ⟨i, -, before, a, a', after, rfl, rfl, -, hR⟩ := h
  · rfl
  · rw [List.flatMap_append, List.flatMap_append, List.flatMap_cons, List.flatMap_cons, hf a a' hR]

/-! ## Texts that differ in one block -/

/-- Two texts whose blocks say the same, but for one of them, which keeps its keyword. -/
structure SameAround (text text' : Text) (front back front' back' : List Block) (b b' : Block) :
    Prop where
  /-- The blocks of the first text. -/
  blocks : (parseBlocks (clean text)).blocks = front ++ b :: back
  /-- The blocks of the second text. -/
  blocks' : (parseBlocks (clean text')).blocks = front' ++ b' :: back'
  /-- The blocks before it say what they said. -/
  front : front'.map (Block.view (clean text')) = front.map (Block.view (clean text))
  /-- It keeps its keyword. -/
  keyword : b'.keyword = b.keyword
  /-- The blocks behind it say what they said. -/
  back : back'.map (Block.view (clean text')) = back.map (Block.view (clean text))

namespace SameAround

variable {text text' : Text} {front back front' back' : List Block} {b b' : Block}
  (h : SameAround text text' front back front' back' b b')

include h

/-- The blocks of the other keywords say what they said. -/
theorem withKeyword {keyword : Text} (hne : b.keyword ≠ keyword.lower) :
    ((parseBlocks (clean text')).withKeyword keyword).map (Block.view (clean text'))
      = ((parseBlocks (clean text)).withKeyword keyword).map (Block.view (clean text)) := by
  rw [BlockTree.withKeyword, BlockTree.withKeyword, h.blocks, h.blocks']
  exact views_withKeyword h.front h.back h.keyword hne

/-- The blocks of its own keyword, in the two texts. -/
theorem withKeyword_self {keyword : Text} (heq : b.keyword = keyword.lower) :
    (parseBlocks (clean text)).withKeyword keyword
        = front.filter (·.keyword = keyword.lower) ++ b :: back.filter (·.keyword = keyword.lower) ∧
      (parseBlocks (clean text')).withKeyword keyword
        = front'.filter (·.keyword = keyword.lower)
        ++ b' :: back'.filter (·.keyword = keyword.lower) := by
  rw [BlockTree.withKeyword, BlockTree.withKeyword, h.blocks, h.blocks']
  exact ⟨filter_keyword_self heq, filter_keyword_self (h.keyword.trans heq)⟩

/-- The tables are read with the same enums and partials. -/
theorem tableContext_eq (hk : b.keyword = "table".toList ∨ b.keyword = "note".toList) :
    (tableContext text').partials = (tableContext text).partials ∧
      (tableContext text').enums = (tableContext text).enums := by
  have hpartials : b.keyword ≠ Text.lower "tablepartial".toList := by
    obtain hk | hk := hk <;> rw [hk] <;> decide
  have henums : b.keyword ≠ Text.lower "enum".toList := by
    obtain hk | hk := hk <;> rw [hk] <;> decide
  exact ⟨readPartials_congr (h.withKeyword hpartials), readEnums_congr (h.withKeyword henums)⟩

/-- The tables are as they were, where the block is that of a note. -/
theorem tables_eq (hk : b.keyword = "note".toList) :
    (readSchema text').tables = (readSchema text).tables := by
  obtain ⟨hpartials, henums⟩ := h.tableContext_eq (.inr hk)
  have hne : b.keyword ≠ Text.lower "table".toList := by
    rw [hk]
    decide
  exact TableContext.readTables_eq hpartials henums (h.withKeyword hne) rfl

/-- The notes are as they were, where the block is that of a table. -/
theorem notes_eq (hk : b.keyword = "table".toList) :
    (readSchema text').notes = (readSchema text).notes := by
  have hne : b.keyword ≠ Text.lower "note".toList := by
    rw [hk]
    decide
  exact readNotes_eq (h.withKeyword hne) []

/-- **What is neither a table nor a note is as it was**, the references in the fields of tables
apart. -/
theorem beside (hk : b.keyword = "table".toList ∨ b.keyword = "note".toList) :
    (readRefs (parseBlocks (clean text'))).value = (readRefs (parseBlocks (clean text))).value ∧
      (readSchema text').enums = (readSchema text).enums ∧
      (readSchema text').project = (readSchema text).project ∧
      (readSchema text').projectName = (readSchema text).projectName := by
  -- The block is a table or a note, so no other keyword is its own.
  have hne : ∀ keyword : Text, keyword.lower ≠ "table".toList → keyword.lower ≠ "note".toList →
      b.keyword ≠ keyword.lower := by
    intro keyword htable hnote
    obtain hk | hk := hk <;> rw [hk]
    · exact htable.symm
    · exact hnote.symm
  have hproject : (readProject (parseBlocks (clean text'))).value
      = (readProject (parseBlocks (clean text))).value :=
    readProject_congr (h.withKeyword (hne "project".toList (by decide) (by decide)))
  exact ⟨readRefs_congr (h.withKeyword (hne "ref".toList (by decide) (by decide))),
    congrArg OrderedMap.values (h.tableContext_eq hk).2, congrArg Prod.snd hproject,
    congrArg Prod.fst hproject⟩

end SameAround

/-! ## Texts that differ in one list -/

/-- Two texts whose blocks say the same, but for the list of one of them, into which values are
written. -/
structure Relisted (text text' : Text) (values : OrderedMap Text)
    (front back front' back' : List Block) (b b' : Block) : Prop where
  /-- The blocks of the first text. -/
  blocks : (parseBlocks (clean text)).blocks = front ++ b :: back
  /-- The blocks of the second text. -/
  blocks' : (parseBlocks (clean text')).blocks = front' ++ b' :: back'
  /-- The blocks before it say what they said. -/
  front : front'.map (Block.view (clean text')) = front.map (Block.view (clean text))
  /-- So does the block itself, its list apart. -/
  view : b'.view (clean text')
    = { b.view (clean text) with settings := (b'.view (clean text')).settings }
  /-- The values are written into its list. -/
  settings : parseSettings (((b'.view (clean text')).settings).getD [])
    = (parseSettings (b.settingsText (clean text))).update values
  /-- The blocks behind it say what they said. -/
  back : back'.map (Block.view (clean text')) = back.map (Block.view (clean text))

namespace Relisted

variable {text text' : Text} {values : OrderedMap Text} {front back front' back' : List Block}
  {b b' : Block} (h : Relisted text text' values front back front' back' b b')

include h

/-- The other blocks say what they said, and the block keeps its keyword. -/
theorem around : SameAround text text' front back front' back' b b' := by
  have hkeyword := congrArg BlockView.keyword h.view
  rw [Block.view, Block.view] at hkeyword
  exact ⟨h.blocks, h.blocks', h.front, hkeyword, h.back⟩

/-- **The tables**, where the list is that of a table. -/
theorem tables_edited (hk : b.keyword = "table".toList) (hv : values.keys.Nodup) :
    EditedAt (namedBlocks text .table) b (Table.IsResettled values)
      (readSchema text).tables (readSchema text').tables := by
  obtain ⟨hpartials, henums⟩ := h.around.tableContext_eq (.inl hk)
  have hlower : b.keyword = Text.lower "table".toList := hk
  obtain ⟨hself, hself'⟩ := h.around.withKeyword_self hlower
  have htables := TableContext.readTables_edited hpartials henums
    (filter_keyword h.front (Text.lower "table".toList)) h.view
    (filter_keyword h.back (Text.lower "table".toList)) hv h.settings
  rw [← hself, ← hself'] at htables
  obtain ⟨hnone, heq⟩ | ⟨name, hname, before, t, t', after, heq, heq', hplace, -, hR⟩ := htables
  · -- The block of the edit is no table, and the tables are what they were.
    exact .inl ⟨hnone, heq⟩
  · -- The block is a table, and it stands at the place of the edited one.
    refine .inr ⟨_, ?_, before, t, t', after, heq, heq', hplace, hR⟩
    rw [namedBlocks, show EntityKind.table.name.toList = "table".toList from rfl, hself]
    exact getElem?_countNamed (by rw [hname, Option.isSome_some])

/-- **The notes**, where the list is that of a note. -/
theorem notes_edited (hk : b.keyword = "note".toList) :
    EditedAt (namedBlocks text .note) b
      (Note.IsResettled (parseSettings (b.settingsText (clean text))) values)
      (readSchema text).notes (readSchema text').notes := by
  have hlower : b.keyword = Text.lower "note".toList := hk
  obtain ⟨hself, hself'⟩ := h.around.withKeyword_self hlower
  have hnotes := readNotes_edited (filter_keyword h.front (Text.lower "note".toList)) h.view
    (filter_keyword h.back (Text.lower "note".toList)) h.settings
  rw [← hself, ← hself'] at hnotes
  obtain ⟨hnone, heq⟩ | ⟨name, hname, before, n, n', after, heq, heq', hplace, -, hR⟩ := hnotes
  · exact .inl ⟨hnone, heq⟩
  · refine .inr ⟨_, ?_, before, n, n', after, heq, heq', hplace, hR⟩
    rw [namedBlocks, show EntityKind.note.name.toList = "note".toList from rfl, hself]
    exact getElem?_countNamed (by rw [hname, Option.isSome_some])

/-- **What is neither a table nor a note** is as it was. -/
theorem beside (hk : b.keyword = "table".toList ∨ b.keyword = "note".toList)
    (hv : values.keys.Nodup) :
    (readSchema text).SameBeside (readSchema text') := by
  obtain ⟨hrefs, henums, hproject, hprojectName⟩ := h.around.beside hk
  have hinline : (readSchema text').tables.flatMap (·.inlineReferences)
      = (readSchema text).tables.flatMap (·.inlineReferences) := by
    obtain hk | hk := hk
    · exact (h.tables_edited hk hv).flatMap_eq fun t t' ht => ht.inlineReferences
    · rw [h.around.tables_eq hk]
  exact ⟨congrArg₂ (· ++ ·) hinline hrefs, henums, hproject, hprojectName⟩

end Relisted

/-! ## The schema after a change -/

section

/-- **What a change does to the schema**: one table or one note has the values written into its
settings, and everything else is as it was. -/
structure Schema.Edited (s s' : Schema) (text : Text) (b : Block) (change : Change) : Prop where
  /-- What is neither a table nor a note is as it was. -/
  beside : s.SameBeside s'
  /-- The tables: one is edited by a change of a table. -/
  tables : if change.kind = .table then EditedAt (namedBlocks text .table) b
      (Table.IsResettled change.texts) s.tables s'.tables else s'.tables = s.tables
  /-- The notes: one is edited by a change of a note. -/
  notes : if change.kind = .note then EditedAt (namedBlocks text .note) b
      (Note.IsResettled (parseSettings (b.settingsText text)) change.texts) s.notes s'.notes
    else s'.notes = s.notes

variable {text : Text} {change : Change} {b : Block}

/-- **The schema after a change.** A change of a table or a note that writes numbers under plain
keys is planned when its block is found and can be edited; afterwards one table or note has the
values in its settings, and everything else is as it was. -/
theorem readSchema_edited (hkind : change.kind ≠ .project) (hchange : change.IsNumeric)
    (hb : target? text change = some b) (he : Editable text b) :
    ∃ text', preview text change = .ok text' ∧
      (readSchema text).Edited (readSchema text') text b change := by
  have hplan := (plan_eq_ok_iff hkind).2 ⟨hchange.writable, b, hb, rfl⟩
  have hplain := hchange.plainEntries
  refine ⟨_, preview_eq_ok_iff.2 ⟨_, hplan, rfl⟩, ?_⟩
  obtain ⟨front, back, front', b', back', -, hclean, hblocks, hblocks', hfront, hview, hback,
      -, -⟩ :=
    exists_edited hkind hplan hplain hb he
  generalize ((settingsSplice text b change.texts).minimized text).apply text = text' at *
  have hsettings : (b'.view (clean text')).settings
      = some (rewriteSettings (b.settingsText text) change.texts) := by
    rw [hview]
  have hset := (rewriteSettings_spec hplain he.isList).settings
  -- Only the list of the block is another one.
  have h : Relisted text text' change.texts front back front' back' b b' := by
    refine ⟨hblocks, hblocks', hfront, ?_, ?_, hback⟩
    · rw [hsettings]
      exact hview
    · rw [hsettings, hclean]
      exact hset
  have hnodup : change.texts.keys.Nodup := hplain.nodup
  obtain ⟨-, hkeyword, -⟩ := keyword_of_target? hb
  cases hk : change.kind with
  | project => exact absurd hk hkind
  -- The list is that of a table, and the notes stay.
  | table =>
    rw [hk] at hkeyword
    refine ⟨h.beside (.inl hkeyword) hnodup, ?_, ?_⟩
    · rw [hk, if_pos rfl]
      exact h.tables_edited hkeyword hnodup
    · rw [hk, if_neg (by decide)]
      exact h.around.notes_eq hkeyword
  -- The list is that of a note, and the tables stay.
  | note =>
    rw [hk] at hkeyword
    refine ⟨h.beside (.inr hkeyword) hnodup, ?_, ?_⟩
    · rw [hk, if_neg (by decide)]
      exact h.around.tables_eq hkeyword
    · rw [hk, if_pos rfl, ← hclean]
      exact h.notes_edited hkeyword

instance (text : Text) (b : Block) : Decidable (Editable text b) :=
  decidable_of_iff ((∀ span ∈ b.settingsSpan, IsList (span.slice text)) ∧
      (b.settingsSpan = none → b.strayTokens (clean text) = []))
    ⟨fun h => ⟨h.1, h.2⟩, fun h => ⟨h.1, h.2⟩⟩

instance (k : Text) : Decidable (PlainKey k) :=
  decidable_of_iff (k ≠ [] ∧ normalizeKey k = k ∧ k.all isKeyChar = true ∧
      startsBlock (tokenize (k ++ [':'])) = false)
    ⟨fun h => ⟨h.1, h.2.1, List.all_eq_true.1 h.2.2.1, h.2.2.2⟩,
      fun h => ⟨h.1, h.2, List.all_eq_true.2 h.3, h.4⟩⟩

/-- Whether a block is found that can be edited can be computed. -/
theorem exists_editable
    (h : (target? text change).any (fun b => decide (Editable text b)) = true) :
    ∃ b, target? text change = some b ∧ Editable text b := by
  obtain ⟨b, hb, he⟩ := (Option.any_eq_true _ _).1 h
  exact ⟨b, hb, of_decide_eq_true he⟩

/-- A table with a list, between another table and a note. -/
def plot : Text := "Table a {}\nTable t [x: 1] \x7b\n  id int\n\x7d\nNote n {}".toList

/-- The table gets another place. -/
def shove : Change := .moveTable "t".toList (.int 5) (.int 7) none

/-- A whole number of at most nine digits has a written form. -/
theorem Scalar.hasWrittenForm_int {n : Int} (h : n.natAbs < 10 ^ 9) :
    (Scalar.int n).hasWrittenForm = true := by
  have hlongest : 9 ≤ longestInt := by decide
  rw [Scalar.hasWrittenForm]
  -- The longest number is never computed.
  generalize longestInt = longest at hlongest ⊢
  exact decide_eq_true (h.trans_le (Nat.pow_le_pow_right (by decide) hlongest))

/-- The keys of a change of place or size are plain. -/
theorem plainKey_of_mem_placeKeys :
    ∀ k ∈ ["x".toList, "y".toList, "width".toList, "height".toList], PlainKey k := by
  decide +kernel

/-- A change of place or size writes numbers, when it can be written. -/
theorem Change.IsNumeric.of_place {change : Change} (hwritable : change.IsWritable)
    (hnumber : ∀ e ∈ change.values, e.2.isNumber = true)
    (hkeys : change.values.keys.Sublist ["x".toList, "y".toList, "width".toList, "height".toList]) :
    change.IsNumeric where
  writable := hwritable
  number := hnumber
  key e he := plainKey_of_mem_placeKeys e.1 (hkeys.subset (List.mem_map_of_mem he))
  nodup := hkeys.nodup (by decide)

/-- It writes numbers. -/
theorem isNumeric_shove : shove.IsNumeric :=
  .of_place ⟨rfl, by simp [shove, Change.moveTable, Scalar.hasWrittenForm_int]⟩ (by decide)
    (by decide)

/-- The schema of the plot after the table is moved. -/
theorem readSchema_edited_shove :
    shove.kind ≠ .project ∧ shove.IsNumeric ∧ ∃ b, target? plot shove = some b ∧ Editable plot b ∧
      ∃ text', preview plot shove = .ok text' ∧
        (readSchema plot).Edited (readSchema text') plot b shove := by
  have hkind : shove.kind ≠ .project := by decide
  obtain ⟨b, hb, he⟩ :=
    exists_editable (show (target? plot shove).any (fun b => decide (Editable plot b)) = true by
    decide +kernel)
  exact ⟨hkind, isNumeric_shove, b, hb, he, readSchema_edited hkind isNumeric_shove hb he⟩

/-- A table without a list. -/
def bare : Text := "Table t {}".toList

/-- A table with braces in its list, inside a block that is not closed. -/
def unclosed : Text := "Table a \x7b\nTable t [k: \x7ba, b\x7d] \x7b\x7d".toList

/-- The table gets one setting. -/
def setOnly (key : Text) : Change := ⟨.table, some "t".toList, [(key, .int 5)]⟩

/-- **What a setting does beside the settings**: a color is the color of the table, a key is read
back normalized and up to its first colon, and a value with braces in it is replaced up to its
comma, so that a block that was not closed is. -/
theorem preview_beyond_settings :
    ((readSchema bare).tables.map (·.color) = [none] ∧
      (preview bare (setOnly "color".toList)).toOption.map
        (fun s => (readSchema s).tables.map (·.color)) = some [some "5".toList]) ∧
    (preview bare (setOnly "X".toList)).toOption.map
        (fun s => (readSchema s).tables.map (·.settings)) = some [[("x".toList, "5".toList)]] ∧
    (preview bare (setOnly "a:b".toList)).toOption.map
        (fun s => (readSchema s).tables.map (·.settings)) = some [[("a".toList, "b: 5".toList)]] ∧
    ((readSchema unclosed).tables.map (·.name) = ["t".toList] ∧
      (preview unclosed (setOnly "k".toList)).toOption.map
        (fun s => (readSchema s).tables.map (·.name)) = some ["a".toList]) := by
  decide +kernel

end

/-! ## Comments -/

/-- The characters of a comment. -/
def Segment.comment? : Segment → Option Text
  | .doc s | .comment s => some s
  | .char _ | .literal _ => none

/-- The comments of a text in order, doc comments among them. -/
def comments (s : Text) : List Text := (segments s).filterMap Segment.comment?

/-- No comment goes over a boundary. -/
theorem Joint.comments_append {s t : Text} (h : Joint s t) :
    comments (s ++ t) = comments s ++ comments t := by
  rw [comments, h, List.filterMap_append]
  rfl

/-- A settled text holds no comment. -/
theorem Settled.comments_eq {s : Text} (h : Settled s) : comments s = [] := by
  refine List.filterMap_eq_nil_iff.2 fun segment hsegment => ?_
  have hsettled := h segment hsegment
  cases segment with
  | char _ => rfl
  | literal _ => rfl
  | doc _ => cases hsettled
  | comment _ => cases hsettled

/-- A character that starts nothing longer is no comment. -/
theorem comments_cons {c : Char} (hquote : isQuoteChar c = false) (hslash : c ≠ '/') (s : Text) :
    comments (c :: s) = comments s := by
  have hlead : Segment.Leads (.char c) s := .char hquote fun h => absurd h hslash
  have hsegments : segments (c :: s) = .char c :: segments s := segments_append hlead
  rw [comments, hsegments]
  rfl

/-- A well-formed list holds no comment. -/
theorem comments_bracketed {content : Option Text} (h : ∀ K ∈ content, IsList K) (behind : Text) :
    comments (bracketed content ++ behind) = comments behind := by
  cases content with
  | none => rfl
  | some K =>
    have hK := (h K rfl).settled
    have htext : bracketed (some K) ++ behind = '[' :: (K ++ ']' :: behind) := by
      simp [bracketed]
    have hjoint : Joint K (']' :: behind) := hK.joint (calm_closeBracket behind)
    rw [htext, comments_cons (by decide) (by decide), hjoint.comments_append, hK.comments_eq,
      List.nil_append, comments_cons (by decide) (by decide)]

/-- Spaces hold no comment. -/
theorem comments_spaces (n : Nat) (s : Text) :
    comments (List.replicate n ' ' ++ s) = comments s := by
  induction n with
  | zero => rfl
  | succ n ih =>
    rw [List.replicate_succ, List.cons_append, comments_cons (by decide) (by decide), ih]

/-- **The comments of a text** stand before and behind the place of a list. -/
theorem ListPlace.Valid.comments_text {p : ListPlace} (h : p.Valid) :
    comments p.text = comments p.ahead ++ comments p.behind := by
  rw [ListPlace.text, h.boundary.comments_append, comments_bracketed h.isList, comments_spaces]

/-! ## Changes of a table or a note -/

variable {text text' : Text} {change : Change} {b : Block}

/-- What is written into a list leaves the comments alone. -/
theorem ListEdit.comments_eq {p : ListPlace} {K : Text} (h : ListEdit text text' b p K) :
    comments text' = comments text := by
  rw [← h.behind, ← h.before, h.edited.comments_text, h.valid.comments_text]
  rfl

/-- **A change of a table or a note keeps the comments**, when the list of its block can be
rewritten in place. -/
theorem comments_preview (hkind : change.kind ≠ .project) (hvalues : PlainEntries change.texts)
    (hb : target? text change = some b) (he : Editable text b)
    (hpreview : preview text change = .ok text') : comments text' = comments text := by
  obtain ⟨hmem, hkeyword, hbrace⟩ := keyword_of_target? hb
  have hne : b.keyword ≠ [] := hkeyword ▸ change.kind.lower_name_ne_nil
  obtain ⟨front, back, hblocks⟩ := List.append_of_mem hmem
  obtain ⟨p, after, -, -, happly, hedit, -⟩ := exists_listEdit hblocks hbrace hne he hvalues
  obtain ⟨splice, hplan, htext⟩ := preview_eq_ok_iff.1 hpreview
  obtain ⟨-, c, hc, rfl⟩ := (plan_eq_ok_iff hkind).1 hplan
  obtain rfl : c = b := Option.some.inj (hc.symm.trans hb)
  rw [← htext, happly]
  exact hedit.comments_eq

/-- Whether there is a preview can be computed. -/
theorem Except.exists_of_isOk {ε α : Type} {r : Except ε α} (h : r.isOk = true) :
    ∃ a, r = .ok a := by
  cases r with
  | error e => cases h
  | ok a => exact ⟨a, rfl⟩

/-- A table with comments before it and behind its list. -/
def marked : Text := "// first\nTable t [x: 1] /* second */ \x7b\x7d /// third".toList

/-- The comments of a table are kept when it is moved. -/
theorem comments_preview_marked :
    comments marked = ["// first".toList, "/* second */".toList, "/// third".toList] ∧
      (preview marked shove).toOption.map comments = some (comments marked) := by
  have hkind : shove.kind ≠ .project := by decide
  obtain ⟨text', htext⟩ := Except.exists_of_isOk
    (show (preview marked shove).isOk = true by decide +kernel)
  obtain ⟨b, hb, he⟩ := exists_editable
    (show (target? marked shove).any (fun b => decide (Editable marked b)) = true by decide +kernel)
  have hcomments := comments_preview hkind isNumeric_shove.plainEntries hb he htext
  exact ⟨by decide +kernel, htext ▸ congrArg some hcomments⟩

/-- A table with a comment in its list. -/
def margin : Text := "Table t [x: 1 // left edge\n] {}".toList

/-- A comment in a list goes with the value before it. -/
theorem comments_lost :
    comments margin = ["// left edge".toList] ∧
      (preview margin (setOnly "x".toList)).toOption.map comments = some [] := by
  decide +kernel

/-- **A change that is made twice** plans nothing more the second time, when the list of its block
can be rewritten in place. -/
theorem preview_preview (hkind : change.kind ≠ .project) (hvalues : PlainEntries change.texts)
    (hb : target? text change = some b) (he : Editable text b)
    (hpreview : preview text change = .ok text') :
    preview text' change = .ok text' ∧
      ∃ splice, plan text' change = .ok splice ∧ splice.isEmpty = true := by
  obtain ⟨splice, hplan, rfl⟩ := preview_eq_ok_iff.1 hpreview
  obtain ⟨-, -, -, -, -, splice', -, -, -, -, -, -, hplan', hempty⟩ :=
    exists_edited hkind hplan hvalues hb he
  exact ⟨preview_eq_ok_iff.2 ⟨splice', hplan', (isEmpty_iff_of_plan hplan').1 hempty⟩,
    splice', hplan', hempty⟩

/-- A table that has been moved stays where it is. -/
theorem preview_preview_shove :
    ∃ text', preview plot shove = .ok text' ∧ preview text' shove = .ok text' := by
  have hkind : shove.kind ≠ .project := by decide
  obtain ⟨b, hb, he⟩ := exists_editable
    (show (target? plot shove).any (fun b => decide (Editable plot b)) = true by decide +kernel)
  obtain ⟨text', hpreview⟩ := Except.exists_of_isOk
    (show (preview plot shove).isOk = true by decide +kernel)
  exact ⟨text', hpreview, (preview_preview hkind isNumeric_shove.plainEntries hb he hpreview).1⟩

/-- A table with a stray word in its header. -/
def straying : Text := "Table t foo {}".toList

/-- Behind a stray token a list is not found again, and another one is written. -/
theorem preview_grows :
    (preview straying (setOnly "x".toList)).toOption = some "Table t foo [x: 5] {}".toList ∧
      (preview "Table t foo [x: 5] {}".toList (setOnly "x".toList)).toOption
        = some "Table t foo [x: 5] [x: 5] {}".toList := by
  decide +kernel

end SchemaDiagram
