import SchemaDiagram.Proofs.Committing
import SchemaDiagram.Proofs.SchemaEdit

/-! # Changes of different blocks commute

A change of a table or a note puts another list at the place of its block. The outlines of the
blocks before it stay as they were, and those behind it move by as much as the text became longer.
So a change of another block finds the same block and writes the same characters, before the first
change or after it.

* **`Rewritable text b values`** — the list of the block is well formed as it is, and as it is
  written.
* **`ListMove`** — what an edit does to the text and to the outlines of its blocks;
  `exists_listMove` says that every edit of a rewritable list does so.
* **`preview_comm`** — two changes of different blocks may be made in either order. -/

namespace SchemaDiagram

/-- **The list of the block is well formed as it is, if there is one, and as the values are written
into it**: there, no line end is followed by the start of a block. -/
structure Rewritable (text : Text) (b : Block) (values : OrderedMap Text) : Prop where
  /-- A list is well formed. -/
  list : ∀ span ∈ b.settingsSpan, IsList (span.slice text)
  /-- So is the list that is written. -/
  written : IsList (rewriteSettings (b.settingsText text) values)
  /-- No block starts in it. -/
  quiet : isQuiet (tokenize (rewriteSettings (b.settingsText text) values)) = true

/-! ## The outlines after an edit -/

/-- What an outline is found by. -/
def Outline.key (o : Outline) : Text × Option Text × Bool := (o.keyword, o.name, o.openBrace.isSome)

/-- A block is found by what its outline is found by. -/
theorem Block.key_outline (b : Block) : b.outline.key = b.key := rfl

/-- A block keeps its key wherever it is moved. -/
@[simp] theorem Outline.key_shift (n : Nat) (o : Outline) : (o.shift n).key = o.key := by
  simp [Outline.key, Outline.shift]

/-- Blocks with the same outlines are found by the same. -/
theorem keys_of_outlines {bs bs' : List Block} (h : bs'.map Block.outline = bs.map Block.outline) :
    bs.map Block.key = bs'.map Block.key := by
  have hkeys := congrArg (List.map Outline.key) h
  rw [List.map_map, List.map_map] at hkeys
  exact hkeys.symm

/-- So are blocks with the same outlines at different places. -/
theorem keys_of_shifted {bs bs' : List Block} {os : List Outline} {n m : Nat}
    (h : bs.map Block.outline = os.map (Outline.shift n))
    (h' : bs'.map Block.outline = os.map (Outline.shift m)) :
      bs.map Block.key = bs'.map Block.key := by
  have hkey : ∀ {cs : List Block} {k : Nat}, cs.map Block.outline = os.map (Outline.shift k) →
      cs.map Block.key = os.map Outline.key := fun {cs k} hcs => by
    have hkeys := congrArg (List.map Outline.key) hcs
    rw [List.map_map, List.map_map] at hkeys
    exact hkeys.trans (List.map_congr_left fun o _ => o.key_shift k)
  exact (hkey h).trans (hkey h').symm

/-- **An edit of the list of a block, as the outlines show it.** The text up to the end of the list
becomes another one. The outlines before the block stay as they were, and those behind it move. -/
structure ListMove (text : Text) (values : OrderedMap Text) (front : List Block) (b : Block)
    (back : List Block) (lead lead' behind : Text) : Prop where
  /-- The text up to the end of the list, and the text behind it. -/
  text_eq : text = lead ++ behind
  /-- The edit puts another text in place of the former, whatever stands behind it. -/
  writes : ∀ behind, (b.outline.splice (lead ++ behind) values).apply (lead ++ behind)
    = lead' ++ behind
  /-- The blocks after the edit. -/
  blocks : ∃ (front' : List Block) (b' : Block) (back' : List Block) (later : List Outline),
    (parseBlocks (clean (lead' ++ behind))).blocks = front' ++ b' :: back' ∧
      front'.map Block.outline = front.map Block.outline ∧ b'.key = b.key ∧
      back.map Block.outline = later.map (Outline.shift lead.length) ∧
      back'.map Block.outline = later.map (Outline.shift lead'.length)

variable {text : Text} {values : OrderedMap Text} {front back : List Block} {b : Block}

/-- **Every edit of a rewritable list** puts another list at its place. -/
theorem exists_listMove (hblocks : (parseBlocks (clean text)).blocks = front ++ b :: back)
    (hbrace : b.openBrace.isSome = true) (hkeyword : b.keyword ≠ [])
      (hr : Rewritable text b values) :
    ∃ lead lead' behind, ListMove text values front b back lead lead' behind := by
  obtain ⟨w, items, hvalid, htokens, rfl, rfl, rfl, -, hswap⟩ :=
    exists_items hblocks hbrace hkeyword
  obtain ⟨p, hp, rfl, rfl, hspan⟩ := exists_fit hvalid htokens hr.list
  obtain ⟨ahead, old, new, pad, hlead, hlead', hsplice, -⟩ :=
    exists_splice_lead hp hspan (clean p.text) values
  have hwritten := hr.written
  have hquiet := hr.quiet
  rw [p.settingsText_eq hspan] at hwritten hquiet
  generalize rewriteSettings (p.content.getD []) values = K at *
  have hK := hp.relist hwritten hquiet
  refine ⟨p.lead, (p.relist K).lead, p.behind, ⟨p.text_eq, fun behind => ?_,
    blocksOf (clean (p.relist K).text) items, (p.relist K).site.block (clean (p.relist K).text),
    (contentsFrom (clean (p.relist K).text) true [] (p.relist K).site.after).children,
    (contentsFrom [] true [] p.after).children.map Block.outline, ?_, ?_, ?_, ?_, ?_⟩⟩
  · have htext : p.lead ++ behind = ahead ++ (old ++ (pad ++ behind)) := by
      rw [hlead]
      simp
    rw [hsplice, Splice.apply_replacing htext, hlead']
    simp
  -- With another list in place of the old one, the same steps find the same items before the block.
  · have hchildren := hswap (clean (p.relist K).text) (p.relist K).site.own (hp.stands hK)
    have htokens' : tokenize (clean (p.relist K).text) = p.before ++ (p.relist K).site.own :=
      hK.tokens
    have hdoc : p.site.doc = (p.relist K).site.doc := rfl
    have hbefore : p.site.before = p.before := rfl
    rw [hbefore, hdoc, hK.site.children, ← htokens'] at hchildren
    have htext : (p.relist K).text = (p.relist K).lead ++ p.behind := (p.relist K).text_eq
    rw [← htext]
    exact hchildren
  · rw [outlines_blocksOf, outlines_blocksOf]
  · have hends : EndsName [] := fun t ht => nomatch ht
    have hname := (hK.label [] hends).symm.trans (hp.label [] hends)
    exact congrArg (fun name => ((p.site.block (clean p.text)).keyword, name, true)) hname
  · exact outlines_move _ _ (clean p.text) [] [] p.after
  · exact outlines_move _ _ (clean (p.relist K).text) [] [] p.after

namespace ListMove

variable {lead lead' behind : Text} {X Y Z : List Block} {c : Block}

/-- **A block behind the list** is found at the same outline, further on by what the text became
longer. -/
theorem exists_behind (h : ListMove text values front b (Y ++ c :: Z) lead lead' behind) :
    ∃ (o : Outline) (front' : List Block) (c' : Block) (back' : List Block),
      (parseBlocks (clean (lead' ++ behind))).blocks = front' ++ c' :: back' ∧
      c.outline = o.shift lead.length ∧ c'.outline = o.shift lead'.length ∧
      (front ++ b :: Y).map Block.key = front'.map Block.key ∧
      Z.map Block.key = back'.map Block.key := by
  obtain ⟨front', b', back', later, hblocks, hfront, hb, hlater, hback⟩ := h.blocks
  -- The outlines behind the list fall apart at that of the block, before the edit and after it.
  rw [List.map_append, List.map_cons] at hlater
  obtain ⟨Yo, rest, rfl, hYo, hrest⟩ := List.map_eq_append_iff.1 hlater.symm
  obtain ⟨o, Zo, rfl, ho, hZo⟩ := List.map_eq_cons_iff.1 hrest
  rw [List.map_append, List.map_cons] at hback
  obtain ⟨Y', rest', rfl, hY', hrest'⟩ := List.map_eq_append_iff.1 hback
  obtain ⟨c', Z', rfl, hc', hZ'⟩ := List.map_eq_cons_iff.1 hrest'
  refine ⟨o, front' ++ b' :: Y', c', Z', by rw [hblocks]; simp, ho.symm, hc', ?_,
    keys_of_shifted hZo.symm hZ'⟩
  rw [List.map_append, List.map_cons, List.map_append, List.map_cons, keys_of_outlines hfront, hb,
    keys_of_shifted hYo.symm hY']

/-- **A block before the list** is found at the outline that it had. -/
theorem exists_before (h : ListMove text values (X ++ c :: Y) b back lead lead' behind) :
    ∃ front' c' back', (parseBlocks (clean (lead' ++ behind))).blocks = front' ++ c' :: back' ∧
      c'.outline = c.outline ∧ X.map Block.key = front'.map Block.key ∧
      (Y ++ b :: back).map Block.key = back'.map Block.key := by
  obtain ⟨front', b', back', later, hblocks, hfront, hb, hlater, hback⟩ := h.blocks
  rw [List.map_append, List.map_cons] at hfront
  obtain ⟨X', rest, rfl, hX', hrest⟩ := List.map_eq_append_iff.1 hfront
  obtain ⟨c', Y', rfl, hc', hY'⟩ := List.map_eq_cons_iff.1 hrest
  refine ⟨X', c', Y' ++ b' :: back', by rw [hblocks]; simp, hc', keys_of_outlines hX', ?_⟩
  rw [List.map_append, List.map_cons, List.map_append, List.map_cons, keys_of_outlines hY', hb,
    keys_of_shifted hlater hback]

end ListMove

/-! ## Two changes -/

/-- **A change writes something into the settings of a block**, and the list stays well formed. -/
structure Change.WritesTo (change : Change) (text : Text) (b : Block) : Prop where
  /-- It is a change of a table or a note. -/
  kind : change.kind ≠ .project
  /-- It writes something, all of which has a written form. -/
  writable : change.IsWritable
  /-- It is made to the block. -/
  target : target? text change = some b
  /-- The list of the block is well formed before and afterwards. -/
  rewritable : Rewritable text b change.texts

/-- **Numbers under plain keys** keep a well-formed list well formed. -/
theorem Change.IsNumeric.writesTo {change : Change} (h : change.IsNumeric)
    (hkind : change.kind ≠ .project)
    (hb : target? text change = some b)
      (hlist : ∀ span ∈ b.settingsSpan, IsList (span.slice text)) :
    change.WritesTo text b := by
  obtain ⟨front, back, ht⟩ := exists_isTarget hb
  have hspec := rewriteSettings_spec h.plainEntries (isList_settingsText hlist)
  exact ⟨hkind, h.writable, hb, hlist, hspec.isList, hspec.quiet (ht.isQuiet_settingsText hlist)⟩

/-- **Two changes may be made in either order**: both orders succeed, and the text is the same. -/
def CommuteOn (text : Text) (c₁ c₂ : Change) : Prop :=
  ∃ text₁ text₂ text', preview text c₁ = .ok text₁ ∧ preview text₁ c₂ = .ok text' ∧
    preview text c₂ = .ok text₂ ∧ preview text₂ c₁ = .ok text'

variable {c₁ c₂ : Change} {b₁ b₂ : Block}

/-- It does not matter which one of two changes is named first. -/
theorem CommuteOn.symm (h : CommuteOn text c₁ c₂) : CommuteOn text c₂ c₁ := by
  obtain ⟨text₁, text₂, text', h₁, h₁₂, h₂, h₂₁⟩ := h
  exact ⟨text₂, text₁, text', h₂, h₂₁, h₁, h₁₂⟩

/-- What a change of a table or a note makes of a text. -/
theorem preview_of_target {change : Change} (hkind : change.kind ≠ .project)
    (hwritable : change.IsWritable) (hb : target? text change = some b) :
    preview text change = .ok ((b.outline.splice text change.texts).apply text) := by
  obtain ⟨hlies, hbrace⟩ := lies_of_target? hb
  refine preview_eq_ok_iff.2 ⟨_, (plan_eq_ok_iff hkind).2 ⟨hwritable, b, hb, rfl⟩, ?_⟩
  rw [(hlies.settingsSplice hbrace _).apply_minimized, settingsSplice_eq_splice hbrace]

/-- **Two changes of different blocks** may be made in either order, where the first block stands
before the second one. -/
theorem commute_of_before {X Y Z : List Block} (h₁ : c₁.WritesTo text b₁) (h₂ : c₂.WritesTo text b₂)
    (ht₁ : IsTarget text c₁ X b₁ (Y ++ b₂ :: Z)) (ht₂ : IsTarget text c₂ (X ++ b₁ :: Y) b₂ Z) :
    CommuteOn text c₁ c₂ := by
  obtain ⟨lead₁, lead₁', behind₁, hm₁⟩ :=
    exists_listMove ht₁.blocks ht₁.braced ht₁.keyword h₁.rewritable
  obtain ⟨lead₂, lead₂', behind₂, hm₂⟩ :=
    exists_listMove ht₂.blocks ht₂.braced ht₂.keyword h₂.rewritable
  -- The second block stands behind the first list, and the first block before the second list.
  obtain ⟨o, X₁, d, Z₁, hblocks₁, ho, hd, hkeysX, hkeysZ⟩ := hm₁.exists_behind
  obtain ⟨X₂, f, Y₂, hblocks₂, hf, hkeysX₂, hkeysY⟩ := hm₂.exists_before
  have hsame : b₂.key = d.key := by
    rw [← Block.key_outline, ← Block.key_outline, hd, ho, Outline.key_shift, Outline.key_shift]
  have hd₂ : target? (lead₁' ++ behind₁) c₂ = some d :=
    ht₂.again _ _ _ _ hblocks₁ hkeysX hsame hkeysZ
  have hf₁ : target? (lead₂' ++ behind₂) c₁ = some f :=
    ht₁.again _ _ _ _ hblocks₂ hkeysX₂ (congrArg Outline.key hf).symm hkeysY
  have hbrace : o.openBrace.isSome = true := by
    have hsome : b₂.outline.openBrace.isSome = true := ht₂.braced
    rw [ho] at hsome
    simpa [Outline.shift] using hsome
  -- The second change leaves the first list alone, so the text behind it is the same in both
  -- orders.
  have hmid : lead₂' ++ behind₂ = lead₁ ++ (o.splice behind₁ c₂.texts).apply behind₁ := by
    rw [← hm₂.writes, ← hm₂.text_eq, hm₁.text_eq, ho, Outline.apply_splice_shift hbrace]
  refine ⟨lead₁' ++ behind₁, lead₂' ++ behind₂, lead₁' ++ (o.splice behind₁ c₂.texts).apply behind₁,
    ?_, ?_, ?_, ?_⟩
  · rw [preview_of_target h₁.kind h₁.writable h₁.target, hm₁.text_eq, hm₁.writes]
  · rw [preview_of_target h₂.kind h₂.writable hd₂, hd, Outline.apply_splice_shift hbrace]
  · rw [preview_of_target h₂.kind h₂.writable h₂.target, hm₂.text_eq, hm₂.writes]
  · rw [preview_of_target h₁.kind h₁.writable hf₁, hf, hmid, hm₁.writes]

/-- **Changes of different blocks commute**: each of two changes of tables or notes may be made
first, when they are made to different blocks whose lists are well formed and stay so. Both succeed
in either order, and the text is the same afterwards. -/
theorem preview_comm (h₁ : c₁.WritesTo text b₁) (h₂ : c₂.WritesTo text b₂) (hne : b₁ ≠ b₂) :
    CommuteOn text c₁ c₂ := by
  obtain ⟨front₁, back₁, ht₁⟩ := exists_isTarget h₁.target
  obtain ⟨front₂, back₂, ht₂⟩ := exists_isTarget h₂.target
  -- The two blocks stand one before the other, and which one comes first does not matter.
  rcases List.append_eq_append_iff.1 (ht₁.blocks.symm.trans ht₂.blocks) with
    ⟨mid, hfront, hback⟩ | ⟨mid, hfront, hback⟩
  · cases mid with
    -- They would be the same block.
    | nil => exact absurd (List.cons.inj hback).1 hne
    | cons c mid =>
      obtain ⟨rfl, rfl⟩ := List.cons.inj hback
      subst hfront
      exact commute_of_before h₁ h₂ ht₁ ht₂
  · cases mid with
    | nil => exact absurd (List.cons.inj hback).1.symm hne
    | cons c mid =>
      obtain ⟨rfl, rfl⟩ := List.cons.inj hback
      subst hfront
      exact (commute_of_before h₂ h₁ ht₂ ht₁).symm

/-- A table with a stray token in its header, and a note with a list. -/
def desk : Text := "Table t foo {}\nNote n [x: 1] {}".toList

/-- The note gets another place. -/
def pin : Change := .moveNote "n".toList (.int 3) (.int 4) (.int 90) (.int 60)

/-- It writes numbers. -/
theorem isNumeric_pin : pin.IsNumeric :=
  .of_place ⟨rfl, by simp [pin, Change.moveNote, Scalar.hasWrittenForm_int]⟩ (by decide) (by decide)

/-- Whether the list of the block of a change is well formed can be computed. -/
theorem exists_isList {change : Change} (h : (target? text change).any (fun b =>
      decide (∀ span ∈ b.settingsSpan, IsList (span.slice text))) = true) :
    ∃ b, target? text change = some b ∧ ∀ span ∈ b.settingsSpan, IsList (span.slice text) := by
  obtain ⟨b, hb, hlist⟩ := (Option.any_eq_true _ _).1 h
  exact ⟨b, hb, of_decide_eq_true hlist⟩

/-- The table and the note on the desk may be moved in either order. -/
theorem preview_comm_desk : ∃ b₁ b₂, shove.WritesTo desk b₁ ∧ pin.WritesTo desk b₂ ∧ b₁ ≠ b₂ ∧
    CommuteOn desk shove pin := by
  -- The tests are run in the kernel, and the blocks are taken from them.
  obtain ⟨b₁, hb₁, hlist₁⟩ := exists_isList (show (target? desk shove).any (fun b =>
    decide (∀ span ∈ b.settingsSpan, IsList (span.slice desk))) = true by decide +kernel)
  obtain ⟨b₂, hb₂, hlist₂⟩ := exists_isList (show (target? desk pin).any (fun b =>
    decide (∀ span ∈ b.settingsSpan, IsList (span.slice desk))) = true by decide +kernel)
  have h₁ := isNumeric_shove.writesTo (by decide) hb₁ hlist₁
  have h₂ := isNumeric_pin.writesTo (by decide) hb₂ hlist₂
  have hne : b₁ ≠ b₂ := by
    rintro rfl
    have htable := (keyword_of_target? hb₁).2.1
    rw [(keyword_of_target? hb₂).2.1] at htable
    exact absurd htable (by decide)
  exact ⟨b₁, b₂, h₁, h₂, hne, preview_comm h₁ h₂ hne⟩

/-- A table with braces in its list, behind another one and inside a block that is not closed. -/
def overhang : Text := "Table a \x7b\nTable u \x7b\x7d\nTable t [k: \x7ba, b\x7d] \x7b\x7d".toList

/-- Two tables on one line. -/
def pair : Text := "Table t \x7b\x7d Table u \x7b\x7d".toList

/-- The other table gets one setting. -/
def setOther : Change := ⟨.table, some "u".toList, [("k".toList, .int 5)]⟩

/-- The text after two changes, if both succeed. -/
def afterBoth? (text : Text) (c₁ c₂ : Change) : Option Text :=
  (preview text c₁).toOption.bind fun s => (preview s c₂).toOption

/-- **Changes of different blocks do not commute** where a value with braces in it is replaced up to
its comma, so that a block that was not closed is and takes the other one in; where a key holds a
quote, so that the other block is in a literal; and where a change has nothing to write, or a number
too long to be written. -/
theorem exists_not_commute :
    ((target? overhang (setOnly "k".toList)).map (·.settingsText overhang)
      = some "k: \x7ba, b\x7d".toList ∧
      (target? overhang setOther).map (·.settingsSpan) = some none ∧
      afterBoth? overhang (setOnly "k".toList) setOther = none ∧
      (afterBoth? overhang setOther (setOnly "k".toList)).isSome = true) ∧
    ((target? pair (setOnly "it's".toList)).map (·.name) = some (some "t".toList) ∧
      (target? pair setOther).map (·.name) = some (some "u".toList) ∧
      afterBoth? pair (setOnly "it's".toList) setOther = none ∧
      (afterBoth? pair setOther (setOnly "it's".toList)).isSome = true) ∧
    afterBoth? pair ⟨.table, some "t".toList, []⟩ setOther = none ∧
    afterBoth? pair ⟨.table, some "t".toList, [("k".toList, .int (10 ^ 4300))]⟩ setOther
      = none := by
  decide +kernel

end SchemaDiagram
