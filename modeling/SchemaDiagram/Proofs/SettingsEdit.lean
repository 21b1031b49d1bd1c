import SchemaDiagram.Proofs.ListPlace
import SchemaDiagram.Proofs.Outline
import SchemaDiagram.Proofs.SpliceApply

/-! # Editing the settings of a block

An edit of a table or a note rewrites the settings list of one block, or puts a new list before its
brace. All blocks say the same afterwards but for that list, the block is found again, and the same
edit finds nothing more to write.

* **`Editable text b`** — the list of the block is well formed, or nothing but its name stands in
  its header.
* **`findTarget?_congr`** — the block that a name denotes is told by what the blocks say.
* **`settingsSplice_eq`** — the text after the edit is the text with another list.
* **`exists_listEdit`** — where the list of a block is edited, and what the other blocks say.
* **`exists_edited`** — what a change of a table or a note does. -/

namespace SchemaDiagram

/-! ## Finding a block -/

/-- What a block is found by: its keyword, its name and whether it has braces. -/
def Block.key (b : Block) : Text × Option Text × Bool := (b.keyword, b.name, b.openBrace.isSome)

/-- What a view is found by. -/
def BlockView.key (v : BlockView) : Text × Option Text × Bool := (v.keyword, v.name, v.braced)

/-- The key of a block is that of its view. -/
theorem BlockView.key_view (text : Text) (b : Block) : (b.view text).key = b.key := by
  rw [Block.view]
  rfl

/-- Blocks that say the same are found by the same. -/
theorem keys_of_views {text text' : Text} {bs bs' : List Block}
    (h : bs'.map (Block.view text') = bs.map (Block.view text)) :
    bs.map Block.key = bs'.map Block.key := by
  have hkeys : ∀ (t : Text) (l : List Block), l.map Block.key
      = (l.map (Block.view t)).map BlockView.key := by
    intro t l
    rw [List.map_map]
    exact List.map_congr_left fun b _ => (BlockView.key_view t b).symm
  rw [hkeys text, hkeys text', h]

/-- Whether a block of this key has the given keyword and name. -/
def isNamed (keyword name : Text) (key : Text × Option Text × Bool) : Bool :=
  key.1 = keyword.lower && key.2.1.map normalizeName = some (normalizeName name)

namespace BlockTree

/-- The blocks of a name are told by their keys. -/
theorem find_eq (tree : BlockTree) (keyword name : Text) :
    tree.find keyword name = tree.blocks.filter fun b => isNamed keyword name b.key := by
  rw [find, withKeyword, List.filter_filter]
  refine List.filter_congr fun b _ => ?_
  rw [Bool.and_comm]
  rfl

/-- Whether there are blocks of a name is told by their keys. -/
theorem isEmpty_find {tree tree' : BlockTree}
    (h : tree.blocks.map Block.key = tree'.blocks.map Block.key) (keyword name : Text) :
    (tree.find keyword name).isEmpty = (tree'.find keyword name).isEmpty := by
  have hkeys : ∀ t : BlockTree, (t.find keyword name).isEmpty
      = ((t.blocks.map Block.key).filter (isNamed keyword name)).isEmpty := by
    intro t
    rw [find_eq, List.filter_map, List.isEmpty_map]
    rfl
  rw [hkeys, hkeys, h]

/-- The first block of a name with braces. -/
theorem find?_find (tree : BlockTree) (keyword name : Text) :
    (tree.find keyword name).find? (·.openBrace.isSome)
      = tree.blocks.find? fun b => isNamed keyword name b.key && b.key.2.2 := by
  rw [find_eq, List.find?_filter]
  congr 1
  funext b
  rw [Bool.decide_and, Bool.decide_eq_true, Bool.decide_eq_true]
  rfl

end BlockTree

/-- **The block that a name denotes** is the first one whose key is right; which keys are right is
told by the keys of the blocks. -/
theorem findTarget?_congr (tree : BlockTree) (keyword name : Text) :
    ∃ right : Text × Option Text × Bool → Bool,
      (∀ key, right key = true → key.1 = keyword.lower ∧ key.2.2 = true) ∧
      ∀ tree' : BlockTree, tree.blocks.map Block.key = tree'.blocks.map Block.key →
        findTarget? tree' keyword name = tree'.blocks.find? fun b => right b.key := by
  -- The key of a named block has the keyword, and it has a brace.
  have hname : ∀ n key, (isNamed keyword n key && key.2.2) = true →
      key.1 = keyword.lower ∧ key.2.2 = true := by
    intro n key hkey
    simp only [isNamed, Bool.and_eq_true, decide_eq_true_eq] at hkey
    exact ⟨hkey.1.1, hkey.2⟩
  -- The name is found as it is, or no other one is tried.
  by_cases hc : (!(tree.find keyword name).isEmpty || keyword != "table".toList) = true
  · refine ⟨_, hname name, fun tree' h => ?_⟩
    rw [findTarget?, ← BlockTree.isEmpty_find h, if_pos hc, BlockTree.find?_find]
  · cases hshort : Text.dropHead? "public." name.trim with
    -- The schema in front of the name is left out.
    | some short =>
      refine ⟨_, hname short, fun tree' h => ?_⟩
      rw [findTarget?, ← BlockTree.isEmpty_find h, if_neg hc, hshort, BlockTree.find?_find]
    | none =>
      -- With a schema of another name the block is not found.
      by_cases hdot : name.trim.contains '.' = true
      · refine ⟨fun _ => false, by simp, fun tree' h => ?_⟩
        rw [findTarget?, ← BlockTree.isEmpty_find h, if_neg hc, hshort]
        dsimp only
        rw [if_pos hdot]
        exact (List.find?_eq_none.2 (by simp)).symm
      · -- A name without a schema is tried with the default one.
        refine ⟨_, hname ("public.".toList ++ name.trim), fun tree' h => ?_⟩
        rw [findTarget?, ← BlockTree.isEmpty_find h, if_neg hc, hshort]
        dsimp only
        rw [if_neg hdot, BlockTree.find?_find]

/-! ## The text after an edit -/

/-- **The list of the block can be rewritten in place**: it is well formed, or there is none and
nothing but a name and an alias stands in the header. -/
structure Editable (text : Text) (b : Block) : Prop where
  /-- A list is well formed. -/
  list : ∀ span ∈ b.settingsSpan, IsList (span.slice text)
  /-- Without a list there are no stray tokens. -/
  stray : b.settingsSpan = none → b.strayTokens (clean text) = []

/-- Settings are written into an empty list one behind the other. -/
theorem rewriteSettings_nil (values : OrderedMap Text) :
    rewriteSettings [] values = Text.join ", " (values.map fun e => settingText e.1 e.2) := by
  have hitems : splitSettings [] 0 = [] := rfl
  have hkept : Text.trimRight [] = [] := rfl
  have hall : values.filter (fun entry => !([] : List Text).contains entry.1) = values :=
    List.filter_eq_self.2 fun _ _ => rfl
  rw [rewriteSettings, hitems, hkept]
  simp only [List.filterMap_nil, List.map_nil, List.nil_append]
  rw [hall]
  cases values with
  | nil => rfl
  | cons e es => simp [weave]

variable {p : ListPlace}

/-- Without a list the brace stands at the place. -/
theorem ListPlace.Fits.openBrace (h : p.Fits) (hnone : p.content = none) (source : Text) :
    (p.site.block source).openBrace = some p.ahead.length := by
  obtain ⟨hrest, hpad, hhead⟩ := h.bare hnone
  obtain ⟨B, hB⟩ := List.head?_eq_some_iff.1 hhead
  have hpiece : Piece (some .openBrace) ['\x7b'] B :=
    Piece.of_char (c := '\x7b') (by decide) (by decide) (by decide) (by decide) B
  have htokens := h.behind
  rw [ListPlace.tail, hrest, hB, ← List.singleton_append, hpiece.tokensFrom_append,
    hpiece.tokensFrom_eq] at htokens
  -- The brace is the first of the tokens from there on.
  have hstart : p.brace.span.start = 0 := by
    rw [← (List.cons.inj htokens).1]
    rfl
  change some (p.shift p.brace).span.start = _
  rw [ListPlace.shift, Token.move_start, hstart, ListPlace.lead, hnone, hpad]
  simp [bracketed]

/-- What lies between the brackets of a list is found by its span. -/
theorem ListPlace.slice_lead {K : Text} (hcontent : p.content = some K) (behind : Text) :
    (Span.behind (p.ahead.length + 1) K).slice (p.lead ++ behind) = K := by
  have htext : p.lead ++ behind
      = (p.ahead ++ ['[']) ++ (K ++ (']' :: (List.replicate p.pad ' ' ++ behind))) := by
    rw [ListPlace.lead, hcontent]
    simp [bracketed]
  exact slice_behind htext (by simp)

/-- **Writing into a block** puts another list at its place, whatever stands behind it. -/
theorem exists_splice_lead (h : p.Fits)
    (hspan : (Header.ofTokens p.site.header).settingsSpan = bracketedSpan p.ahead.length p.content)
    (source : Text) (values : OrderedMap Text) :
    ∃ ahead old new pad, p.lead = ahead ++ (old ++ pad) ∧
      (p.relist (rewriteSettings (p.content.getD []) values)).lead = ahead ++ (new ++ pad) ∧
      (∀ behind, (p.site.block source).outline.splice (p.lead ++ behind) values
        = .replacing ahead old new) ∧
      (p.content = some (rewriteSettings (p.content.getD []) values) → old = new) := by
  have hlist : (p.site.block source).outline.settingsSpan
      = bracketedSpan p.ahead.length p.content := hspan
  -- There is a list, and its content is exchanged between the brackets.
  cases hcontent : p.content with
  | some K =>
    rw [hcontent] at hlist
    have hlead : ∀ K' : Text, p.ahead ++ bracketed (some K') ++ List.replicate p.pad ' '
        = (p.ahead ++ ['[']) ++ (K' ++ (']' :: List.replicate p.pad ' ')) := by
      intro K'
      simp [bracketed]
    refine ⟨p.ahead ++ ['['], K, rewriteSettings K values, ']' :: List.replicate p.pad ' ', ?_, ?_,
      fun behind => ?_, fun hsame => Option.some.inj hsame⟩
    · rw [ListPlace.lead, hcontent, hlead]
    · rw [ListPlace.lead, ListPlace.relist, hcontent]
      exact hlead _
    · rw [Outline.splice, hlist]
      dsimp only [bracketedSpan, Option.map_some]
      rw [ListPlace.slice_lead hcontent]
      simp [Splice.replacing, Span.behind]
  -- There is none, and one is put ahead of the brace.
  | none =>
    rw [hcontent] at hlist
    have hbrace : (p.site.block source).outline.openBrace = some p.ahead.length :=
      h.openBrace hcontent source
    obtain ⟨-, hpad, -⟩ := h.bare hcontent
    refine ⟨p.ahead, [], concat ["[", rewriteSettings [] values, "] "], [], ?_, ?_,
      fun behind => ?_, fun hsome => absurd hsome (by simp)⟩
    · rw [ListPlace.lead, hcontent, hpad]
      simp [bracketed]
    · rw [ListPlace.lead, ListPlace.relist, hcontent]
      simp [bracketed, concat]
    · rw [Outline.splice, hlist, hbrace, rewriteSettings_nil]
      rfl

/-- The text is what stands up to the end of the list and what stands behind it. -/
theorem ListPlace.text_eq (p : ListPlace) : p.text = p.lead ++ p.behind := by
  simp [ListPlace.text, ListPlace.lead]

/-- **The splice of an edit** puts another list at the place of the block. -/
theorem settingsSplice_eq (h : p.Valid) (source : Text) (values : OrderedMap Text) :
    ∃ ahead old new behind, p.text = ahead ++ (old ++ behind) ∧
      (p.relist (rewriteSettings (p.content.getD []) values)).text = ahead ++ (new ++ behind) ∧
      settingsSplice p.text (p.site.block source) values = .replacing ahead old new ∧
      (p.content = some (rewriteSettings (p.content.getD []) values) → old = new) := by
  -- What stands behind the lead of the block is the same on both sides.
  obtain ⟨ahead, old, new, pad, hlead, hlead', hsplice, hsame⟩ :=
    exists_splice_lead h.toFits h.settingsSpan source values
  refine ⟨ahead, old, new, pad ++ p.behind, ?_, ?_, ?_, hsame⟩
  · rw [ListPlace.text_eq, hlead]
    simp
  · rw [ListPlace.text_eq, hlead']
    simp [ListPlace.relist]
  · rw [settingsSplice_eq_splice rfl, ListPlace.text_eq]
    exact hsplice p.behind

/-- The list that an edit rewrites. -/
theorem ListPlace.settingsText_eq
    (hspan : (Header.ofTokens p.site.header).settingsSpan = bracketedSpan p.ahead.length p.content)
    (source : Text) : (p.site.block source).settingsText p.text = p.content.getD [] := by
  have hlist : (p.site.block source).settingsSpan = bracketedSpan p.ahead.length p.content := hspan
  rw [Block.settingsText, hlist]
  cases hcontent : p.content with
  | none => rfl
  | some K =>
    rw [ListPlace.text_eq]
    exact ListPlace.slice_lead hcontent p.behind

/-- The list that an edit rewrites is quiet. -/
theorem ListPlace.Fits.isQuiet_content (h : p.Fits) :
    isQuiet (tokenize (p.content.getD [])) = true := by
  cases hcontent : p.content with
  | none =>
    rw [Option.getD_none, tokenize, tokensFrom_nil]
    rfl
  | some K => exact h.quiet K hcontent

/-! ## What an edit does -/

/-- Every kind of entity has a name. -/
theorem EntityKind.lower_name_ne_nil (kind : EntityKind) : Text.lower kind.name.toList ≠ [] := by
  cases kind <;> decide

/-- The block that a change of a table or a note is made to. -/
def target? (text : Text) (change : Change) : Option Block :=
  (change.identity.filter (! ·.isEmpty)).bind
    (findTarget? (parseBlocks (clean text)) change.kind.name)

/-- The texts that a change writes. -/
def Change.texts (change : Change) : OrderedMap Text :=
  OrderedMap.mapValues formatValue change.values

/-- A change that writes something, all of which has a written form. -/
def Change.IsWritable (change : Change) : Prop :=
  change.values.isEmpty = false ∧ change.values.any (! ·.2.hasWrittenForm) = false

variable {text : Text} {change : Change} {splice : Splice}

/-- **A change of a table or a note is planned** when it can be written and its block is found. -/
theorem plan_eq_ok_iff (hkind : change.kind ≠ .project) :
    plan text change = .ok splice ↔ change.IsWritable ∧
      ∃ b, target? text change = some b ∧
        splice = (settingsSplice text b change.texts).minimized text := by
  rw [plan, Change.IsWritable, target?]
  dsimp only
  by_cases hempty : change.values.isEmpty = true
  · simp [hempty]
  · by_cases hany : change.values.any (! ·.2.hasWrittenForm) = true
    · rw [if_neg hempty, if_pos hany, hany]
      simp
    · have hwritable : change.values.isEmpty = false ∧
          change.values.any (! ·.2.hasWrittenForm) = false :=
        ⟨by simpa using hempty, by simpa using hany⟩
      rw [if_neg hempty, if_neg hany, and_iff_right hwritable]
      split
      next hk => exact absurd hk hkind
      next =>
        -- The block is looked for by the name, if there is one.
        cases change.identity.filter (! ·.isEmpty) with
        | none => simp
        | some name =>
          rw [Option.bind_some]
          dsimp only
          cases findTarget? (parseBlocks (clean text)) change.kind.name name with
          | none => simp
          | some b => simp [Change.texts, eq_comm]

/-- **The block that a change is made to**, among the blocks of the text. -/
structure IsTarget (text : Text) (change : Change) (front : List Block) (b : Block)
    (back : List Block) : Prop where
  /-- The blocks before it and behind it. -/
  blocks : (parseBlocks (clean text)).blocks = front ++ b :: back
  /-- It has braces. -/
  braced : b.openBrace.isSome = true
  /-- It starts with a word. -/
  keyword : b.keyword ≠ []
  /-- In a text with the same keys in the same order the change is made to the block in its
  place. -/
  again : ∀ text' front' b' back', (parseBlocks (clean text')).blocks = front' ++ b' :: back' →
    front.map Block.key = front'.map Block.key → b.key = b'.key →
    back.map Block.key = back'.map Block.key → target? text' change = some b'

/-- The block that a change is for stands between those before and behind it. -/
theorem exists_isTarget {b : Block} (hb : target? text change = some b) :
    ∃ front back, IsTarget text change front b back := by
  obtain ⟨name, hname, htarget⟩ := Option.bind_eq_some_iff.1 hb
  obtain ⟨right, hright, hfind⟩ :=
    findTarget?_congr (parseBlocks (clean text)) change.kind.name.toList name
  rw [hfind _ rfl, List.find?_eq_some_iff_append] at htarget
  obtain ⟨hkey, front, back, hblocks, hfirst⟩ := htarget
  obtain ⟨hkeyword, hbrace⟩ := hright b.key hkey
  have hne : b.keyword ≠ [] := by
    have hname := change.kind.lower_name_ne_nil
    rwa [← hkeyword] at hname
  refine ⟨front, back,
    ⟨hblocks, hbrace, hne, fun text' front' b' back' hblocks' hfront hsame hback => ?_⟩⟩
  have hkeys : (parseBlocks (clean text)).blocks.map Block.key
      = (parseBlocks (clean text')).blocks.map Block.key := by
    rw [hblocks, hblocks', List.map_append, List.map_cons, List.map_append, List.map_cons, hfront,
      hsame, hback]
  -- In the other text the keys are the same, so the same block is the first with the right one.
  refine Option.bind_eq_some_iff.2 ⟨name, hname, ?_⟩
  rw [hfind _ hkeys, List.find?_eq_some_iff_append]
  refine ⟨by rwa [← hsame], front', back', hblocks', fun a ha => ?_⟩
  have hmem : a.key ∈ front.map Block.key := by
    rw [hfront]
    exact List.mem_map_of_mem ha
  obtain ⟨c, hc, heq⟩ := List.mem_map.1 hmem
  rw [← heq]
  exact hfirst c hc

/-- **A preview is the text after the planned splice.** -/
theorem preview_eq_ok_iff {text' : Text} :
    preview text change = .ok text' ↔
      ∃ splice, plan text change = .ok splice ∧ splice.apply text = text' := by
  rw [preview]
  cases plan text change with
  | error fault => simp [Except.map]
  | ok splice => simp [Except.map]

/-- The characters of a well-formed list, or of none, are a well-formed list. -/
theorem isList_settingsText {b : Block} (h : ∀ span ∈ b.settingsSpan, IsList (span.slice text)) :
    IsList (b.settingsText text) := by
  rw [Block.settingsText]
  cases hspan : b.settingsSpan with
  | none => exact IsPart.nil.isList
  | some span => exact h span hspan

/-- The characters of a list that can be rewritten are a well-formed list. -/
theorem Editable.isList {b : Block} (h : Editable text b) : IsList (b.settingsText text) :=
  isList_settingsText h.list

/-- A list that is read is quiet. -/
theorem IsTarget.isQuiet_settingsText {front back : List Block} {b : Block}
    (h : IsTarget text change front b back)
      (hlist : ∀ span ∈ b.settingsSpan, IsList (span.slice text)) :
    isQuiet (tokenize (b.settingsText text)) = true := by
  obtain ⟨w, -, hvalid, htokens, rfl, -⟩ := exists_items h.blocks h.braced h.keyword
  obtain ⟨p, hp, rfl, rfl, hspan⟩ := exists_fit hvalid htokens hlist
  rw [p.settingsText_eq hspan]
  exact hp.isQuiet_content

/-- **Where a list is edited**: the text falls apart at the list of the block, and afterwards
another well-formed list stands there. -/
structure ListEdit (text text' : Text) (b : Block) (p : ListPlace) (K : Text) : Prop where
  /-- The text falls apart at the list. -/
  valid : p.Valid
  /-- It is the text before the edit. -/
  before : p.text = text
  /-- The list is that of the block. -/
  block : b = p.site.block (clean text)
  /-- The other list is well formed. -/
  edited : (p.relist K).Valid
  /-- With it, it is the text after the edit. -/
  behind : (p.relist K).text = text'

/-- **An edit of the settings of a block** puts a list at its place into which they are written, and
the other blocks say what they said. -/
theorem exists_listEdit {front back : List Block} {b : Block} {values : OrderedMap Text}
    (hblocks : (parseBlocks (clean text)).blocks = front ++ b :: back)
    (hbrace : b.openBrace.isSome = true) (hkeyword : b.keyword ≠ []) (he : Editable text b)
    (hvalues : PlainEntries values) :
    ∃ p text' front' back',
      ((settingsSplice text b values).minimized text).apply text = text' ∧
      ListEdit text text' b p (rewriteSettings (b.settingsText text) values) ∧
      (parseBlocks (clean text')).blocks
        = front' ++ (p.relist (rewriteSettings (b.settingsText text) values)).site.block
        (clean text')
          :: back' ∧
      front'.map (Block.view (clean text')) = front.map (Block.view (clean text)) ∧
      back'.map (Block.view (clean text')) = back.map (Block.view (clean text)) := by
  -- The block is cut at the place of its list, and another list can be put there.
  obtain ⟨p, hp, rfl, rfl, hrelist⟩ := exists_relist hblocks hbrace hkeyword he.list he.stray
  have hlist := he.isList
  rw [p.settingsText_eq hp.settingsSpan] at hlist ⊢
  have hspec := rewriteSettings_spec hvalues hlist
  have hK := hp.relist hspec.isList (hspec.quiet hp.isQuiet_content)
  obtain ⟨front', back', hblocks', hfront, hback⟩ := hrelist _ hK
  refine ⟨p, _, front', back', ?_, ⟨hp, rfl, rfl, hK, rfl⟩, hblocks', hfront, hback⟩
  -- The splice is the one that exchanges the lists.
  obtain ⟨ahead, old, new, behind, htext, htext', hsplice, -⟩ :=
    settingsSplice_eq hp (clean p.text) values
  rw [hsplice, Splice.apply_minimized htext, ← htext']

/-- **A change of a table or a note** writes its settings into the list of its block. All blocks say
the same afterwards but for that list; the block is found again, and nothing more is written. -/
theorem exists_edited (hkind : change.kind ≠ .project) (hplan : plan text change = .ok splice)
    (hvalues : PlainEntries change.texts) {b : Block} (hb : target? text change = some b)
    (he : Editable text b) :
    ∃ front back front' b' back' splice',
      b.settingsText (clean text) = b.settingsText text ∧
      (parseBlocks (clean text)).blocks = front ++ b :: back ∧
      (parseBlocks (clean (splice.apply text))).blocks = front' ++ b' :: back' ∧
      front'.map (Block.view (clean (splice.apply text))) = front.map (Block.view (clean text)) ∧
      b'.view (clean (splice.apply text))
        = { b.view (clean text) with
            settings := some (rewriteSettings (b.settingsText text) change.texts) } ∧
      back'.map (Block.view (clean (splice.apply text))) = back.map (Block.view (clean text)) ∧
      plan (splice.apply text) change = .ok splice' ∧ splice'.isEmpty = true := by
  obtain ⟨hwritable, b₀, hb₀, rfl⟩ := (plan_eq_ok_iff hkind).1 hplan
  -- The block of the plan is the one that is edited.
  obtain rfl : b₀ = b := Option.some.inj (hb₀.symm.trans hb)
  obtain ⟨front, back, hblocks, hbrace, hne, hfind⟩ := exists_isTarget hb
  have hspec := rewriteSettings_spec hvalues he.isList
  obtain ⟨p, text', front', back', happly, hedit, hblocks', hfront, hback⟩ :=
    exists_listEdit hblocks hbrace hne he hvalues
  rw [happly]
  generalize hnew : rewriteSettings (b₀.settingsText text) change.texts = K at *
  obtain ⟨hp, rfl, rfl, hK, rfl⟩ := hedit
  -- The list is the same in the cleaned text, since lists hold no comments here.
  have hclean : (p.site.block (clean p.text)).settingsText (clean p.text)
      = (p.site.block (clean p.text)).settingsText p.text := by
    rw [p.settingsText_eq hp.settingsSpan, Block.settingsText, ← hp.settings]
    rfl
  have hview := hp.view_block hK
  -- The block has its keyword and its name as before, so the second edit finds it.
  have hsame : ((p.relist K).site.block (clean (p.relist K).text)).key
      = (p.site.block (clean p.text)).key := by
    have hkey' := congrArg BlockView.key hview
    rw [BlockView.key_view] at hkey'
    exact hkey'.trans (BlockView.key_view (clean p.text) _)
  have htarget' := hfind _ _ _ _ hblocks' (keys_of_views hfront) hsame.symm (keys_of_views hback)
  refine ⟨front, back, front', _, back', _, hclean, hblocks, hblocks', hfront, hview, hback,
    (plan_eq_ok_iff hkind).2 ⟨hwritable, _, htarget', rfl⟩, ?_⟩
  -- The second edit writes the same list again, so nothing of it is left.
  obtain ⟨ahead, old, new, behind, htext, -, hsplice, hkeep⟩ :=
    settingsSplice_eq hK (clean (p.relist K).text) change.texts
  obtain rfl := hkeep (congrArg some hspec.again.symm)
  rw [hsplice]
  exact Splice.minimized_keeping htext

end SchemaDiagram
