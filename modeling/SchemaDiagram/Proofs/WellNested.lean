import SchemaDiagram.Proofs.Places

/-! # The tree of a text is well nested

The patcher replaces stretches of a text at the offsets that a tree keeps. Whatever the text is,
these offsets are sound: the parts of a block stand in their order inside its span, its braces and
brackets are characters of the text, and the nodes of its body stand inside the body and apart from
each other.

* **`BlockTree.Has tree b`** — the block is one of the tree, at any depth; `exists_readFrom` says by
  which step it was read.
* **`Header.parts_apart`** — the name and the settings list of a header stand in this order.
* **`Contents.Nested`**, **`Block.Braced`** — how the nodes of a body stand in it, and how the parts
  of a block with braces stand in the block.
* **`parseBlocks_wellNested`** — every block of every text is well nested. -/

namespace SchemaDiagram

/-! ## The blocks of a tree -/

/-- The block is one of the tree, at any depth. -/
inductive BlockTree.Has (tree : BlockTree) : Block → Prop
  | top {b : Block} (h : b ∈ tree.blocks) : tree.Has b
  | inner {b c : Block} (hb : tree.Has b) (hc : c ∈ b.children) : tree.Has c

section Origin

variable {s : Text} {tl : Bool} {doc doc' : List Text} {tokens rest : List Token} {item : Item}

/-- What is reported behind a step is reported. -/
theorem Step.mem_problems (h : Step tl doc tokens item doc' rest) {d : Diagnostic}
    (hd : d ∈ (contentsFrom s tl doc' rest).problems) :
      d ∈ (contentsFrom s tl doc tokens).problems := by
  obtain ⟨problems, hcontents⟩ := contentsFrom_of_step h s
  rw [hcontents, Item.add_eq_append]
  exact List.mem_append_right _ (List.mem_append_right _ hd)

/-- What is reported in the body of a block is reported. -/
theorem Step.mem_problems_inner {head brace close : Token} {header body : List Token}
    (h : Step tl doc tokens (.block head header brace body close) doc' rest) {d : Diagnostic}
    (hd : d ∈ (contentsFrom s false [] body).problems) :
    d ∈ (contentsFrom s tl doc tokens).problems := by
  cases h with
  | bareBlock h hclose =>
    rw [contentsFrom_openBrace h, hclose]
    exact List.mem_append_left _ hd
  | block h hscan hbrace hclose =>
    rw [contentsFrom_statement h]
    simp only [hscan, hbrace, if_true, hclose]
    exact List.mem_append_left _ (List.mem_append_right _ hd)

/-- **Every block of a sequence is found by a step.** -/
theorem exists_step_of_mem_children {b : Block} (h : b ∈ (contentsFrom s tl doc tokens).children) :
    ∃ doc₁ item doc₂ used rest, (used ++ rest) <:+ tokens ∧
      Step tl doc₁ (used ++ rest) item doc₂ rest ∧ item.Takes used ∧ item.blocks s tl doc₁ = [b] ∧
      ∀ d ∈ (contentsFrom s tl doc₁ (used ++ rest)).problems,
        d ∈ (contentsFrom s tl doc tokens).problems := by
  induction doc, tokens using steps_induction tl with
  | nil doc => simp [Contents.empty] at h
  | step doc t others item doc' rest hstep ih =>
    obtain ⟨_, hcontents⟩ := contentsFrom_of_step hstep s
    obtain ⟨used, hused, htakes⟩ := hstep.exists_takes
    have hproblems : ∀ d ∈ (contentsFrom s tl doc' rest).problems,
        d ∈ (contentsFrom s tl doc (t :: others)).problems := fun d => hstep.mem_problems
    have hchildren : b ∈ item.blocks s tl doc ++ (contentsFrom s tl doc' rest).children := by
      rw [← Item.children_add]
      rwa [hcontents] at h
    rw [hused] at hstep
    rcases List.mem_append.1 hchildren with hfound | hlater
    · refine ⟨doc, item, doc', used, rest, hused ▸ List.suffix_rfl, hstep, htakes, ?_,
        hused ▸ fun d => id⟩
      obtain ⟨c, hblocks⟩ := List.length_eq_one_iff.1
        (Nat.le_antisymm (item.length_blocks s tl doc) (List.length_pos_of_mem hfound))
      rw [hblocks] at hfound ⊢
      rw [List.mem_singleton.1 hfound]
    · -- It is found by a later step, with no other reports.
      obtain ⟨doc₁, item₁, doc₂, used₁, rest₁, hsuffix, hstep₁, htakes₁, hblocks, hall⟩ :=
        ih hlater
      exact ⟨doc₁, item₁, doc₂, used₁, rest₁, hsuffix.trans (hused ▸ List.suffix_append ..), hstep₁,
        htakes₁, hblocks, fun d hd => hproblems d (hall d hd)⟩

end Origin

/-- **How a block is read from its tokens**: with braces from a header and a body, or as a reference
on one line. What is wrong with the body is among the problems. -/
inductive Block.ReadFrom (text : Text) (problems : List Diagnostic) : Block → List Token → Prop
  | braced {doc : List Text} {head brace close : Token} {header body used rest : List Token}
      (htakes : (Item.block head header brace body close).Takes used)
      (hbrace : brace.kind = .openBrace)
      (hclose : closeBrace 0 (body ++ close :: rest) = some (body, close, rest))
      (hproblems : ∀ d ∈ (contentsFrom text false [] body).problems, d ∈ problems) :
      ReadFrom text problems
        (makeBlock doc head (.ofTokens header) brace close (contentsFrom text false [] body)) used
  | short {doc : List Text} {head : Token} {others : List Token} {b : Block}
      (hread : readShortRef text doc head others = .ok b) :
      ReadFrom text problems b (head :: others)

/-- A block with braces is closed by the brace that is found for it. -/
theorem Step.closeBrace_of_block {tl : Bool} {doc doc' : List Text}
    {tokens rest header body : List Token} {head brace close : Token}
    (h : Step tl doc tokens (.block head header brace body close) doc' rest) :
    brace.kind = .openBrace ∧ closeBrace 0 (body ++ close :: rest) = some (body, close, rest) := by
  cases h with
  | bareBlock hkind hclose => exact ⟨hkind, eq_of_closeBrace hclose ▸ hclose⟩
  | block _ _ hkind hclose => exact ⟨hkind, eq_of_closeBrace hclose ▸ hclose⟩

/-- The step that finds a block reads it from its tokens. -/
theorem Step.readFrom {text : Text} {tl : Bool} {doc doc' : List Text} {used rest : List Token}
    {item : Item} {b : Block} (h : Step tl doc (used ++ rest) item doc' rest)
    (htakes : item.Takes used) (hblocks : item.blocks text tl doc = [b]) :
    b.ReadFrom text (contentsFrom text tl doc (used ++ rest)).problems used := by
  cases item with
  | nothing => cases hblocks
  | block head header brace body close =>
    obtain ⟨hbrace, hclose⟩ := h.closeBrace_of_block
    obtain rfl := List.singleton_inj.1 hblocks
    exact .braced htakes hbrace hclose fun d hd => h.mem_problems_inner hd
  -- Only at the top level a line may make a block.
  | line head others =>
    obtain rfl : used = head :: others := htakes
    simp only [Item.blocks, Item.add, addStatement] at hblocks
    split at hblocks
    next =>
      split at hblocks
      next hread =>
        obtain rfl := List.singleton_inj.1 hblocks
        exact .short hread
      next => cases hblocks
    next => split at hblocks <;> cases hblocks

/-- A block is read from its tokens whatever else is reported. -/
theorem Block.ReadFrom.mono {text : Text} {problems more : List Diagnostic} {b : Block}
    {used : List Token} (h : b.ReadFrom text problems used) (hmore : ∀ d ∈ problems, d ∈ more) :
    b.ReadFrom text more used := by
  cases h with
  | braced htakes hbrace hclose hproblems =>
    exact .braced htakes hbrace hclose fun d hd => hmore d (hproblems d hd)
  | short hread => exact .short hread

/-- A block of a sequence is read from its tokens. -/
theorem exists_readFrom_of_mem_children {text : Text} {tl : Bool} {doc : List Text}
    {tokens : List Token} {b : Block} (h : b ∈ (contentsFrom text tl doc tokens).children) :
    ∃ used, used <:+: tokens ∧ b.ReadFrom text (contentsFrom text tl doc tokens).problems used := by
  obtain ⟨_, _, _, used, rest, hsuffix, hstep, htakes, hblocks, hproblems⟩ :=
    exists_step_of_mem_children h
  exact ⟨used, (List.prefix_append used rest).isInfix.trans hsuffix.isInfix,
    (hstep.readFrom htakes hblocks).mono hproblems⟩

/-- **A reference on one line has one line**, which is its body. -/
theorem line_of_readShortRef {text : Text} {doc : List Text} {head : Token} {others : List Token}
    {b : Block} (h : readShortRef text doc head others = .ok b) (hapart : Apart others) :
    b.shortForm = true ∧ b.openBrace = none ∧ b.children = [] ∧ b.properties = [] ∧
      ∃ l, b.lines = [l] ∧ b.bodySpan = some l.span ∧ l.text = l.span.slice text ∧
        l.place.Among (others.filter (·.kind != .doc)) := by
  have hsub : (((others.dropWhile (·.kind != .colon)).drop 1).filter (·.kind != .doc)).Sublist
      (others.filter (·.kind != .doc)) :=
    ((List.drop_sublist ..).trans (List.dropWhile_sublist _)).filter _
  simp only [readShortRef] at h
  generalize ((others.dropWhile (·.kind != .colon)).drop 1).filter (·.kind != .doc) = body at h hsub
  split at h
  next => cases h
  next =>
    split at h
    next first last hfirst hlast =>
      cases h
      refine ⟨rfl, rfl, rfl, rfl, _, rfl, rfl, rfl, first,
        hsub.subset (List.mem_of_mem_head? hfirst), last, hsub.subset (List.mem_of_getLast? hlast),
        ?_, rfl⟩
      -- The first of its tokens is not behind the last one.
      obtain ⟨rest, rfl⟩ := List.head?_eq_some_iff.1 hfirst
      have hbody := hapart.sublist (hsub.trans List.filter_sublist)
      rcases List.mem_cons.1 (List.mem_of_getLast? hlast) with rfl | hmem
      · exact Nat.le_refl _
      · have hown := hbody.own first (List.mem_cons_self ..)
        have horder := (List.pairwise_cons.1 hbody.order).1 last hmem
        omega
    next => cases h

/-- **Every block of a tree is read from tokens of its text.** -/
theorem exists_readFrom {text : Text} {b : Block} (h : (parseBlocks text).Has b) :
    ∃ used, used <:+: tokenize text ∧ Apart used ∧
      b.ReadFrom text (parseBlocks text).problems used := by
  have hapart : ∀ used : List Token, used <:+: tokenize text → Apart used :=
    fun used hused => (apart_tokensFrom 0 1 text).sublist hused.sublist
  induction h with
  | top h =>
    obtain ⟨used, hused, hread⟩ := exists_readFrom_of_mem_children h
    exact ⟨used, hused, hapart used hused, hread⟩
  | inner hb hc ih =>
    obtain ⟨used, hused, hown, hread⟩ := ih
    cases hread with
    | @braced _ _ brace close header body used rest htakes _ _ hproblems =>
      obtain ⟨used', hused', hread'⟩ := exists_readFrom_of_mem_children hc
      have hwhole := (hused'.trans htakes.body_infix).trans hused
      exact ⟨used', hwhole, hapart used' hwhole, hread'.mono hproblems⟩
    | @short _ _ others _ hread =>
      -- A reference on one line has no blocks inside it.
      have hnone := (line_of_readShortRef hread (hown.sublist (List.sublist_cons_self ..))).2.2.1
      rw [hnone] at hc
      cases hc

/-! ## Headers -/

namespace Header

/-- The tokens of a name stand before what follows it. -/
theorem names_sublist (isFirst : Bool) (tokens : List Token) :
    ∃ front, tokens = front ++ (takeName isFirst tokens).2 ∧
      (takeName isFirst tokens).1.Sublist front := by
  fun_induction takeName isFirst tokens with
  | case1 => exact ⟨[], rfl, .slnil⟩
  | case2 isFirst t => exact ⟨[t], rfl, List.Sublist.refl _⟩
  | case3 isFirst t => exact ⟨[], rfl, .slnil⟩
  | case4 isFirst t d others ht hd parts after heq ih =>
    obtain ⟨front, hfront, hsub⟩ := ih
    rw [heq] at hfront hsub
    exact ⟨t :: d :: front, by rw [hfront]; rfl, (hsub.cons d).cons_cons t⟩
  | case5 isFirst t => exact ⟨[t], rfl, List.Sublist.refl _⟩
  | case6 => exact ⟨[], rfl, .slnil⟩

/-- The span of some tokens goes from the first to the last of them. -/
theorem among_of_spanOf {tokens : List Token} (h : Apart tokens) {span : Span}
    (hspan : span ∈ spanOf? tokens) : ∃ p : Place, p.Among tokens ∧ p.span = span := by
  rw [spanOf?] at hspan
  split at hspan
  next first last hfirst hlast =>
    -- The span goes from the first token to the last one, which may be the same.
    obtain rfl := Option.some.inj hspan
    have hmem := List.mem_of_mem_head? hfirst
    have hown := h.own last (List.mem_of_getLast? hlast)
    refine ⟨.fromTo first last, ⟨first, hmem, last, List.mem_of_getLast? hlast, ?_, rfl⟩, rfl⟩
    obtain ⟨rest, rfl⟩ := List.head?_eq_some_iff.1 hfirst
    rcases List.mem_cons.1 (List.mem_of_getLast? hlast) with rfl | hlater
    · exact Nat.le_refl _
    · have hfirst := h.own first (List.mem_cons_self ..)
      have horder := (List.pairwise_cons.1 h.order).1 last hlater
      omega
  next => cases hspan

/-- The spans of the name and of the settings list with its brackets. -/
def spans (header : Header) : List Span :=
  header.nameSpan.toList ++ (header.settingsSpan.map fun span =>
    ⟨span.start - 1, span.stop + 1⟩).toList

/-- The brackets of a settings list stand in the text. -/
structure Bracketed (text : Text) (span : Span) : Prop where
  /-- A bracket stands before the list. -/
  start : 0 < span.start
  /-- It opens the list. -/
  opening : text[span.start - 1]? = some '['
  /-- The one behind the list closes it. -/
  closing : text[span.stop]? = some ']'

/-- **The name and the settings list of a header stand in this order** among its tokens, and the
brackets of the list stand in the text. -/
theorem spans_apart {text : Text} {tokens : List Token} (h : Apart tokens)
    (hmem : ∀ t ∈ tokens, t ∈ tokenize text) :
    (ofTokens tokens).spans.Pairwise Span.Before ∧
      (∀ span ∈ (ofTokens tokens).spans, ∃ p : Place, p.Among tokens ∧ p.span = span) ∧
      ∀ span ∈ (ofTokens tokens).settingsSpan, Bracketed text span := by
  -- The tokens of the name come first, then those of the alias, and the list behind both.
  obtain ⟨front, hfront, hnames⟩ := names_sublist true tokens
  obtain ⟨aliasing, hbehind, -, -⟩ :=
    exists_alias (rfl : (takeAlias (takeName true tokens).2).2 = _)
  have htokens : tokens = front ++ (aliasing ++ behindName tokens) := by
    rw [behindName, ← hbehind, ← hfront]
  have hapart : Apart (front ++ (aliasing ++ behindName tokens)) := htokens ▸ h
  have hname : ∀ span ∈ (ofTokens tokens).nameSpan, ∃ p : Place, p.Among front ∧ p.span = span := by
    intro span hspan
    obtain ⟨p, hp, hpspan⟩ := among_of_spanOf (hapart.left.sublist hnames) hspan
    exact ⟨p, hp.mono hnames.subset, hpspan⟩
  have hlist : ∀ span ∈ (ofTokens tokens).settingsSpan, Bracketed text span ∧
      ∃ p : Place, p.Among (behindName tokens) ∧ p.span = ⟨span.start - 1, span.stop + 1⟩ := by
    intro span hspan
    obtain ⟨opening, inner, close, after, hlist, hopen, hclose, rfl⟩ := exists_list hspan
    have hin : ∀ t ∈ behindName tokens, t ∈ tokenize text := fun t ht =>
      hmem t (htokens ▸ List.mem_append_right _ (List.mem_append_right _ ht))
    rw [hlist] at hin ⊢
    have hclosemem : close ∈ opening :: (inner ++ close :: after) := by simp
    obtain ⟨hopenstop, hopenmark⟩ := mark_of_token (m := '[') (hin opening (List.mem_cons_self ..))
      (by rw [hopen]; rfl)
    obtain ⟨hclosestop, hclosemark⟩ := mark_of_token (m := ']') (hin close hclosemem)
      (by rw [kind_of_closeBracket? hclose]; rfl)
    have hstart : opening.span.stop - 1 = opening.span.start := by omega
    have horder : opening.span.stop ≤ close.span.start := by
      have hall := hlist ▸ hapart.right.right
      exact (List.pairwise_cons.1 hall.order).1 close (by simp)
    refine ⟨⟨by dsimp only; omega, by rw [hstart]; exact hopenmark, hclosemark⟩,
      .fromTo opening close, ⟨opening, List.mem_cons_self .., close, hclosemem, by omega, rfl⟩, ?_⟩
    rw [hstart, ← hclosestop]
    rfl
  refine ⟨?_, ?_, fun span hspan => (hlist span hspan).1⟩
  · refine List.pairwise_append.2 ⟨?_, ?_, fun name hnamespan bracket hbracket => ?_⟩
    · cases (ofTokens tokens).nameSpan <;> simp
    · cases (ofTokens tokens).settingsSpan <;> simp
    · obtain ⟨p, hp, rfl⟩ := hname name (by simpa using hnamespan)
      obtain ⟨span, hspan, rfl⟩ : ∃ span ∈ (ofTokens tokens).settingsSpan,
          (⟨span.start - 1, span.stop + 1⟩ : Span) = bracket := by simpa using hbracket
      obtain ⟨-, q, hq, hqspan⟩ := hlist span hspan
      rw [← hqspan]
      exact hp.before (hq.mono fun t => List.mem_append_right _) hapart
  · intro span hspan
    rcases List.mem_append.1 hspan with hspan | hspan
    · obtain ⟨p, hp, rfl⟩ := hname span (by simpa using hspan)
      exact ⟨p, hp.mono fun t ht => htokens ▸ List.mem_append_left _ ht, rfl⟩
    · obtain ⟨list, hlistspan, rfl⟩ : ∃ list ∈ (ofTokens tokens).settingsSpan,
          (⟨list.start - 1, list.stop + 1⟩ : Span) = span := by simpa using hspan
      obtain ⟨-, p, hp, hpspan⟩ := hlist list hlistspan
      refine ⟨p, hp.mono fun t ht => ?_, hpspan⟩
      exact htokens ▸ List.mem_append_right _ (List.mem_append_right _ ht)

end Header

/-! ## Bodies and blocks -/

/-- **The nodes of a body are well nested**: they stand inside it and apart from each other, each
kind in order, and they keep the lines and the characters that stand there. -/
structure Contents.Nested (c : Contents) (s : Text) (body : Span) : Prop where
  /-- Every node has characters and lies inside the body. -/
  within : ∀ p ∈ c.places, p.span.start < p.span.stop ∧ p.span.Within body
  /-- Every node knows its line. -/
  line : ∀ p ∈ c.places, p.line = lineAt s p.span.start
  /-- No two nodes meet. -/
  apart : c.places.Pairwise fun p q => p.span.Disjoint q.span
  /-- The blocks stand in order. -/
  children : c.children.Pairwise fun a b => a.span.Before b.span
  /-- The lines stand in order. -/
  lines : c.lines.Pairwise fun a b => a.span.Before b.span
  /-- The properties stand in order. -/
  properties : c.properties.Pairwise fun a b => a.span.Before b.span
  /-- A line is what stands at its span. -/
  text : ∀ l ∈ c.lines, l.text = l.span.slice s
  /-- A value is what stands at its span, inside the property, without the blanks around it. -/
  value : ∀ p ∈ c.properties, p.value = Text.trim (p.valueSpan.slice s) ∧ p.valueSpan.Within p.span

/-- Nodes that sit among the tokens of a body are well nested in it. -/
theorem Contents.Sits.nested {c : Contents} {text : Text} {tokens : List Token}
    (h : c.Sits text tokens) (hapart : Apart tokens) (hmem : ∀ t ∈ tokens, t ∈ tokenize text)
    {body : Place} (hbody : ∀ t ∈ tokens, body.Covers t) : c.Nested text body.span := by
  refine ⟨fun p hp => ⟨(h.among p hp).start_lt hapart, (h.among p hp).within hapart hbody⟩,
    fun p hp => ?_, h.apart, h.children, h.lines, h.properties, h.text, h.value⟩
  obtain ⟨first, hfirst, -, -, -, rfl⟩ := h.among p hp
  exact line_eq_lineAt (hmem first hfirst)

/-- A line by itself is well nested in its span. -/
theorem Contents.nested_line {s : Text} {l : BodyLine} {tokens : List Token}
    (h : l.place.Among tokens)
    (hapart : Apart tokens) (hmem : ∀ t ∈ tokens, t ∈ tokenize s)
      (htext : l.text = l.span.slice s) :
    Contents.Nested ⟨[], [l], [], []⟩ s l.span := by
  have hplaces : Contents.places ⟨[], [l], [], []⟩ = [l.place] := rfl
  have hlt : l.span.start < l.span.stop := h.start_lt hapart
  refine ⟨?_, ?_, ?_, .nil, List.pairwise_singleton .., .nil, by simpa using htext, by simp⟩
  · -- The place lies within the span of the line, since it is that span.
    rw [hplaces]
    simpa using ⟨hlt, Nat.le_refl _, Nat.le_of_lt hlt, Nat.le_refl _⟩
  · -- Its line number is that of its first token.
    obtain ⟨first, hfirst, last, -, -, hplace⟩ := h
    have hline : l.place.line = lineAt s l.place.span.start := by
      rw [hplace]
      exact line_eq_lineAt (hmem first hfirst)
    rw [hplaces]
    simpa using hline
  · rw [hplaces]
    exact List.pairwise_singleton ..

namespace Block

/-- The nodes of the body. -/
def contents (b : Block) : Contents := ⟨b.children, b.lines, b.properties, []⟩

/-- The name, the settings list with its brackets, the opening brace and the body. -/
def parts (b : Block) : List Span :=
  b.nameSpan.toList ++ b.bracketSpan.toList ++ (b.openBrace.map fun n => ⟨n, n + 1⟩).toList ++
    b.bodySpan.toList

/-- **The parts of a block with braces** stand in their order inside the block, and the body is what
lies between the braces. -/
structure Braced (b : Block) (text : Text) (brace : Nat) : Prop where
  /-- The brace opens the block. -/
  openBrace : b.openBrace = some brace
  /-- The parts stand one behind the other. -/
  order : b.parts.Pairwise Span.Before
  /-- They lie inside the block. -/
  within : ∀ part ∈ b.parts, part.Within b.span
  /-- The settings list stands in brackets. -/
  list : ∀ span ∈ b.settingsSpan, Header.Bracketed text span
  /-- The opening brace is a brace. -/
  opening : text[brace]? = some '\x7b'
  /-- The block ends with a brace. -/
  closing : text[b.span.stop - 1]? = some '\x7d'
  /-- The body is what lies between the two. -/
  body : b.bodySpan = some ⟨brace + 1, b.span.stop - 1⟩

/-- **A block is well nested** in its text. -/
structure WellNested (b : Block) (text : Text) : Prop where
  /-- The block has characters. -/
  own : b.span.start < b.span.stop
  /-- It lies inside the text. -/
  inside : b.span.stop ≤ text.length
  /-- It knows its line. -/
  line : b.line = lineAt text b.span.start
  /-- Its body lies inside it, and the nodes of the body are well nested. -/
  body : ∃ body, b.bodySpan = some body ∧ body.Within b.span ∧ b.contents.Nested text body
  /-- It is a reference on one line, or it has braces. -/
  braces : b.shortForm = true ∧ b.openBrace = none ∨
    b.shortForm = false ∧ ∃ brace, b.Braced text brace

end Block

section ReadFrom

variable {text : Text} {problems : List Diagnostic} {b : Block} {used : List Token}

/-- A block stands from its first to its last token. -/
theorem Block.ReadFrom.among (h : b.ReadFrom text problems used) (hapart : Apart used) :
    b.place.Among used := by
  cases h with
  | braced htakes =>
    obtain ⟨middle, rfl⟩ := htakes.exists_middle
    have hown := hapart.own _ (List.mem_cons_self ..)
    have horder := (List.pairwise_cons.1 hapart.order).1 _
      (List.mem_append_right middle (List.mem_singleton_self _))
    exact ⟨_, List.mem_cons_self .., _, by simp, by omega, rfl⟩
  | short hread =>
    rw [place_readShortRef hread]
    exact fromTo_lineEnd_among hapart

/-- A block that is read from braces has its parts in order. -/
theorem braced_makeBlock {head brace close : Token} {header body used : List Token}
    (doc : List Text) (c : Contents) (htakes : (Item.block head header brace body close).Takes used)
    (hbrace : brace.kind = .openBrace) (hclose : close.kind = .closeBrace) (hapart : Apart used)
    (hmem : ∀ t ∈ used, t ∈ tokenize text) :
    (makeBlock doc head (.ofTokens header) brace close c).Braced text brace.span.start := by
  -- The place of the block covers all its tokens.
  have hcovers : ∀ t ∈ used, (Place.fromTo head close).Covers t := by
    obtain ⟨middle, rfl⟩ := htakes.exists_middle
    exact fun t => Place.covers_fromTo hapart
  obtain ⟨front, rfl, hfront⟩ := htakes
  -- The header stands ahead of the brace.
  have hsub : header.Sublist front := by
    rcases hfront with rfl | ⟨rfl, rfl, -⟩
    · exact List.sublist_cons_self ..
    · exact .slnil
  have hheader : ∀ t ∈ header, t ∈ front ++ brace :: body ++ [close] := fun t ht =>
    List.mem_append_left _ (List.mem_append_left _ (hsub.subset ht))
  have hbracemem : brace ∈ front ++ brace :: body ++ [close] := by simp
  have hclosemem : close ∈ front ++ brace :: body ++ [close] := by simp
  have hapart' : Apart (front ++ (brace :: (body ++ [close]))) := by simpa using hapart
  have hbehind := hapart'.right
  -- The braces stand where the block says.
  obtain ⟨hbracestop, hbracemark⟩ := mark_of_token (m := '\x7b') (hmem brace hbracemem)
    (by rw [hbrace]; rfl)
  obtain ⟨hclosestop, hclosemark⟩ := mark_of_token (m := '\x7d') (hmem close hclosemem)
    (by rw [hclose]; rfl)
  -- The body is between them.
  have hbody : brace.span.stop ≤ close.span.start :=
    (List.pairwise_cons.1 hbehind.order).1 close (by simp)
  obtain ⟨horder, hamong, hlist⟩ :=
    Header.spans_apart (hapart'.left.sublist hsub) fun t ht => hmem t (hheader t ht)
  have hends : ∀ part ∈ (Header.ofTokens header).spans, part.stop ≤ brace.span.start := by
    intro part hpart
    obtain ⟨p, ⟨-, -, last, hlast, -, rfl⟩, rfl⟩ := hamong part hpart
    exact hapart'.stop_le (hsub.subset hlast) (List.mem_cons_self ..)
  have hparts : (makeBlock doc head (.ofTokens header) brace close c).parts
      = (Header.ofTokens header).spans ++ [⟨brace.span.start, brace.span.start + 1⟩] ++
          [⟨brace.span.stop, close.span.start⟩] := rfl
  refine ⟨rfl, ?_, ?_, hlist, hbracemark, ?_, ?_⟩
  · rw [hparts, List.append_assoc]
    refine List.pairwise_append.2 ⟨horder, ?_, fun part hpart later hlater => ?_⟩
    · exact List.pairwise_pair.2 hbracestop.ge
    · have hpart := hends part hpart
      rcases List.mem_cons.1 hlater with rfl | hlater
      · exact hpart
      · rw [List.mem_singleton.1 hlater]
        change part.stop ≤ brace.span.stop
        omega
  · obtain ⟨hbracein, -⟩ := hcovers brace hbracemem
    obtain ⟨-, hclosein⟩ := hcovers close hclosemem
    have hspan : (makeBlock doc head (.ofTokens header) brace close c).span
        = (Place.fromTo head close).span := rfl
    intro part hpart
    rw [hspan]
    rw [hparts, List.mem_append, List.mem_append, List.mem_singleton, List.mem_singleton] at hpart
    rcases hpart with (hpart | rfl) | rfl
    · obtain ⟨p, hp, rfl⟩ := hamong part hpart
      exact hp.within (hapart'.left.sublist hsub) fun t ht => hcovers t (hheader t ht)
    · refine ⟨hbracein, ?_, ?_⟩ <;> dsimp only <;> omega
    · refine ⟨?_, hbody, ?_⟩ <;> dsimp only <;> omega
  · change text[close.span.stop - 1]? = _
    rw [hclosestop]
    exact hclosemark
  · change some (Span.mk brace.span.stop close.span.start) = some ⟨_, close.span.stop - 1⟩
    rw [hbracestop, hclosestop]
    rfl

/-- **A block that is read from tokens of a text is well nested in it.** -/
theorem Block.ReadFrom.wellNested (h : b.ReadFrom text problems used) (hapart : Apart used)
    (hmem : ∀ t ∈ used, t ∈ tokenize text) : b.WellNested text := by
  have hamong := h.among hapart
  have hown : b.span.start < b.span.stop := hamong.start_lt hapart
  -- The block ends inside the text and starts on its line.
  have hplace : b.span.stop ≤ text.length ∧ b.line = lineAt text b.span.start := by
    obtain ⟨first, hfirst, last, hlast, -, hplace⟩ := hamong
    have hbounds := (bounds_of_mem_tokensFrom (hmem last hlast)).2.2
    rw [Nat.zero_add] at hbounds
    have hspan : b.span = ⟨first.span.start, last.span.stop⟩ := congrArg Place.span hplace
    have hline : b.line = first.line := congrArg Place.line hplace
    rw [hspan, hline]
    exact ⟨hbounds, line_eq_lineAt (hmem first hfirst)⟩
  refine ⟨hown, hplace.1, hplace.2, ?_, ?_⟩
  · -- Its contents are nested in its body.
    cases h with
    | @braced doc head brace close header body _ rest htakes hbrace hclose _ =>
      have hbraced := braced_makeBlock doc (contentsFrom text false [] body) htakes hbrace
        (kind_of_closeBrace hclose) hapart hmem
      have hbody : Apart body := hapart.sublist htakes.body_infix.sublist
      obtain ⟨front, rfl, -⟩ := htakes
      have hinside : ∀ t ∈ body, (Place.mk ⟨brace.span.stop, close.span.start⟩ 0).Covers t := by
        have hbehind : Apart (brace :: (body ++ [close])) := by
          refine hapart.sublist ?_
          rw [List.append_assoc]
          exact List.sublist_append_right ..
        refine fun t ht => ⟨(List.pairwise_cons.1 hbehind.order).1 t (by simp [ht]), ?_⟩
        exact (hbehind.sublist (List.sublist_cons_self ..)).stop_le ht (by simp)
      refine ⟨_, rfl, hbraced.within _ (by simp [Block.parts, makeBlock]), ?_⟩
      exact ((sits_contentsFrom text false [] hbody).reported []).nested hbody
        (fun t ht => hmem t (by simp [ht])) hinside
    -- A reference on one line has that line as its body.
    | @short doc head others _ hread =>
      have hothers := hapart.sublist (List.sublist_cons_self head others)
      obtain ⟨-, -, hchildren, hproperties, l, hlines, hbody, htext, hl⟩ :=
        line_of_readShortRef hread hothers
      have hwithin : l.place.span.Within b.place.span := by
        rw [place_readShortRef hread]
        refine hl.within (hothers.sublist List.filter_sublist) fun t ht => ?_
        obtain ⟨hmem, hdoc⟩ := List.mem_filter.1 ht
        exact covers_lineEnd hapart (List.mem_cons_of_mem _ hmem) (by simpa using hdoc)
      refine ⟨l.span, hbody, hwithin, ?_⟩
      rw [Block.contents, hchildren, hlines, hproperties]
      refine Contents.nested_line (hl.mono fun t ht => (List.mem_filter.1 ht).1) hothers
        (fun t ht => ?_) htext
      exact hmem t (List.mem_cons_of_mem _ ht)
  · cases h with
    | braced htakes hbrace hclose _ =>
      exact .inr ⟨rfl, _,
        braced_makeBlock _ _ htakes hbrace (kind_of_closeBrace hclose) hapart hmem⟩
    | short hread =>
      obtain ⟨hshort, hnone, -⟩ :=
        line_of_readShortRef hread (hapart.sublist (List.sublist_cons_self ..))
      exact .inl ⟨hshort, hnone⟩

end ReadFrom

/-- **The tree of every text is well nested**: its top-level blocks stand one behind the other, and
every block at any depth has its parts in order, the nodes of its body inside the body, and the
lines and characters that stand in the text. -/
theorem parseBlocks_wellNested (text : Text) :
    ((parseBlocks text).blocks.Pairwise fun a b => a.span.Before b.span) ∧
      ∀ b, (parseBlocks text).Has b → b.WellNested text := by
  refine ⟨(sits_contentsFrom text true [] (apart_tokensFrom 0 1 text)).children, fun b hb => ?_⟩
  obtain ⟨used, hused, hapart, hread⟩ := exists_readFrom hb
  exact hread.wellNested hapart hused.subset

/-- A table with indexes inside, a stray brace and a statement that is none. -/
def indexedTable : Text :=
  "Table a.t as x [note: 'n'] \x7b
  id int
  indexes \x7b
    (id,
 id) [pk]
    Note: 'n'
  \x7d
\x7d \x7d (y".toList

/-- The indexes of the table are a block inside it, well nested with their line and their
property. -/
theorem parseBlocks_wellNested_indexes : ∃ b, (parseBlocks indexedTable).Has b ∧
    b.keyword = "indexes".toList ∧ b.lines.length = 1 ∧ b.properties.length = 1 ∧
      b.WellNested indexedTable := by
  have hfound : (parseBlocks indexedTable).blocks.any (fun table => table.children.any fun b =>
      b.keyword = "indexes".toList ∧ b.lines.length = 1 ∧ b.properties.length = 1) = true := by
    decide +kernel
  obtain ⟨table, htable, hany⟩ := List.any_eq_true.1 hfound
  obtain ⟨b, hb, hall⟩ := List.any_eq_true.1 hany
  obtain ⟨hkeyword, hlines, hproperties⟩ := of_decide_eq_true hall
  have hhas : (parseBlocks indexedTable).Has b := .inner (.top htable) hb
  exact ⟨b, hhas, hkeyword, hlines, hproperties, (parseBlocks_wellNested indexedTable).2 b hhas⟩

end SchemaDiagram
