import SchemaDiagram.Proofs.Views

/-! # The site of a block

A block that is found among the top-level tokens stands at a *site*: the tokens before it, its own
tokens in their parts, and the tokens behind it. Other tokens put in place of its own and of those
behind it leave the blocks before it as they were.

* **`Site`** — the parts of the tokens around a block; `Site.Valid` that they are those of a block.
* **`Block.strayTokens`** — the tokens that the header of a block has no place for.
* **`exists_items`**, **`exists_site`** — every top-level block with a keyword and braces has a
  site, and the blocks before it are those of the items that are found there.
* **`Site.swap`** — what is read when other tokens stand at the site. -/

namespace SchemaDiagram

/-- The parts of the tokens around a block. -/
structure Site where
  /-- The tokens before the block. -/
  before : List Token
  /-- The doc comments that wait for the block. -/
  doc : List Text
  /-- The first token of the block. -/
  head : Token
  /-- The tokens between the first one and the brace. -/
  header : List Token
  /-- The opening brace. -/
  brace : Token
  /-- The tokens between the braces. -/
  body : List Token
  /-- The closing brace. -/
  close : Token
  /-- The tokens behind the block. -/
  after : List Token

namespace Site

/-- The tokens from the opening brace on. -/
def braced (w : Site) : List Token := w.brace :: (w.body ++ w.close :: w.after)

/-- The tokens from the first token of the block on. -/
def own (w : Site) : List Token := w.head :: (w.header ++ w.braced)

/-- All tokens. -/
def tokens (w : Site) : List Token := w.before ++ w.own

/-- The parts are those of a block that starts with a word. -/
structure Valid (w : Site) : Prop where
  /-- The block starts with a word. -/
  head : w.head.kind = .word
  /-- Its header is a logical line. -/
  header : ∃ u, scanLine true [] (w.header ++ w.braced) = ⟨w.header, w.braced, u⟩
  /-- The line ends at an opening brace. -/
  brace : w.brace.kind = .openBrace
  /-- The brace is closed. -/
  close : closeBrace 0 (w.body ++ w.close :: w.after) = some (w.body, w.close, w.after)

/-- The block at the site. -/
def block (source : Text) (w : Site) : Block :=
  makeBlock w.doc w.head (.ofTokens w.header) w.brace w.close (contentsFrom source false [] w.body)

/-- A valid site is read in one step. -/
theorem Valid.step {w : Site} (h : w.Valid) :
    Step true w.doc w.own (.block w.head w.header w.brace w.body w.close) [] w.after := by
  obtain ⟨u, hscan⟩ := h.header
  have hopened : openedBy w.head = [] := by
    rw [openedBy, h.head]
    rfl
  have hstart : w.head.kind.startsStatement = true := by
    rw [h.head]
    rfl
  exact .block (u := u) hstart (hopened ▸ hscan) h.brace h.close

/-- The blocks from a valid site on. -/
theorem Valid.children {w : Site} (h : w.Valid) (source : Text) :
    (contentsFrom source true w.doc w.own).children
      = w.block source :: (contentsFrom source true [] w.after).children := by
  obtain ⟨_, hstep⟩ := contentsFrom_of_step h.step source
  rw [hstep]
  rfl

end Site

/-! ## The tokens of a header -/

/-- The tokens between the first token of a block and its brace. -/
def Block.headerTokens (text : Text) (b : Block) : List Token :=
  (tokenize text).filter fun t =>
    b.span.start < t.span.start && t.span.start < b.openBrace.getD b.span.stop

/-- The tokens that the header of a block has no place for. -/
def Block.strayTokens (text : Text) (b : Block) : List Token :=
  (Header.ofTokens (b.headerTokens text)).leftovers

/-- The tokens of a text stand one behind the other. -/
theorem pairwise_tokensFrom (o l : Nat) (s : Text) :
    (tokensFrom o l s).Pairwise fun t u => t.span.start < u.span.start := by
  fun_induction tokensFrom o l s with
  | case1 => exact List.Pairwise.nil
  | case2 => assumption
  | case3 o l c rest hc lexeme ih =>
    refine List.pairwise_cons.2 ⟨fun u hu => ?_, ih⟩
    have hle := (bounds_of_mem_tokensFrom hu).1
    have hpos : 0 < lexeme.text.length := List.length_pos_iff.2 (Lexeme.text_first_ne_nil c rest)
    have hstart : (lexeme.toToken o l).span.start = o := rfl
    omega

/-- The tokens of the header of a block at a site. -/
theorem Site.headerTokens_block {w : Site} {s : Text} (h : tokenize s = w.tokens) :
    (w.block s).headerTokens s = w.header := by
  -- The tokens stand one behind the other, which tells those between the word and the brace.
  have hsorted := pairwise_tokensFrom 0 1 s
  rw [← tokenize, h] at hsorted
  simp only [tokens, own, braced, List.pairwise_append, List.pairwise_cons, List.mem_append,
    List.mem_cons] at hsorted
  obtain ⟨-, ⟨hhead, -, ⟨hbrace, -⟩, hheader⟩, hbefore⟩ := hsorted
  -- What stands before the block is before the word.
  have hfront : w.before.filter (fun t => w.head.span.start < t.span.start &&
      t.span.start < w.brace.span.start) = [] := by
    refine List.filter_eq_nil_iff.2 fun t ht => ?_
    have := hbefore t ht w.head (.inl rfl)
    simp
    omega
  -- The header is between the two.
  have hmid : w.header.filter (fun t => w.head.span.start < t.span.start &&
      t.span.start < w.brace.span.start) = w.header := by
    refine List.filter_eq_self.2 fun t ht => ?_
    have := hhead t (.inl ht)
    have := hheader t ht w.brace (.inl rfl)
    simp
    omega
  -- The body and what follows are behind the brace.
  have hback : (w.body ++ w.close :: w.after).filter (fun t => w.head.span.start < t.span.start &&
      t.span.start < w.brace.span.start) = [] := by
    refine List.filter_eq_nil_iff.2 fun t ht => ?_
    have := hbrace t (by simpa using ht)
    simp
    omega
  have hspan : (w.block s).span.start = w.head.span.start := rfl
  have hopen : (w.block s).openBrace.getD (w.block s).span.stop = w.brace.span.start := rfl
  rw [Block.headerTokens, hspan, hopen, h, tokens, own, braced, List.filter_append, hfront,
    List.filter_cons_of_neg (by simp), List.filter_append, hmid, List.filter_cons_of_neg (by simp),
    hback]
  simp

/-- Nothing is moved where every token stays as it is. -/
theorem Item.map_id (item : Item) : item.map id = item := by
  cases item <;> simp [Item.map]

/-- A reference on one line has neither a settings list nor braces. -/
theorem bare_of_readShortRef {source : Text} {doc : List Text} {t : Token}
    {others : List Token} {b : Block} (h : readShortRef source doc t others = .ok b) :
    b.settingsSpan = none ∧ b.openBrace = none := by
  unfold readShortRef at h
  dsimp only at h
  split at h
  next => cases h
  next =>
    split at h
    next =>
      cases h
      exact ⟨rfl, rfl⟩
    next => cases h

/-- **A block with a keyword and braces is found with its parts.** -/
theorem Step.block_of_blocks {s : Text} {doc doc' : List Text} {tokens rest : List Token}
    {item : Item} (h : Step true doc tokens item doc' rest) {b : Block}
    (hitem : item.blocks s true doc = [b]) (hbrace : b.openBrace.isSome = true)
    (hkeyword : b.keyword ≠ []) :
    ∃ w : Site, w.Valid ∧ w.before = [] ∧ w.doc = doc ∧ w.own = tokens ∧ w.after = rest ∧
      doc' = [] ∧ b = w.block s := by
  cases h with
  -- A body without a header has no keyword.
  | @bareBlock t _ body _ close hkind =>
    obtain rfl : makeBlock doc t (.ofTokens []) t close (contentsFrom s false [] body) = b :=
      List.cons.inj hitem |>.1
    exact absurd (if_neg (by rw [hkind]; decide)) hkeyword
  | @block t others segment behind body _ brace close u hstart hscan hopen hclose =>
    obtain rfl : makeBlock doc t (.ofTokens segment) brace close (contentsFrom s false [] body)
        = b :=
      List.cons.inj hitem |>.1
    -- A block with a keyword starts with a word, which opens nothing.
    have hword : t.kind = .word := by
      by_contra hne
      exact hkeyword (if_neg hne)
    have hopened : openedBy t = [] := by
      rw [openedBy, hword]
      rfl
    -- The tokens taken are the header, the brace, the body and the closing brace.
    have hothers := scanLine_append true (openedBy t) others
    have hbehind := eq_of_closeBrace hclose
    rw [hopened] at hscan hothers
    rw [hscan, hbehind] at hothers
    rw [← hothers, hbehind] at hscan
    rw [hbehind] at hclose
    refine ⟨⟨[], doc, t, segment, brace, body, close, rest⟩,
      ⟨hword, ⟨u, hscan⟩, hopen, hclose⟩, rfl, rfl, ?_, rfl, rfl, rfl⟩
    rw [← hothers]
    rfl
  | @line t _ segment =>
    -- A reference on one line has no brace.
    cases href : readShortRef s doc t segment with
    | ok block =>
      have hblocks : (Item.line t segment).blocks s true doc = [block] := by
        simp [Item.blocks, Item.add, addStatement, href, Contents.addBlock, Contents.empty]
      rw [hblocks] at hitem
      rw [← (List.cons.inj hitem).1, (bare_of_readShortRef href).2] at hbrace
      cases hbrace
    -- What is no reference makes no block.
    | error problems =>
      have hblocks : (Item.line t segment).blocks s true doc = [] := by
        simp [Item.blocks, Item.add, addStatement, href, Contents.report, Contents.empty]
      rw [hblocks] at hitem
      cases hitem
  | _ => cases hitem

/-- The blocks of the items before a site, with the doc comments that wait for each. -/
def blocksOf (source : Text) (items : List (List Text × Item)) : List Block :=
  items.flatMap fun e => e.2.blocks source true e.1

/-- The items before a site say the same in a text that is the same there. -/
theorem blocksOf_view {s s' : Text} {tokens : List Token} (h : Alike s s' id id tokens)
    {items : List (List Text × Item)}
    (hitems : ∀ e ∈ items, e.2.Bare ∧ ∀ u ∈ e.2.tokens, u ∈ tokens) :
    (blocksOf s' items).map (Block.view s') = (blocksOf s items).map (Block.view s) := by
  rw [blocksOf, blocksOf, List.map_flatMap, List.map_flatMap, List.flatMap_def, List.flatMap_def]
  refine congrArg List.flatten (List.map_congr_left fun e he => ?_)
  obtain ⟨hbare, hmem⟩ := hitems e he
  have hview := Item.blocks_view (h.mono hmem) hbare true e.1
  rw [Item.map_id] at hview
  exact hview.symm

/-- Of blocks that start with at most one, a block is that one or stands behind it. -/
theorem block_cases {found rest front back : List Block} {b : Block} (hlen : found.length ≤ 1)
    (h : found ++ rest = front ++ b :: back) : (front = [] ∧ found = [b] ∧ rest = back) ∨
      ∃ front', front = found ++ front' ∧ rest = front' ++ b :: back := by
  rcases List.append_eq_append_iff.1 h with ⟨mid, hfront, hrest⟩ | ⟨mid, hfound, hback⟩
  · exact .inr ⟨mid, hfront, hrest⟩
  · cases mid with
    | nil => exact .inr ⟨[], by simpa using hfound.symm, by simpa using hback.symm⟩
    | cons c mid =>
      obtain ⟨rfl, rfl⟩ := List.cons.inj hback
      rw [hfound, List.length_append, List.length_cons] at hlen
      have hfront : front = [] := List.length_eq_zero_iff.1 (by omega)
      have hmid : mid = [] := List.length_eq_zero_iff.1 (by omega)
      exact .inl ⟨hfront, by rw [hfound, hfront, hmid]; rfl, by rw [hmid]; rfl⟩

/-- **Every top-level block with a keyword and braces has a site**, and the blocks before it are
those of the items that are found there. Other tokens may stand at the site in place of its own
ones. -/
theorem exists_items {s : Text} {doc : List Text} {tokens : List Token} {front back : List Block}
    {b : Block} (h : (contentsFrom s true doc tokens).children = front ++ b :: back)
    (hbrace : b.openBrace.isSome = true) (hkeyword : b.keyword ≠ []) :
    ∃ (w : Site) (items : List (List Text × Item)), w.Valid ∧ tokens = w.tokens ∧ b = w.block s ∧
      front = blocksOf s items ∧ back = (contentsFrom s true [] w.after).children ∧
      (∀ e ∈ items, e.2.Bare ∧ ∀ u ∈ e.2.tokens, u ∈ w.before) ∧
      ∀ (s' : Text) (own' : List Token), Stands w.own own' →
        (contentsFrom s' true doc (w.before ++ own')).children
          = blocksOf s' items ++ (contentsFrom s' true w.doc own').children := by
  induction doc, tokens using steps_induction true generalizing front with
  | nil doc => simp [Contents.empty] at h
  | step doc t others item doc' rest hstep ih =>
    obtain ⟨_, hcontents⟩ := contentsFrom_of_step hstep s
    have hchildren : item.blocks s true doc ++ (contentsFrom s true doc' rest).children
        = front ++ b :: back := by
      rw [← Item.children_add, ← h, hcontents]
      rfl
    rcases block_cases (item.length_blocks s true doc) hchildren with
      ⟨rfl, hitem, hback⟩ | ⟨front', rfl, hrest⟩
    · obtain ⟨w, hvalid, hbefore, rfl, hown, rfl, rfl, hb⟩ :=
        hstep.block_of_blocks hitem hbrace hkeyword
      refine ⟨w, [], hvalid, by rw [Site.tokens, hbefore, hown]; rfl, hb, rfl, hback.symm, by simp,
        fun s' own' _ => ?_⟩
      rw [hbefore]
      rfl
    · obtain ⟨w, items, hvalid, rfl, hb, rfl, hback, hitems, hswap⟩ :=
        ih hrest
      obtain ⟨used, hused, -, hmem⟩ := hstep.exists_used
      refine ⟨{ w with before := used ++ w.before }, (doc, item) :: items,
        ⟨hvalid.head, hvalid.header, hvalid.brace, hvalid.close⟩, ?_, hb, rfl, hback, ?_, ?_⟩
      · rw [hused]
        exact (List.append_assoc ..).symm
      · intro e he
        rcases List.mem_cons.1 he with rfl | he
        · exact ⟨hstep.bare, fun u hu => List.mem_append_left _ (hmem u hu)⟩
        · obtain ⟨hbare, hsub⟩ := hitems e he
          exact ⟨hbare, fun u hu => List.mem_append_right _ (hsub u hu)⟩
      · intro s' own' hstands
        have hstands' : Stands (w.before ++ w.own) (w.before ++ own') := hstands.append w.before
        rw [hused] at hstep
        have hstep' : Step true doc (used ++ (w.before ++ own')) item doc' (w.before ++ own') :=
          hstep.swap hstands'
        -- The same step in front of the other tokens finds the same item.
        obtain ⟨_, hcontents'⟩ := contentsFrom_of_step hstep' s'
        have hlater := hswap s' own' hstands
        have hfound : blocksOf s' ((doc, item) :: items)
            = item.blocks s' true doc ++ blocksOf s' items := List.flatMap_cons ..
        rw [List.append_assoc, hcontents', hfound, List.append_assoc, ← hlater, ← Item.children_add]
        rfl

/-- **Every top-level block with a keyword and braces has a site.** Other tokens may stand at the
site in place of its own ones and leave the blocks before it as they were. -/
theorem exists_site {s : Text} {doc : List Text} {tokens : List Token} {front back : List Block}
    {b : Block} (h : (contentsFrom s true doc tokens).children = front ++ b :: back)
    (hbrace : b.openBrace.isSome = true) (hkeyword : b.keyword ≠ []) :
    ∃ w : Site, w.Valid ∧ tokens = w.tokens ∧ b = w.block s ∧
      back = (contentsFrom s true [] w.after).children ∧
      ∀ (s' : Text) (own' : List Token), Stands w.own own' → Alike s s' id id w.before →
        ∃ front', (contentsFrom s' true doc (w.before ++ own')).children
            = front' ++ (contentsFrom s' true w.doc own').children ∧
          front'.map (Block.view s') = front.map (Block.view s) := by
  obtain ⟨w, items, hvalid, htokens, hb, rfl, hback, hitems, hswap⟩ :=
    exists_items h hbrace hkeyword
  exact ⟨w, hvalid, htokens, hb, hback, fun s' own' hstands halike =>
    ⟨blocksOf s' items, hswap s' own' hstands, blocksOf_view halike hitems⟩⟩

end SchemaDiagram
