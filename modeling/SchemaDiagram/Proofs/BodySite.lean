import SchemaDiagram.Proofs.NewLines

/-! # The site of a body

A text falls apart at the braces of a block. Nothing runs out of the text up to the opening brace,
so any body that its closing brace ends may stand between them, if its own braces are balanced: the
block says the same but for its body, and the other blocks say the same.

* **`BodySite`** — a text that falls apart at the body of a block; `BodySite.Valid` that the tokens
  do so, too.
* **`Valid.site`** — a body whose braces are balanced is read at the site.
* **`Valid.view_block`** — what the block says with a body.
* **`exists_bodySite`** — every block with a keyword and braces has such a site; `exists_bodied`
  says what the blocks of the text are with another body there, and `exists_rebodied` so of a
  balanced one. -/

namespace SchemaDiagram

/-- A text that falls apart at the body of a block. The tokens behind the body are those of the text
behind it by itself. -/
structure BodySite where
  /-- The tokens before the block. -/
  before : List Token
  /-- The doc comments that wait for the block. -/
  doc : List Text
  /-- The first token of the block. -/
  head : Token
  /-- The tokens between the first one and the brace. -/
  header : List Token
  /-- The opening brace. -/
  brace : Token
  /-- The text up to the opening brace, with it. -/
  ahead : Text
  /-- The text from the closing brace on. -/
  behind : Text
  /-- The closing brace. -/
  close : Token
  /-- The tokens behind the block. -/
  after : List Token

namespace BodySite

/-- The text with a body at the site. -/
def text (p : BodySite) (X : Text) : Text := p.ahead ++ (X ++ p.behind)

/-- The place of a token behind the body in the whole text. -/
def shift (p : BodySite) (X : Text) : Token → Token :=
  Token.move (p.ahead ++ X).length (1 + (p.ahead ++ X).count '\n')

/-- The site of the block in the text with a body. -/
def site (p : BodySite) (X : Text) : Site :=
  { before := p.before
    doc := p.doc
    head := p.head
    header := p.header
    brace := p.brace
    body := tokensFrom p.ahead.length (1 + p.ahead.count '\n') (clean X)
    close := p.shift X p.close
    after := p.after.map (p.shift X) }

/-- The tokens fall apart as the text does, and the block is read with every balanced body. -/
structure Valid (p : BodySite) : Prop where
  /-- Nothing runs out of the text before the body. -/
  sealed : Sealed p.ahead
  /-- The tokens before the body are those of the text before it. -/
  ahead : tokenize (clean p.ahead) = p.before ++ p.head :: (p.header ++ [p.brace])
  /-- The tokens behind the body are those of the text behind it. -/
  behind : tokensFrom 0 0 (clean p.behind) = p.close :: p.after
  /-- The text before the body ends with the opening brace. -/
  opens : p.brace.kind = .openBrace ∧ p.brace.span.stop = p.ahead.length
  /-- The text behind the body starts with the closing brace. -/
  closes : p.close.kind = .closeBrace ∧ p.close.span.start = 0
  /-- No word goes on in the text behind the body. -/
  severs : Severs p.behind
  /-- The block starts with a word. -/
  head : p.head.kind = .word
  /-- Its header is a logical line. -/
  header : ∀ X, IsBalanced X → ∃ u,
    scanLine true [] (p.header ++ (p.site X).braced) = ⟨p.header, (p.site X).braced, u⟩

variable {p : BodySite} {X X' : Text}

/-- Moving the tokens behind a body keeps what they are read as. -/
theorem keeps_shift (p : BodySite) (X : Text) : Keeps (p.shift X) := Keeps.move _ _

/-- The tokens of a body are those of the body by itself, further on. -/
theorem body_site (p : BodySite) (X : Text) :
    (p.site X).body
      = (tokenize (clean X)).map (Token.move p.ahead.length (p.ahead.count '\n')) := by
  have hmove := tokensFrom_move 0 1 p.ahead.length (p.ahead.count '\n') (clean X)
  rwa [Nat.zero_add] at hmove

/-- The braces of a body are balanced at the site as they are by themselves. -/
theorem openBraces_body (p : BodySite) (X : Text) :
    openBraces 0 (p.site X).body = openBraces 0 (tokenize (clean X)) := by
  rw [body_site, openBraces_map (Keeps.move _ _)]

/-- **The tokens of the text with a body** are those at the site. -/
theorem Valid.tokens (h : p.Valid) (hX : Joint X p.behind) :
    tokenize (clean (p.text X)) = (p.site X).tokens := by
  have hmove :=
    tokensFrom_move 0 0 (p.ahead ++ X).length (1 + (p.ahead ++ X).count '\n') (clean p.behind)
  rw [h.behind, Nat.zero_add, Nat.zero_add] at hmove
  have hahead := h.ahead
  rw [tokenize] at hahead
  rw [tokenize, text, h.sealed.tokens, tokensFrom_clean_append hX h.severs, hahead, Nat.zero_add,
    ← List.length_append, Nat.add_assoc, ← List.count_append, hmove]
  simp [site, shift, Site.tokens, Site.own, Site.braced]

/-- The body is closed by its brace. -/
theorem Valid.closeBrace (h : p.Valid) (hX : HasBalancedBraces X) :
    closeBrace 0 ((p.site X).body ++ (p.site X).close :: (p.site X).after)
      = some ((p.site X).body, (p.site X).close, (p.site X).after) := by
  have hclose : (p.site X).close.kind = .closeBrace := h.closes.1
  rw [closeBrace_append ((p.openBraces_body X).trans hX), closeBrace_cons, if_pos ⟨hclose, rfl⟩]
  simp

/-- Other tokens with balanced braces may stand between the braces. -/
theorem stands_braced {brace : Token} (hbrace : brace.kind = .openBrace) {body body' : List Token}
    (hb : openBraces 0 body = some 0) (hb' : openBraces 0 body' = some 0) {f g : Token → Token}
    (hf : Keeps f) (hg : Keeps g) (rest : List Token) :
    Stands (brace :: (body ++ rest.map f)) (brace :: (body' ++ rest.map g)) := by
  refine ⟨rfl, ?_, fun depth => ?_⟩
  · rw [startsBlock_cons, startsBlock_cons, hbrace]
    rfl
  · rw [closeBrace_cons, closeBrace_cons, closeBrace_append hb, closeBrace_append hb',
      closeBrace_map hf, closeBrace_map hg, hbrace, if_neg (by simp), if_neg (by simp)]
    simp

/-- What stands from the opening brace on may have another body. -/
theorem Valid.stands_braced (h : p.Valid) (hX : HasBalancedBraces X) (hX' : HasBalancedBraces X') :
    Stands (p.site X).braced (p.site X').braced :=
  BodySite.stands_braced h.opens.1 ((p.openBraces_body X).trans hX)
    ((p.openBraces_body X').trans hX')
    (p.keeps_shift X) (p.keeps_shift X') (p.close :: p.after)

/-- Another body may stand at the site. -/
theorem Valid.stands (h : p.Valid) (hX : HasBalancedBraces X) (hX' : HasBalancedBraces X') :
    Stands (p.site X).own (p.site X').own :=
  (h.stands_braced hX hX').append (p.head :: p.header)

/-- **A body whose braces are balanced is read at the site.** -/
theorem Valid.site (h : p.Valid) (hX : HasBalancedBraces X) : (p.site X).Valid := by
  -- The header is a logical line before an empty body, so it is one before any other.
  have hnil : IsBalanced [] := by
    rw [IsBalanced, clean_nil, tokenize, tokensFrom_nil, balance_nil]
  obtain ⟨u, hscan⟩ := h.header [] hnil
  exact ⟨h.head, ⟨u, scanLine_swap hscan (h.stands_braced hnil.braces hX)⟩, h.opens.1,
    h.closeBrace hX⟩

/-! ## What the blocks say -/

/-- The text with a body is cleaned part by part. -/
theorem Valid.clean_text (h : p.Valid) (hX : Joint X p.behind) :
    clean (p.text X) = clean p.ahead ++ (clean X ++ clean p.behind) := by
  rw [text, (h.sealed.solid _).clean_append, hX.clean_append]

/-- A token before the body ends before it. -/
theorem Valid.bounds (h : p.Valid) {t : Token}
    (ht : t ∈ p.before ++ p.head :: (p.header ++ [p.brace])) :
    t.span.start ≤ (clean p.ahead).length ∧ t.span.stop ≤ (clean p.ahead).length := by
  rw [← h.ahead, tokenize] at ht
  have hle := bounds_of_mem_tokensFrom ht
  omega

/-- What stands before the block is the same with both bodies. -/
theorem Valid.alike_before (h : p.Valid) (hX : Joint X p.behind) (hX' : Joint X' p.behind) :
    Alike (clean (p.text X)) (clean (p.text X')) id id p.before := by
  rw [h.clean_text hX, h.clean_text hX']
  exact alike_ahead fun t ht => h.bounds (List.mem_append_left _ ht)

/-- What stands behind the block is the same with both bodies. -/
theorem Valid.alike_after (h : p.Valid) (hX : Joint X p.behind) (hX' : Joint X' p.behind) :
    Alike (clean (p.text X)) (clean (p.text X')) (p.shift X) (p.shift X') p.after := by
  have hlength : ∀ Y : Text, (p.ahead ++ Y).length = (clean p.ahead ++ clean Y).length := by simp
  have hparts : ∀ {Y : Text}, Joint Y p.behind →
      clean (p.text Y) = (clean p.ahead ++ clean Y) ++ (clean p.behind ++ []) := by
    intro Y hY
    rw [h.clean_text hY, List.append_assoc, List.append_nil]
  rw [shift, shift, hlength, hlength]
  refine alike_behind (hparts hX) (hparts hX') (fun t ht => ?_) _ _
  have hmem : t ∈ tokensFrom 0 0 (clean p.behind) := h.behind ▸ List.mem_cons_of_mem _ ht
  have hle := bounds_of_mem_tokensFrom hmem
  omega

/-- **A body says at the site what it says by itself.** -/
theorem Valid.view_body (h : p.Valid) (hX : Joint X p.behind) :
    (contentsFrom (clean (p.text X)) false [] (p.site X).body).view (clean (p.text X))
      = bodyView X := by
  -- The body stands at its place in the text, so its tokens are those of the body, moved.
  have hself : clean X = [] ++ (clean X ++ []) := by simp
  have hbounds : ∀ t ∈ tokenize (clean X),
      t.span.start ≤ (clean X).length ∧ t.span.stop ≤ (clean X).length := by
    intro t ht
    have hle := bounds_of_mem_tokensFrom ht
    omega
  have halike := alike_behind (h.clean_text hX) hself hbounds (p.ahead.count '\n') 0
  have hview := contentsFrom_view halike false []
  have hid : (tokenize (clean X)).map (Token.move ([] : Text).length 0) = tokenize (clean X) :=
    List.map_id _
  rw [length_clean, hid] at hview
  rw [body_site, hview, bodyView, bodyContents]

/-- Its values stand further on. -/
theorem valueSpans_body (p : BodySite) (s X : Text) :
    (contentsFrom s false [] (p.site X).body).valueSpans
      = (bodyContents X).valueSpans.map (·.shift p.ahead.length) := by
  rw [body_site, valueSpans_move s (clean X), bodyContents]

/-- The body stands between the braces. -/
theorem Valid.bodySpan (h : p.Valid) (s X : Text) :
    ((p.site X).block s).bodySpan = some (.behind p.ahead.length X) := by
  show some (Span.mk p.brace.span.stop (p.shift X p.close).span.start) = _
  rw [shift, Token.move_start, h.opens.2, h.closes.2, Nat.zero_add, List.length_append, Span.behind]

/-- It is the text of the body. -/
theorem Valid.bodyText (h : p.Valid) (s X : Text) :
    ((p.site X).block s).bodyText (p.text X) = X := by
  rw [Block.bodyText, h.bodySpan, Option.map_some, Option.getD_some]
  exact slice_behind rfl rfl

/-- What the block says without its body. -/
def blockView (p : BodySite) : BlockView :=
  { keyword := if p.head.kind = .word then p.head.value.lower else []
    name := (Header.ofTokens p.header).name
    aliasName := (Header.ofTokens p.header).aliasName
    settings := (Header.ofTokens p.header).settingsSpan.map (·.slice (clean p.ahead))
    braced := true
    body := none
    children := []
    lines := []
    properties := []
    doc := p.doc }

/-- **What the block says with a body.** -/
theorem Valid.view_block (h : p.Valid) (hX : Joint X p.behind) :
    ((p.site X).block (clean (p.text X))).view (clean (p.text X)) = { p.blockView with
      body := some (clean X)
      children := (bodyView X).children
      lines := (bodyView X).lines
      properties := (bodyView X).properties } := by
  have hview := h.view_body hX
  simp only [Contents.view] at hview
  -- The header stands ahead of the body, where nothing changes.
  have hheader : Alike (clean (p.text X)) (clean p.ahead ++ []) id id p.header := by
    rw [h.clean_text hX]
    exact alike_ahead fun t ht => h.bounds (by simp [ht])
  have hsettings := Header.settings_alike hheader
  rw [List.map_id, List.append_nil] at hsettings
  -- The span of the body cuts the cleaned body out of the cleaned text.
  have hbody : (Span.behind p.ahead.length X).slice (clean (p.text X)) = clean X := by
    have hspan : Span.behind p.ahead.length X = .behind p.ahead.length (clean X) := by
      rw [Span.behind, Span.behind, length_clean]
    rw [hspan]
    exact slice_behind (h.clean_text hX) (length_clean _).symm
  rw [Block.view, h.bodySpan, Option.map_some, hbody, ← hview]
  simp only [Site.block, makeBlock, BlockView.mk.injEq, blockView]
  exact ⟨rfl, rfl, rfl, hsettings, rfl, trivial, trivial, trivial, trivial, rfl⟩

end BodySite

/-! ## Every body has a site -/

/-- An opening brace is a token of its own. -/
theorem piece_openBrace (t : Text) : Piece (some .openBrace) ['\x7b'] t :=
  Piece.of_char (c := '\x7b') (by decide) (by decide) (by decide) (by decide) t

section

variable {text : Text} {w : Site}

/-- **The text falls apart at the braces of a block** as its tokens do. -/
theorem exists_bodySite (hvalid : w.Valid) (htokens : tokenize (clean text) = w.tokens) :
    ∃ (p : BodySite) (X post : Text), p.Valid ∧ p.behind = '\x7d' :: post ∧ p.text X = text ∧
      Joint X p.behind ∧ HasBalancedBraces X ∧ p.site X = w := by
  have htext : tokensFrom 0 1 (clean text) = (w.before ++ w.head :: w.header) ++
      w.brace :: (w.body ++ w.close :: w.after) := by
    rw [← tokenize, htokens, Site.tokens, Site.own, Site.braced]
    simp
  -- The text is cut at the opening brace, and behind it at the closing one.
  obtain ⟨A, k, x, s, rfl, hA, hpiece, htokA, hbrace, htokB⟩ :=
    exists_boundary_of_token htext (by rw [hvalid.brace]; decide)
  obtain rfl : k = .openBrace := by
    rw [← hvalid.brace, hbrace]
    rfl
  obtain rfl : x = ['\x7b'] := hpiece.eq_char (c := '\x7b') (by decide)
  have hclose := kind_of_closeBrace hvalid.close
  obtain ⟨X, k, x, post, rfl, hX, hpiece', htokX, hclosing, htokB'⟩ :=
    exists_boundary_of_token htokB (by rw [hclose]; decide)
  obtain rfl : k = .closeBrace := by
    rw [← hclose, hclosing]
    rfl
  obtain rfl : x = ['\x7d'] := hpiece'.eq_char (c := '\x7d') (by decide)
  -- A brace ends a word and is part of no arrow.
  have hword : isWordChar '\x7b' = false ∧ '\x7b' ≠ '>' := by decide
  have hcount : (['\x7b'] : Text).count '\n' = 0 := by decide
  have hcount' : (['\x7d'] : Text).count '\n' = 0 := by decide
  simp only [Nat.zero_add, List.length_singleton, hcount, hcount', Nat.add_zero]
    at hbrace htokX hclosing htokB'
  -- What stands ahead of the body is what stands before the brace, and the brace.
  let p : BodySite :=
    { before := w.before
      doc := w.doc
      head := w.head
      header := w.header
      brace := w.brace
      ahead := A ++ ['\x7b']
      behind := '\x7d' :: post
      close := pieceToken .closeBrace ['\x7d'] 0 0
      after := tokensFrom 1 0 (clean post) }
  have hlength : (p.ahead ++ X).length = A.length + 1 + X.length := by
    simp [p, Nat.add_comm, Nat.add_left_comm]
  have hlines : 1 + (p.ahead ++ X).count '\n' = 1 + A.count '\n' + X.count '\n' := by
    simp [p, Nat.add_assoc]
  -- The site with this body is the one of the tokens.
  have hsite : p.site X = w := by
    have hbody : tokensFrom p.ahead.length (1 + p.ahead.count '\n') (clean X) = w.body := by
      rw [← htokX]
      simp [p]
    have hclosing' : p.shift X p.close = w.close := by
      rw [hclosing, BodySite.shift, hlength, hlines]
      simp [p, pieceToken, Lexeme.toToken, Token.move, Span.shift, Nat.add_comm 1]
    have hafter : p.after.map (p.shift X) = w.after := by
      have hmove :=
        tokensFrom_move 1 0 (p.ahead ++ X).length (1 + (p.ahead ++ X).count '\n') (clean post)
      rw [BodySite.shift, ← hmove, ← htokB', hlength, hlines, Nat.zero_add,
        Nat.add_comm 1 (_ + X.length)]
    cases w
    simp only [BodySite.site, Site.mk.injEq] at hbody hclosing' hafter ⊢
    exact ⟨rfl, rfl, rfl, rfl, rfl, hbody, hclosing', hafter⟩
  -- The closing brace is the first one that closes the body.
  have hbraces : HasBalancedBraces X := by
    have hopen := openBraces_of_closeBrace hvalid.close
    rwa [← hsite, p.openBraces_body] at hopen
  refine ⟨p, X, post,
    ⟨hA.sealed piece_openBrace hword, ?_, ?_, ?_, ⟨rfl, rfl⟩, ?_, hvalid.head, ?_⟩, rfl, ?_, hX,
    hbraces, hsite⟩
  · -- The tokens ahead are those before the brace, and the brace.
    have hsnoc := hA.tokensFrom_snoc piece_openBrace hword [] 0 1
    rw [List.append_nil, htokA, clean_nil, tokensFrom_nil, Nat.zero_add, ← hbrace] at hsnoc
    rw [tokenize, hsnoc]
    simp [p]
  · -- The tokens behind are the closing brace and those of the rest.
    have happend := hpiece'.tokensFrom_append 0 0
    rw [hpiece'.tokensFrom_eq, hcount'] at happend
    exact happend
  · -- The body starts where the opening brace stops.
    refine ⟨hvalid.brace, ?_⟩
    show w.brace.span.stop = _
    rw [hbrace]
    simp [p, pieceToken, Lexeme.toToken]
  · intro c hc
    obtain rfl := Option.some.inj hc
    decide
  · -- With any other body whose braces are balanced, the header is scanned in the same way.
    intro X' hX'
    obtain ⟨u, hscan⟩ := hvalid.header
    rw [← hsite] at hscan
    exact ⟨u, scanLine_swap hscan (BodySite.stands_braced hvalid.brace
      ((p.openBraces_body X).trans hbraces) ((p.openBraces_body X').trans hX'.braces)
      (p.keeps_shift X)
      (p.keeps_shift X') (p.close :: p.after))⟩
  · simp [BodySite.text, p]

/-- **Every block with a keyword and braces has a site**, and another body there leaves the other
blocks as they were, if its own braces are balanced. -/
theorem exists_bodied {front back : List Block} {b : Block}
    (h : (parseBlocks (clean text)).blocks = front ++ b :: back)
    (hbrace : b.openBrace.isSome = true) (hkeyword : b.keyword ≠ []) :
    ∃ (p : BodySite) (X post : Text), p.Valid ∧ p.behind = '\x7d' :: post ∧ p.text X = text ∧
      Joint X p.behind ∧ b = (p.site X).block (clean text) ∧
      ∀ X', HasBalancedBraces X' → Joint X' p.behind → ∃ front' back',
        (parseBlocks (clean (p.text X'))).blocks
          = front' ++ (p.site X').block (clean (p.text X')) :: back' ∧
        front'.map (Block.view (clean (p.text X'))) = front.map (Block.view (clean text)) ∧
        back'.map (Block.view (clean (p.text X'))) = back.map (Block.view (clean text)) := by
  obtain ⟨w, hvalid, htokens, rfl, rfl, hswap⟩ := exists_site h hbrace hkeyword
  obtain ⟨p, X, post, hp, hpost, rfl, hX, hbraces, rfl⟩ := exists_bodySite hvalid htokens
  refine ⟨p, X, post, hp, hpost, rfl, hX, rfl, fun X' hX' hjoint => ?_⟩
  obtain ⟨front', hchildren, hfront⟩ := hswap (clean (p.text X')) (p.site X').own
    (hp.stands hbraces hX') (hp.alike_before hX hjoint)
  have htokens' : tokenize (clean (p.text X')) = p.before ++ (p.site X').own := hp.tokens hjoint
  have hdoc : (p.site X).doc = (p.site X').doc := rfl
  have hbefore : (p.site X).before = p.before := rfl
  rw [hbefore, hdoc, (hp.site hX').children, ← htokens'] at hchildren
  refine ⟨front', _, hchildren, hfront, ?_⟩
  have hback := contentsFrom_view (hp.alike_after hX hjoint) true []
  exact (congrArg ContentsView.children hback).symm

/-- **Every block with a keyword and a balanced body has a site**, and another balanced body there
leaves the other blocks as they were. -/
theorem exists_rebodied {front back : List Block} {b : Block}
    (h : (parseBlocks (clean text)).blocks = front ++ b :: back)
    (hbrace : b.openBrace.isSome = true) (hkeyword : b.keyword ≠ [])
    (hbalance : IsBalanced (b.bodyText text)) :
    ∃ (p : BodySite) (X post : Text), p.Valid ∧ p.behind = '\x7d' :: post ∧ p.text X = text ∧
      Joint X p.behind ∧ IsBalanced X ∧ b = (p.site X).block (clean text) ∧
      ∀ X', IsBalanced X' → Joint X' p.behind → ∃ front' back',
        (parseBlocks (clean (p.text X'))).blocks
          = front' ++ (p.site X').block (clean (p.text X')) :: back' ∧
        front'.map (Block.view (clean (p.text X'))) = front.map (Block.view (clean text)) ∧
        back'.map (Block.view (clean (p.text X'))) = back.map (Block.view (clean text)) := by
  obtain ⟨p, X, post, hp, hpost, rfl, hX, rfl, hbodied⟩ := exists_bodied h hbrace hkeyword
  rw [hp.bodyText] at hbalance
  exact ⟨p, X, post, hp, hpost, rfl, hX, hbalance, rfl, fun X' hX' => hbodied X' hX'.braces⟩

end

end SchemaDiagram
