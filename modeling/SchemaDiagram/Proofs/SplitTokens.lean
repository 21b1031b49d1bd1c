import SchemaDiagram.Proofs.Extent
import SchemaDiagram.Proofs.PartItems

/-! # Splitting at comma tokens

A literal is read to its end by the tokenizer. The scanners of a settings list read it character by
character: one that splits at commas and knows backslashes, and two that look for a colon and for a
bracket and know quotes only. Neither knows literals in three quotes. A literal is whole to a
scanner when it holds no mark that the scanner could take for its end.

Where the literals of a list are plain, splitting it by its characters is the same as splitting it
at its comma tokens outside brackets and parentheses, so that every literal lies in one item, and
where a literal holds no quote of its own, in the key or in the value of the item.

* **`Lexed k x`** — the shapes of lexemes.
* **`isPlainLiteral x`** and **`pass?_plainLiteral`** — a literal that the splitting does not cut.
* **`isFirmLiteral x`** and **`Quoted x`** — a literal that is whole where a backslash has no
  meaning.
* **`Quoted.firstColon?`** — no colon is found in such a literal.
* **`tokenChunks`** — the spans between comma tokens, and `chunks_eq_tokenChunks`.
* **`KeepsLiterals s`** and **`splitSettings_keepsLiterals`** — every literal stays whole. -/

namespace SchemaDiagram

open SplitState (outside)

/-! ## Lexemes by shape -/

/-- The shapes of lexemes. -/
inductive Lexed : TokenKind → Text → Prop
  | newline : Lexed .newline ['\n']
  | doc (x : Text) : Lexed .doc ('/' :: '/' :: '/' :: x)
  | string (x : Text) : Lexed .string x
  | word {x : Text} (h : ∀ c ∈ x, isWordChar c = true) : Lexed .word x
  | arrow : Lexed .operator ['<', '>']
  | char {c : Char} (hq : isQuoteChar c = false) : Lexed (.ofChar c) [c]

/-- **Every lexeme has one of the shapes.** -/
theorem Lexeme.lexed_first (c : Char) (rest : Text) :
    Lexed (Lexeme.first c rest).kind (Lexeme.first c rest).text := by
  -- The branches of the scanner, in their order.
  by_cases hline : c = '\n'
  · rw [hline, first_newline]
    exact .newline
  by_cases hdoc : "///".toList.isPrefixOf (c :: rest) = true
  · obtain ⟨s, hs⟩ := List.isPrefixOf_iff_prefix.1 hdoc
    obtain ⟨rfl, rfl⟩ := List.cons.inj hs
    exact first_doc s ▸ .doc _
  cases ho : Quote.opening? (c :: rest) with
  | some q =>
    rw [first_string ho]
    exact .string _
  | none =>
    by_cases hword : isWordChar c = true
    · rw [first_word hword]
      exact .word fun d hd => List.mem_takeWhile_imp hd
    by_cases harrow : "<>".toList.isPrefixOf (c :: rest) = true
    · obtain ⟨s, hs⟩ := List.isPrefixOf_iff_prefix.1 harrow
      obtain ⟨rfl, rfl⟩ := List.cons.inj hs
      exact first_arrow s ▸ .arrow
    · have hfirst : first c rest = ⟨.ofChar c, [c], rest⟩ := by
        simp only [first, hline, if_false, hdoc, ho, hword, harrow]
        rfl
      rw [hfirst]
      exact .char (Quote.opening?_eq_none_iff.1 ho)

/-- A lexeme of the kind of a character that is the only one of its kind is that character. -/
theorem Lexed.eq_char {c : Char} (hc : c ∈ loneChars) {x : Text} (h : Lexed (.ofChar c) x) :
    x = [c] := by
  have hkind := ofChar_of_mem_loneChars hc
  generalize hk : TokenKind.ofChar c = kind at h hkind
  cases h with
  | @char d => rw [eq_of_ofChar hc hk.symm]
  | newline | doc | string | word | arrow => exact absurd (by decide) hkind

/-! ## Closed literals -/

/-- The text between the marks of a literal. -/
def Quote.inner (q : Quote) (x : Text) : Text := x.slice q.mark.length (x.length - q.mark.length)

/-- What stands between the marks of a literal is its inner text. -/
theorem Quote.inner_eq (q : Quote) (t : Text) : q.inner (q.mark ++ (t ++ q.mark)) = t := by
  have hlen : (q.mark ++ (t ++ q.mark)).length - q.mark.length - q.mark.length = t.length := by
    simp only [List.length_append]
    omega
  rw [inner, Text.slice, List.drop_left, hlen, List.take_left]

/-- Whether a literal is closed by its mark. -/
def isWholeLiteral (x : Text) : Bool :=
  match Quote.opening? x with
  | some q => (q.literal (x ++ [' '])).1 == x
  | none => false

/-- **A closed literal** is a text between two marks of its quote, which ends at the second one. -/
theorem exists_inner {x : Text} (h : isWholeLiteral x = true) :
    ∃ (q : Quote) (t : Text), Quote.opening? x = some q ∧ x = q.mark ++ (t ++ q.mark) ∧
      ∀ z, q.finish (t ++ q.mark ++ z) = (t ++ q.mark, z) := by
  rw [isWholeLiteral] at h
  cases ho : Quote.opening? x with
  | none => rw [ho] at h; cases h
  | some q =>
    rw [ho] at h
    obtain ⟨body, rfl⟩ := Quote.isPrefix_of_opening? ho
    have hlit := eq_of_beq h
    rw [List.append_assoc] at hlit
    obtain ⟨⟨t, rfl⟩, hz⟩ := Quote.closed_of_literal hlit
    exact ⟨q, t, rfl, rfl, hz⟩

/-! ## Literals that are not split -/

/-- Whether the character stands in a text behind a backslash only, and no backslash is left
over. -/
def onlyEscaped (m : Char) : Text → Bool
  | [] => true
  | c :: rest =>
    if c = '\\' then
      match rest with
      | [] => false
      | _ :: rest => onlyEscaped m rest
    else c != m && onlyEscaped m rest

/-- Whether a literal is closed, and one in three quotes holds no other quote without a
backslash. -/
def isPlainLiteral (x : Text) : Bool :=
  isWholeLiteral x &&
    (Quote.opening? x != some .triple || onlyEscaped '\x27' (Quote.triple.inner x))

/-- A literal with escaped marks only is passed in its quotes. -/
theorem pass?_onlyEscaped {t : Text} (h : onlyEscaped '\x27' t = true) (depth : Nat) :
    SplitState.pass? ⟨some '\x27', false, depth⟩ t = some ⟨some '\x27', false, depth⟩ := by
  fun_induction onlyEscaped '\x27' t with
  | case1 => rfl
  | case2 => cases h
  | case3 c rest ih =>
    rw [SplitState.pass?_quoted, SplitState.behind_backslash (by decide), SplitState.pass?_quoted,
      SplitState.behind_escaped]
    exact ih h
  | case4 c rest hc ih =>
    rw [Bool.and_eq_true, bne_iff_ne] at h
    rw [SplitState.pass?_quoted, SplitState.behind_quoted (fun hb => hc hb.1), if_neg h.1]
    exact ih h.2

/-- **Nothing in a plain literal splits**, and nothing is open behind it. -/
theorem pass?_plainLiteral {x : Text} (h : isPlainLiteral x = true) (depth : Nat) :
    SplitState.pass? ⟨none, false, depth⟩ x = some ⟨none, false, depth⟩ := by
  rw [isPlainLiteral, Bool.and_eq_true] at h
  obtain ⟨hwhole, hplain⟩ := h
  obtain ⟨q, t, ho, rfl, hz⟩ := exists_inner hwhole
  by_cases hq : q = .triple
  · subst hq
    rw [ho, bne_self_eq_false, Bool.false_or, Quote.inner_eq] at hplain
    -- Two quotes open and close, the third one opens; behind the text it is the other way round.
    have hopen : SplitState.pass? ⟨none, false, depth⟩ Quote.triple.mark
        = some ⟨some '\x27', false, depth⟩ := by
      simp [Quote.mark, SplitState.pass?, SplitState.behind, isQuoteChar]
    have hclose : SplitState.pass? ⟨some '\x27', false, depth⟩ Quote.triple.mark
        = some ⟨none, false, depth⟩ := by
      simp [Quote.mark, SplitState.pass?, SplitState.behind, isQuoteChar]
    rw [SplitState.pass?_append_of hopen,
      SplitState.pass?_append_of (pass?_onlyEscaped hplain depth), hclose]
  · obtain ⟨m, hquote, -, hmark⟩ := q.exists_char
    have hm := hmark hq
    have hcomma : m ≠ ',' := by
      rintro rfl
      exact absurd hquote (by decide)
    rw [hm, List.singleton_append, SplitState.pass?_cons _ hcomma, SplitState.behind_quote hquote,
      ← hm, pass?_literal hm (hz [' '])]

/-! ## Literals without a mark of their own -/

/-- Whether a literal is closed and holds no character of its marks but theirs. -/
def isFirmLiteral (x : Text) : Bool :=
  isWholeLiteral x &&
    match Quote.opening? x with
    | some q => (q.inner x).all fun c => !q.mark.contains c
    | none => false

/-- A sequence of texts between quotes, none of which holds its quote. -/
inductive Quoted : Text → Prop
  | nil : Quoted []
  | cons {m : Char} {t x : Text} (hm : isQuoteChar m = true) (ht : ∀ c ∈ t, c ≠ m) (hx : Quoted x) :
      Quoted (m :: (t ++ m :: x))

/-- **A firm literal is quoted**: one in three quotes, between two pairs of quotes. -/
theorem quoted_of_firm {x : Text} (h : isFirmLiteral x = true) : Quoted x := by
  rw [isFirmLiteral, Bool.and_eq_true] at h
  obtain ⟨hwhole, hfirm⟩ := h
  obtain ⟨q, t, ho, rfl, -⟩ := exists_inner hwhole
  rw [ho] at hfirm
  dsimp only at hfirm
  rw [Quote.inner_eq, List.all_eq_true] at hfirm
  obtain ⟨m, hm, hchar, hsingle⟩ := q.exists_char
  -- What is firm holds no quotation mark of its own kind.
  have ht : ∀ c ∈ t, c ≠ m := by
    rintro c hc rfl
    obtain ⟨d, hd⟩ := List.exists_mem_of_ne_nil _ q.mark_ne_nil
    have hnot := hfirm c hc
    rw [hchar d hd] at hd
    simp [hd] at hnot
  by_cases hq : q = .triple
  · -- Three quotes are an empty pair and a quote that opens the text, and the other way round
    -- behind.
    subst hq
    obtain rfl : '\x27' = m := hchar _ (List.mem_cons_self ..)
    have hpair : Quoted ('\x27' :: ([] ++ '\x27' :: [])) := .cons hm (by simp) .nil
    exact .cons (t := []) hm (by simp) (.cons hm ht hpair)
  · -- One quote opens the text, and one closes it.
    rw [hsingle hq]
    exact .cons hm ht .nil

/-- A text without its quote leaves the quote open. -/
theorem foldl_quoteBehind_some {m : Char} {t : Text} (ht : ∀ c ∈ t, c ≠ m) :
    t.foldl quoteBehind (some m) = some m := by
  induction t with
  | nil => rfl
  | cons c t ih =>
    obtain ⟨hc, ht⟩ := List.forall_mem_cons.1 ht
    rw [List.foldl_cons, quoteBehind, if_neg hc, ih ht]

/-- A text without quotes opens none. -/
theorem foldl_quoteBehind_none {t : Text} (ht : ∀ c ∈ t, isQuoteChar c = false) :
    t.foldl quoteBehind none = none := by
  induction t with
  | nil => rfl
  | cons c t ih =>
    obtain ⟨hc, ht⟩ := List.forall_mem_cons.1 ht
    rw [List.foldl_cons, quoteBehind, hc, if_neg Bool.false_ne_true, ih ht]

/-- **No quote is open behind quoted text.** -/
theorem Quoted.foldl_quoteBehind {x : Text} (h : Quoted x) : x.foldl quoteBehind none = none := by
  induction h with
  | nil => rfl
  | cons hm ht _ ih =>
    rw [List.foldl_cons, quoteBehind, if_pos hm, List.foldl_append, foldl_quoteBehind_some ht,
      List.foldl_cons, quoteBehind, if_pos rfl, ih]

/-- No colon is found in quotes. -/
theorem firstColon?_inside {m : Char} {t : Text} (ht : ∀ c ∈ t, c ≠ m) :
    firstColon? (some m) (t ++ [m]) = none := by
  induction t with
  | nil => rw [List.nil_append, firstColon?, if_pos rfl, firstColon?]; rfl
  | cons c t ih =>
    obtain ⟨hc, ht⟩ := List.forall_mem_cons.1 ht
    rw [List.cons_append, firstColon?, if_neg hc, ih ht, Option.map_none]

/-- **No colon is found in quoted text.** -/
theorem Quoted.firstColon? {x : Text} (h : Quoted x) : firstColon? none x = none := by
  induction h with
  | nil => rfl
  | @cons m t x hm ht _ ih =>
    have htext : m :: (t ++ m :: x) = m :: (t ++ [m]) ++ x := by simp
    have hopen : (m :: (t ++ [m])).foldl quoteBehind none = none :=
      (Quoted.cons hm ht .nil).foldl_quoteBehind
    have hfirst : SchemaDiagram.firstColon? none (m :: (t ++ [m])) = none := by
      rw [SchemaDiagram.firstColon?]
      simp only [hm, if_true, firstColon?_inside ht, Option.map_none]
    rw [htext, firstColon?_append_eq, hopen, hfirst, ih, Option.map_none, Option.none_or]

/-! ## Tokens that the splitting reads -/

/-- Whether the splitting reads the token as the tokenizer did: a literal is plain, and a doc
comment holds no character with a meaning to the splitting. -/
def Token.isPlain (t : Token) : Bool :=
  match t.kind with
  | .string => isPlainLiteral t.value
  | .doc => t.value.all isBland
  | _ => true

/-- How many brackets and parentheses are open behind a token. -/
def TokenKind.depthBehind (k : TokenKind) (depth : Nat) : Nat :=
  if k.opens then depth + 1 else if k.closes then depth - 1 else depth

/-- The spans between the comma tokens outside brackets and parentheses, in a text that ends at
`stop`, where the current span started at `start`. -/
def tokenChunks (depth start stop : Nat) : List Token → List Span
  | [] => [⟨start, stop⟩]
  | t :: tokens =>
    if t.kind = .comma ∧ depth = 0 then
      ⟨start, t.span.start⟩ :: tokenChunks depth t.span.stop stop tokens
    else tokenChunks (t.kind.depthBehind depth) start stop tokens

/-- A doc comment is bland when what is written behind its mark is. -/
theorem isBland_doc {x : Text} (h : ∀ c ∈ Text.trim x, isBland c = true) :
    ∀ c ∈ '/' :: '/' :: '/' :: x, isBland c = true := by
  obtain ⟨lead, trail, hx, hl, ht⟩ := x.exists_eq_trim
  have hslash : isBland '/' = true := by decide
  intro c hc
  rw [hx] at hc
  simp only [List.mem_cons, List.mem_append] at hc
  -- The slashes of the mark, the blanks behind it, the text and the blanks at the end.
  rcases hc with rfl | rfl | rfl | hc | hc | hc
  · exact hslash
  · exact hslash
  · exact hslash
  · exact isBland_of_isBlank (hl c hc)
  · exact h c hc
  · exact isBland_of_isBlank (ht c hc)

/-- A bland character is no bracket. -/
theorem depthBehind_of_bland {c : Char} (h : isBland c = true) (depth : Nat) :
    (TokenKind.ofChar c).depthBehind depth = depth := by
  obtain ⟨-, h₁, h₂, h₃, h₄, -⟩ := isBland_iff.1 h
  unfold TokenKind.ofChar
  split <;> simp_all [TokenKind.depthBehind, TokenKind.opens, TokenKind.closes]

/-- **What the splitting remembers behind a lexeme** is how many brackets are open. -/
theorem pass?_lexed {lexeme : Lexeme} {o l : Nat} (h : Lexed lexeme.kind lexeme.text)
    (hplain : (lexeme.toToken o l).isPlain = true) {depth : Nat}
    (hcut : ¬(lexeme.kind = .comma ∧ depth = 0)) :
    SplitState.pass? ⟨none, false, depth⟩ lexeme.text
      = some ⟨none, false, lexeme.kind.depthBehind depth⟩ := by
  obtain ⟨kind, x, after⟩ := lexeme
  dsimp only at h hcut ⊢
  cases h with
  | newline => exact SplitState.pass?_bland (List.all_eq_true.1 (by decide)) depth
  | arrow => exact SplitState.pass?_bland (List.all_eq_true.1 (by decide)) depth
  | word h => exact SplitState.pass?_bland (fun c hc => isBland_of_isWordChar (h c hc)) depth
  | doc x => exact SplitState.pass?_bland (isBland_doc (List.all_eq_true.1 hplain)) depth
  | string x => exact pass?_plainLiteral hplain depth
  | @char c hq =>
    by_cases hbland : isBland c = true
    · rw [depthBehind_of_bland hbland]
      exact SplitState.pass?_bland (List.forall_mem_singleton.2 hbland) depth
    · -- What is not bland counts as a bracket, a parenthesis or a comma.
      have hcase : c = '[' ∨ c = ']' ∨ c = '(' ∨ c = ')' ∨ c = ',' := by
        rw [isBland_iff] at hbland
        tauto
      rcases hcase with rfl | rfl | rfl | rfl | rfl
      · rw [SplitState.pass?_cons _ (by decide), SplitState.behind_opens (.inl rfl)]
        rfl
      · rw [SplitState.pass?_cons _ (by decide), SplitState.behind_closes (.inl rfl)]
        rfl
      · rw [SplitState.pass?_cons _ (by decide), SplitState.behind_opens (.inr rfl)]
        rfl
      · rw [SplitState.pass?_cons _ (by decide), SplitState.behind_closes (.inr rfl)]
        rfl
      · exact SplitState.pass?_comma fun h => hcut ⟨rfl, h⟩

/-- **Splitting a list** by its characters is splitting it at its comma tokens. -/
theorem chunks_eq_tokenChunks {o l : Nat} {s : Text} (h : ∀ t ∈ tokensFrom o l s, t.isPlain = true)
    (depth start : Nat) :
    SplitState.chunks ⟨none, false, depth⟩ start o s
      = tokenChunks depth start (o + s.length) (tokensFrom o l s) := by
  fun_induction tokensFrom o l s generalizing depth start with
  | case1 => rfl
  -- A blank is passed, and the chunk goes on.
  | case2 o l c rest hc ih =>
    rw [Bool.and_eq_true] at hc
    have hpass :=
      SplitState.pass?_bland (List.forall_mem_singleton.2 (isBland_of_isBlank hc.1)) depth
    have hstep := SplitState.chunks_of_pass? hpass start o rest
    rw [List.singleton_append] at hstep
    rw [hstep, List.length_singleton, ih h, List.length_cons, Nat.add_assoc, Nat.add_comm 1]
  | case3 o l c rest hc lexeme ih =>
    obtain ⟨hplain, hafter⟩ := List.forall_mem_cons.1 h
    have hlexed : Lexed lexeme.kind lexeme.text := Lexeme.lexed_first c rest
    have happ : lexeme.text ++ lexeme.after = c :: rest := Lexeme.first_append c rest
    have hlen : o + (c :: rest).length = o + lexeme.text.length + lexeme.after.length := by
      rw [← happ, List.length_append, Nat.add_assoc]
    rw [tokenChunks, hlen, ← ih hafter, ← ih hafter, ← happ]
    have hkind : (lexeme.toToken o l).kind = lexeme.kind := rfl
    rw [hkind]
    -- A comma outside brackets ends the chunk for both.
    by_cases hcut : lexeme.kind = .comma ∧ depth = 0
    · obtain ⟨hcomma, rfl⟩ := hcut
      rw [hcomma] at hlexed
      have htext : lexeme.text = [','] := Lexed.eq_char (c := ',') (by decide) hlexed
      rw [if_pos ⟨hcomma, rfl⟩, htext, List.singleton_append, SplitState.chunks, if_pos ⟨rfl, rfl⟩]
      simp [Lexeme.toToken, htext]
    · -- Any other lexeme is passed by the characters and counted by the tokens.
      rw [if_neg hcut, SplitState.chunks_of_pass? (pass?_lexed hlexed hplain hcut)]

/-! ## Tokens in one chunk -/

/-- Whether a span lies in another one. -/
def Span.Covers (outer inner : Span) : Prop := outer.start ≤ inner.start ∧ inner.stop ≤ outer.stop

instance (outer inner : Span) : Decidable (outer.Covers inner) :=
  inferInstanceAs (Decidable (_ ∧ _))

section

variable {tokens : List Token} {depth start stop : Nat} {span : Span}

/-- No chunk starts before the first one. -/
theorem start_le_of_mem_tokenChunks (h : Apart tokens) (hstart : ∀ u ∈ tokens, start ≤ u.span.start)
    {c : Span} (hc : c ∈ tokenChunks depth start stop tokens) : start ≤ c.start := by
  induction tokens generalizing depth start with
  | nil => rw [List.mem_singleton.1 hc]
  | cons u tokens ih =>
    obtain ⟨hu, hrest⟩ := List.forall_mem_cons.1 hstart
    have hbehind : Apart tokens := h.sublist (List.sublist_cons_self ..)
    rw [tokenChunks] at hc
    split at hc
    -- The comma cuts, and the next chunk starts behind it.
    next =>
      rcases List.mem_cons.1 hc with rfl | hc
      · exact Nat.le_refl _
      · have hown := h.own u (List.mem_cons_self ..)
        have hle := ih hbehind ((List.pairwise_cons.1 h.order).1) hc
        omega
    next => exact ih hbehind hrest hc

/-- Chunks that start behind a span do not cover it. -/
theorem countP_tokenChunks_eq_zero (h : Apart tokens) (hstart : ∀ u ∈ tokens, start ≤ u.span.start)
    (hspan : span.start < span.stop) (hle : span.stop ≤ start) :
    (tokenChunks depth start stop tokens).countP (·.Covers span) = 0 := by
  rw [List.countP_eq_zero]
  intro c hc
  have hfirst := start_le_of_mem_tokenChunks h hstart hc
  rw [decide_eq_true_eq, Span.Covers]
  omega

/-- A span before the tokens is covered by the chunk that has started. -/
theorem countP_tokenChunks_of_lt (h : Apart tokens) (hspan : span.start < span.stop)
    (hstart : start ≤ span.start) (hle : ∀ u ∈ tokens, span.stop ≤ u.span.start)
    (hstop : span.stop ≤ stop) :
    (tokenChunks depth start stop tokens).countP (·.Covers span) = 1 := by
  induction tokens generalizing depth with
  | nil =>
    have hcovers : (Span.mk start stop).Covers span := ⟨hstart, hstop⟩
    rw [tokenChunks, List.countP_cons_of_pos (by simpa using hcovers), List.countP_nil]
  | cons u tokens ih =>
    obtain ⟨hu, hrest⟩ := List.forall_mem_cons.1 hle
    have hbehind : Apart tokens := h.sublist (List.sublist_cons_self ..)
    have hown := h.own u (List.mem_cons_self ..)
    rw [tokenChunks]
    split
    -- The chunk ends behind the span, and the later ones start there.
    next =>
      have hcovers : (Span.mk start u.span.start).Covers span := ⟨hstart, hu⟩
      rw [List.countP_cons_of_pos (by simpa using hcovers),
        countP_tokenChunks_eq_zero hbehind (List.pairwise_cons.1 h.order).1 hspan (by omega)]
    next => exact ih hbehind hrest

/-- **Every token but a comma lies in exactly one chunk.** -/
theorem countP_tokenChunks (h : Apart tokens) (hstart : ∀ u ∈ tokens, start ≤ u.span.start)
    (hstop : ∀ u ∈ tokens, u.span.stop ≤ stop) {t : Token} (ht : t ∈ tokens)
      (hkind : t.kind ≠ .comma) :
    (tokenChunks depth start stop tokens).countP (·.Covers t.span) = 1 := by
  induction tokens generalizing depth start with
  | nil => cases ht
  | cons u tokens ih =>
    obtain ⟨hu, hrest⟩ := List.forall_mem_cons.1 hstart
    obtain ⟨hustop, hreststop⟩ := List.forall_mem_cons.1 hstop
    have hbehind : Apart tokens := h.sublist (List.sublist_cons_self ..)
    obtain ⟨horder, -⟩ := List.pairwise_cons.1 h.order
    have hown := h.own u (List.mem_cons_self ..)
    rw [tokenChunks]
    -- The token is the next one, and the chunk that has started covers it.
    rcases List.mem_cons.1 ht with rfl | ht
    · rw [if_neg fun hcut => hkind hcut.1]
      exact countP_tokenChunks_of_lt hbehind hown hu horder hustop
    · -- The token is further on, so a chunk that ends here does not cover it.
      split
      next =>
        have hnot : ¬(Span.mk start u.span.start).Covers t.span := by
          rintro ⟨-, hcovers⟩
          have hle := horder t ht
          have hpos := h.own t (List.mem_cons_of_mem _ ht)
          change t.span.stop ≤ u.span.start at hcovers
          omega
        rw [List.countP_cons_of_neg (by simpa using hnot)]
        exact ih hbehind horder hreststop ht
      next => exact ih hbehind hrest hreststop ht

/-- A chunk starts with the list, or behind a token. -/
theorem start_of_mem_tokenChunks {c : Span} (hc : c ∈ tokenChunks depth start stop tokens) :
    c.start = start ∨ ∃ u ∈ tokens, c.start = u.span.stop := by
  induction tokens generalizing depth start with
  | nil => exact .inl (by rw [List.mem_singleton.1 hc])
  | cons u tokens ih =>
    rw [tokenChunks] at hc
    split at hc
    -- The token cuts, and the next chunk starts behind it.
    next =>
      rcases List.mem_cons.1 hc with rfl | hc
      · exact .inl rfl
      · rcases ih hc with heq | ⟨v, hv, heq⟩
        · exact .inr ⟨u, List.mem_cons_self .., heq⟩
        · exact .inr ⟨v, List.mem_cons_of_mem _ hv, heq⟩
    next =>
      rcases ih hc with heq | ⟨v, hv, heq⟩
      · exact .inl heq
      · exact .inr ⟨v, List.mem_cons_of_mem _ hv, heq⟩

end

/-! ## Stretches between blanks -/

/-- A stretch of a text that has no blanks at its ends stands between the blanks at the ends of the
text. -/
theorem between_blanks {lead core trail u x w : Text} (h : lead ++ (core ++ trail) = u ++ (x ++ w))
    (hl : AllBlank lead) (ht : AllBlank trail) (hx : Trimmed x) (hne : x ≠ []) :
    lead.length ≤ u.length ∧ u.length + x.length ≤ lead.length + core.length := by
  constructor
  · -- If the stretch began inside the blanks in front, it would begin with a blank.
    rcases List.append_eq_append_iff.1 h with ⟨m, rfl, -⟩ | ⟨m, rfl, hm⟩
    · rw [List.length_append]
      omega
    · cases m with
      | nil => simp
      | cons c m =>
        have hhead : x.head? = some c := by
          obtain ⟨d, x, rfl⟩ := List.exists_cons_of_ne_nil hne
          rw [List.cons_append, List.cons_append] at hm
          rw [(List.cons.inj hm).1]
          rfl
        have hblank := hl c (List.mem_append_right _ (List.mem_cons_self ..))
        rw [hx.head c hhead] at hblank
        cases hblank
  · have h' : (lead ++ core) ++ trail = (u ++ x) ++ w := by simpa using h
    -- If it ended inside the blanks behind, it would end with one.
    rcases List.append_eq_append_iff.1 h' with ⟨m, hm, rfl⟩ | ⟨m, hm, -⟩
    · have hnil : m = [] := by
        refine AllBlank.eq_nil (s := lead ++ core) (fun c hc => ht c (List.mem_append_left _ hc)) ?_
        rw [← hm]
        intro c hc
        rw [List.getLast?_append, Option.or_of_isSome (by simpa using hne)] at hc
        exact hx.last c hc
      have hlen := congrArg List.length hm
      rw [hnil, List.length_append, List.length_append, List.length_append, List.length_nil] at hlen
      omega
    · have hlen := congrArg List.length hm
      simp only [List.length_append] at hlen
      omega

/-- What stands behind a shorter start of a text. -/
theorem exists_of_length_le {a b u v : Text} (h : a ++ b = u ++ v) (hle : a.length ≤ u.length) :
    ∃ m, u = a ++ m ∧ b = m ++ v := by
  rcases List.append_eq_append_iff.1 h with hm | ⟨m, rfl, hm⟩
  · exact hm
  · have hnil : m = [] := by
      rw [List.length_append] at hle
      exact List.eq_nil_of_length_eq_zero (by omega)
    subst hnil
    exact ⟨[], by simp, by simpa using hm.symm⟩

/-! ## Literals in their places -/

/-- Whether the token can be read without regard to backslashes: a literal is firm, and a doc
comment holds no character with a meaning to the splitting. -/
def Token.isFirm (t : Token) : Bool :=
  match t.kind with
  | .string => isFirmLiteral t.value
  | .doc => t.value.all isBland
  | _ => true

/-- No quote is open behind a firm lexeme. -/
theorem foldl_quoteBehind_lexed {lexeme : Lexeme} {o l : Nat} (h : Lexed lexeme.kind lexeme.text)
    (hfirm : (lexeme.toToken o l).isFirm = true) : lexeme.text.foldl quoteBehind none = none := by
  obtain ⟨kind, x, after⟩ := lexeme
  dsimp only at h ⊢
  cases h with
  | newline => rfl
  | arrow => rfl
  | word h => exact foldl_quoteBehind_none fun c hc => isQuoteChar_of_isWordChar (h c hc)
  | doc x =>
    have hbland := isBland_doc (List.all_eq_true.1 hfirm)
    exact foldl_quoteBehind_none fun c hc => (isBland_iff.1 (hbland c hc)).1
  | string x => exact (quoted_of_firm hfirm).foldl_quoteBehind
  | char hq => exact foldl_quoteBehind_none (List.forall_mem_singleton.2 hq)

/-- **Where a token stands**, no quote is open before it and behind it, if all tokens are firm. -/
theorem exists_token_place {o l : Nat} {s : Text} {t : Token} (ht : t ∈ tokensFrom o l s) :
    ∃ front x after, s = front ++ (x ++ after) ∧ t.span = .behind (o + front.length) x ∧
      (t.kind = .string → t.value = x) ∧
      ((∀ u ∈ tokensFrom o l s, u.isFirm = true) →
        front.foldl quoteBehind none = none ∧ x.foldl quoteBehind none = none) := by
  fun_induction tokensFrom o l s with
  | case1 => cases ht
  -- A blank opens no quote.
  | case2 o l c rest hc ih =>
    obtain ⟨front, x, after, rfl, hspan, hvalue, hopen⟩ := ih ht
    rw [Bool.and_eq_true] at hc
    refine ⟨c :: front, x, after, rfl, ?_, hvalue, fun hfirm => ?_⟩
    · rw [hspan, List.length_cons, Nat.add_assoc, Nat.add_comm 1]
    · rw [List.foldl_cons, quoteBehind, isQuoteChar_of_isBlank hc.1, if_neg Bool.false_ne_true]
      exact hopen hfirm
  | case3 o l c rest hc lexeme ih =>
    have hlexed : Lexed lexeme.kind lexeme.text := Lexeme.lexed_first c rest
    have happ : lexeme.text ++ lexeme.after = c :: rest := Lexeme.first_append c rest
    rcases List.mem_cons.1 ht with rfl | ht
    · refine ⟨[], lexeme.text, lexeme.after, happ.symm, rfl, fun hkind => ?_,
        fun hfirm => ⟨rfl, ?_⟩⟩
      · have hne : lexeme.kind ≠ .doc := fun hdoc => absurd (hdoc.symm.trans hkind) (by decide)
        exact if_neg hne
      · exact foldl_quoteBehind_lexed hlexed (hfirm _ (List.mem_cons_self ..))
    · -- The token is further on, and the quotes of the first one are closed again.
      obtain ⟨front, x, after, hafter, hspan, hvalue, hopen⟩ := ih ht
      refine ⟨lexeme.text ++ front, x, after, ?_, ?_, hvalue, fun hfirm => ?_⟩
      · rw [← happ, hafter, List.append_assoc]
      · rw [hspan, List.length_append, Nat.add_assoc]
      · obtain ⟨hfirst, hrest⟩ := List.forall_mem_cons.1 hfirm
        rw [List.foldl_append, foldl_quoteBehind_lexed hlexed hfirst]
        exact hopen hrest

/-- A closed literal starts and ends with a quote. -/
theorem trimmed_of_whole {x : Text} (h : isWholeLiteral x = true) : Trimmed x ∧ x ≠ [] := by
  obtain ⟨q, t, -, rfl, -⟩ := exists_inner h
  obtain ⟨m, hm, hchar, -⟩ := q.exists_char
  have hblank : ∀ c ∈ q.mark, isBlank c = false := fun c hc => by
    rw [hchar c hc]
    exact isBlank_of_isQuoteChar hm
  have hmark : Trimmed q.mark := ⟨fun c hc => hblank c (List.mem_of_mem_head? hc),
    fun c hc => hblank c (List.mem_of_getLast? hc)⟩
  exact ⟨hmark.around q.mark_ne_nil hmark q.mark_ne_nil t,
    fun hnil => q.mark_ne_nil (List.append_eq_nil_iff.1 hnil).1⟩

/-! ## Literals in items -/

/-- A chunk is a stretch of its text. -/
theorem exists_of_mem_chunks {s : Text} {c : Span} (hc : c ∈ chunks s) :
    ∃ a p b, s = a ++ (p ++ b) ∧ c = .behind a.length p := by
  rw [chunks, chunksFrom_eq] at hc
  obtain ⟨-, hle, hstop⟩ := SplitState.bounds_of_mem_chunks (Nat.le_refl 0) hc
  rw [Nat.zero_add] at hstop
  refine ⟨s.take c.start, (s.drop c.start).take (c.stop - c.start),
    (s.drop c.start).drop (c.stop - c.start),
    by rw [List.take_append_drop, List.take_append_drop], ?_⟩
  have hstart : (s.take c.start).length = c.start := by
    rw [List.length_take]
    omega
  have hlen : ((s.drop c.start).take (c.stop - c.start)).length = c.stop - c.start := by
    rw [List.length_take, List.length_drop]
    omega
  rw [Span.behind, hstart, hlen, Nat.add_sub_cancel' hle]

section

variable {s front x after a p b : Text}

/-- A stretch that a chunk covers stands in it. -/
theorem exists_of_covers (hs : s = front ++ (x ++ after)) (hc : s = a ++ (p ++ b))
    (hcovers : (Span.behind a.length p).Covers (.behind front.length x)) :
    ∃ u w, front = a ++ u ∧ p = u ++ (x ++ w) := by
  obtain ⟨hstart, hstop⟩ := hcovers
  obtain ⟨u, rfl, hu⟩ := exists_of_length_le (hc.symm.trans hs) hstart
  have hle : (u ++ x).length ≤ p.length := by
    simp only [Span.behind, List.length_append] at hstop ⊢
    omega
  rw [← List.append_assoc] at hu
  obtain ⟨w, hw, -⟩ := exists_of_length_le hu.symm hle
  exact ⟨u, w, rfl, by rw [hw, List.append_assoc]⟩

/-- **A literal in a chunk** lies in the item of the chunk. -/
theorem covers_item_iff (hs : s = front ++ (x ++ after)) (hc : s = a ++ (p ++ b)) (hx : Trimmed x)
    (hne : x ≠ []) :
    ((itemOfChunk? s 0 (.behind a.length p)).map
        fun item => decide (item.span.Covers (.behind front.length x))).getD false
      = decide ((Span.behind a.length p).Covers (.behind front.length x)) := by
  rw [itemOfChunk?_behind hc rfl]
  cases hitem : partItem? p with
  | none =>
    -- Nothing but blanks stands in the chunk.
    have hnot : ¬(Span.behind a.length p).Covers (.behind front.length x) := by
      intro hcovers
      obtain ⟨u, w, -, rfl⟩ := exists_of_covers hs hc hcovers
      obtain ⟨d, x, rfl⟩ := List.exists_cons_of_ne_nil hne
      have hblank := allBlank_of_partItem? hitem d (by simp)
      rw [hx.head d rfl] at hblank
      cases hblank
    rw [decide_eq_false hnot]
    rfl
  | some item =>
    obtain ⟨lead, trail, hp, hl, ht, hspan⟩ := exists_span hitem
    have hlen := congrArg List.length hp
    simp only [List.length_append] at hlen
    rw [Option.map_some, Option.map_some, Option.getD_some, SettingItem.shift,
      decide_eq_decide, hspan, Span.shift_behind, Nat.add_zero]
    constructor
    · rintro ⟨hstart, hstop⟩
      simp only [Span.Covers, Span.behind] at hstart hstop ⊢
      omega
    · intro hcovers
      obtain ⟨u, w, rfl, hu⟩ := exists_of_covers hs hc hcovers
      have hinside := between_blanks (hp.symm.trans hu) hl ht hx hne
      simp only [Span.Covers, Span.behind, List.length_append]
      omega

/-- **A literal in a part with a key and a value** lies in the key or in the value, when no quote is
open before it. -/
theorem covers_key_or_value {lead key gap value trail u w : Text}
    (hk : Keyed lead key gap value trail)
    (h : keyedText lead key gap value trail = u ++ (x ++ w)) (hx : Trimmed x) (hne : x ≠ [])
    (hopen : u.foldl quoteBehind none = none) (hq : Quoted x) (n : Nat) :
    (Span.behind (n + lead.length) key.trim).Covers (.behind (n + u.length) x) ∨
      (Span.behind (n + lead.length + key.length + 1 + gap.length) value).Covers
        (.behind (n + u.length) x) := by
  have hlead : firstColon? none lead = none := by
    by_contra hsome
    obtain ⟨i, hi⟩ := Option.ne_none_iff_exists'.1 hsome
    obtain ⟨front, rest, rfl, -⟩ := exists_of_firstColon? hi
    exact absurd (hk.blank_lead ':' (by simp)) (by decide)
  have hblank : lead.foldl quoteBehind none = none :=
    foldl_quoteBehind_none fun c hc => isQuoteChar_of_isBlank (hk.blank_lead c hc)
  have hcolon : firstColon? none (keyedText lead key gap value trail)
      = some (lead.length + key.length) := by
    have hrest := firstColon?_append hk.colon (gap ++ (value ++ trail))
    have htext : keyedText lead key gap value trail
        = lead ++ (key ++ ':' :: (gap ++ (value ++ trail))) := by
      simp [keyedText]
    rw [htext, firstColon?_append_eq, hlead, hblank, hrest, Option.none_or, Option.map_some,
      Nat.add_comm]
  rw [h, firstColon?_append_eq, hopen, firstColon?_append_eq, hq.firstColon?, hq.foldl_quoteBehind,
    Option.none_or] at hcolon
  cases hu : firstColon? none u with
  | some i =>
    -- The colon stands before the literal.
    rw [hu, Option.some_or, Option.some.injEq] at hcolon
    have hlt := firstColon?_lt hu
    have htext : (lead ++ key ++ [':']) ++ (gap ++ (value ++ trail)) = u ++ (x ++ w) := by
      rw [← h]
      simp [keyedText]
    have hle : (lead ++ key ++ [':']).length ≤ u.length := by
      simp only [List.length_append, List.length_singleton]
      omega
    obtain ⟨m, rfl, hm⟩ := exists_of_length_le htext hle
    have hinside := between_blanks hm hk.blank_gap hk.blank_trail hx hne
    refine .inr ?_
    simp only [Span.Covers, Span.behind, List.length_append, List.length_singleton]
    omega
  | none =>
    -- The colon stands behind the literal.
    rw [hu, Option.none_or, Option.map_map, Option.map_eq_some_iff] at hcolon
    obtain ⟨j, -, hj⟩ := hcolon
    simp only [Function.comp_apply] at hj
    obtain ⟨blanks, hkey, hblanks, -⟩ := hk.exists_key
    have htext : (u ++ x) ++ w = (lead ++ key) ++ ':' :: (gap ++ value ++ trail) := by
      rw [List.append_assoc, ← h]
      simp [keyedText]
    have hle : (u ++ x).length ≤ (lead ++ key).length := by
      simp only [List.length_append]
      omega
    obtain ⟨m, hm, -⟩ := exists_of_length_le htext hle
    have hstretch : lead ++ (key.trim ++ blanks) = u ++ (x ++ m) := by
      rw [← hkey, hm, List.append_assoc]
    have hinside := between_blanks hstretch hk.blank_lead hblanks hx hne
    refine .inl ?_
    simp only [Span.Covers, Span.behind]
    omega

end

/-! ## Lists that keep their literals -/

/-- The text before a chunk ends where a token does, and no quote is open there. -/
theorem foldl_before_chunk {s a p b : Text} (hc : s = a ++ (p ++ b))
    (hfirm : ∀ t ∈ tokenize s, t.isFirm = true)
    (hmem : Span.behind a.length p ∈ tokenChunks 0 0 s.length (tokenize s)) :
    a.foldl quoteBehind none = none := by
  rcases start_of_mem_tokenChunks hmem with hzero | ⟨t, ht, hstop⟩
  · rw [List.eq_nil_of_length_eq_zero hzero]
    rfl
  · -- A token ends where the chunk starts, and behind it no quote is open.
    obtain ⟨front, x, after, hs, hspan, -, hopen⟩ := exists_token_place ht
    obtain ⟨hfront, hx⟩ := hopen hfirm
    have hlen : a.length = (front ++ x).length := by
      rw [hspan, Span.behind, Span.behind, Nat.zero_add] at hstop
      rw [List.length_append]
      exact hstop
    have heq : a ++ (p ++ b) = (front ++ x) ++ after := by rw [← hc, hs, List.append_assoc]
    rw [(List.append_inj heq hlen).1, List.foldl_append, hfront, hx]

/-- **Every literal of a settings list stays whole.** -/
structure KeepsLiterals (s : Text) : Prop where
  /-- The list is split at its comma tokens outside brackets and parentheses, and nowhere else. -/
  chunks : chunks s = tokenChunks 0 0 s.length (tokenize s)
  /-- Every literal lies in exactly one item. -/
  item : ∀ t ∈ tokenize s, t.kind = .string →
    (splitSettings s 0).countP (·.span.Covers t.span) = 1
  /-- It lies in the key or in the value of the item, where no literal holds a quote of its own. -/
  colon : (∀ t ∈ tokenize s, t.isFirm = true) → ∀ t ∈ tokenize s, t.kind = .string →
    ∀ item ∈ splitSettings s 0, item.span.Covers t.span →
      ∀ v ∈ item.valueSpan, item.keySpan.Covers t.span ∨ v.Covers t.span

/-- **The splitting keeps every literal whole** that is plain to it, beside doc comments that hold
no character with a meaning. -/
theorem splitSettings_keepsLiterals {s : Text} (h : ∀ t ∈ tokenize s, t.isPlain = true) :
    KeepsLiterals s := by
  -- The chunks are cut at the comma tokens.
  have hchunks : chunks s = tokenChunks 0 0 s.length (tokenize s) := by
    rw [chunks, chunksFrom_eq, chunks_eq_tokenChunks h, Nat.zero_add, tokenize]
  have hwhole : ∀ t ∈ tokenize s, t.kind = .string → isWholeLiteral t.value = true := by
    intro t ht hkind
    have hplain := h t ht
    rw [Token.isPlain, hkind] at hplain
    exact (Bool.and_eq_true_iff.1 hplain).1
  refine ⟨hchunks, fun t ht hkind => ?_, fun hfirm t ht hkind item hitem hcovers v hv => ?_⟩
  · -- A literal lies in one chunk, and the items are the chunks without the blanks around them.
    obtain ⟨front, x, after, hs, hspan, hvalue, -⟩ := exists_token_place ht
    obtain ⟨hx, hne⟩ := trimmed_of_whole (hvalue hkind ▸ hwhole t ht hkind)
    rw [Nat.zero_add] at hspan
    have honce : (tokenChunks 0 0 s.length (tokenize s)).countP (·.Covers t.span) = 1 :=
      countP_tokenChunks (apart_tokensFrom 0 1 s) (fun _ _ => Nat.zero_le _)
        (fun u hu => by have := (bounds_of_mem_tokensFrom hu).2.2; omega) ht (by rw [hkind]; decide)
    rw [splitSettings, List.countP_filterMap, ← honce]
    change _ = (tokenChunks 0 0 s.length (tokenize s)).countP _
    rw [← hchunks]
    refine List.countP_congr fun c hc => ?_
    obtain ⟨a, p, b, hab, rfl⟩ := exists_of_mem_chunks hc
    rw [hspan, covers_item_iff hs hab hx hne]
  · -- The literal lies in the chunk of the item, on one side of its first colon.
    obtain ⟨c, hc, hmap⟩ := List.mem_filterMap.1 hitem
    obtain ⟨a, p, b, hab, rfl⟩ := exists_of_mem_chunks hc
    obtain ⟨front, x, after, hs, hspan, hvalue, hopen⟩ := exists_token_place ht
    obtain ⟨hx, hne⟩ := trimmed_of_whole (hvalue hkind ▸ hwhole t ht hkind)
    rw [Nat.zero_add] at hspan
    rw [hspan] at hcovers ⊢
    have hchunk : (Span.behind a.length p).Covers (.behind front.length x) := by
      have hiff := covers_item_iff hs hab hx hne
      rw [hmap, Option.map_some, Option.getD_some, decide_eq_true hcovers] at hiff
      exact of_decide_eq_true hiff.symm
    obtain ⟨u, w, rfl, hp⟩ := exists_of_covers hs hab hchunk
    have hbefore := (hopen hfirm).1
    rw [List.foldl_append, foldl_before_chunk hab hfirm (hchunks ▸ hc)] at hbefore
    -- Its quotes are its own, so the colon is not between them.
    have hquoted : Quoted x := by
      have ht' := hfirm t ht
      rw [Token.isFirm, hkind] at ht'
      exact hvalue hkind ▸ quoted_of_firm ht'
    rw [itemOfChunk?_behind hab rfl] at hmap
    cases Shape.of p with
    | blank hblank => rw [partItem?_blank hblank] at hmap; cases hmap
    | flag hl hcore ht hne hcolon =>
      rw [partItem?_flag hl hcore ht hne hcolon] at hmap
      cases hmap
      cases hv
    | @keyed lead key gap value trail hk =>
      rw [partItem?_keyed hk] at hmap
      cases hmap
      cases hv
      have hside := covers_key_or_value hk hp hx hne hbefore hquoted a.length
      simpa [SettingItem.shift, Nat.add_comm, Nat.add_left_comm, Nat.add_assoc] using hside

/-- A list with commas, colons and brackets in literals of three kinds. -/
def literalList : Text :=
  "note: 'one, [two', \"a: b\": pk, k: \x27\x27\x27x, \"y\":\x27\x27\x27".toList

/-- Its literals stay whole, in keys and in values. -/
theorem splitSettings_keepsLiterals_literalList :
    (∀ t ∈ tokenize literalList, t.isPlain = true) ∧ (∀ t ∈ tokenize literalList, t.isFirm = true) ∧
      KeepsLiterals literalList := by
  have hplain : ∀ t ∈ tokenize literalList, t.isPlain = true := by decide +kernel
  exact ⟨hplain, by decide +kernel, splitSettings_keepsLiterals hplain⟩

/-- A list whose literal in three quotes holds an apostrophe and a comma. -/
def apostrophe : Text := "note: \x27\x27\x27it\x27s one, two\x27\x27\x27".toList

/-- **A closed literal in three quotes may be split**: the splitting takes the apostrophe for its
end, so that the literal lies in no item. -/
theorem exists_split_literal :
    (∀ t ∈ tokenize apostrophe, t.kind = .string → isWholeLiteral t.value = true) ∧
      ∃ t ∈ tokenize apostrophe, t.kind = .string ∧
        (splitSettings apostrophe 0).countP (·.span.Covers t.span) = 0 := by
  decide +kernel

end SchemaDiagram
