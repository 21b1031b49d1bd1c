import SchemaDiagram.Declaration.Field
import SchemaDiagram.Proofs.SplitTokens
import SchemaDiagram.Proofs.Entries

/-! # The settings of a field

A field declaration ends with its settings list. Where the list ends is found by its characters: the
search counts square brackets, skips what stands between quotes and knows no backslashes. Where the
literals of the list are firm, the bracket that is found is the one that closes the list to the
tokenizer, and the field has all settings of the list.

* **`matchingBracket_eq`** — the bracket that is found is the one of the tokens.
* **`settingsBounds?_eq`** — where the list of a declaration stands.
* **`readField_settings`** — the field with its name, its type and its settings. -/

namespace SchemaDiagram

/-! ## The closing bracket -/

/-- Quoted text closes no bracket. -/
theorem matchingBracket_inside {m : Char} {t : Text} (ht : ∀ c ∈ t, c ≠ m) (depth pos : Nat)
    (w : Text) :
    matchingBracket (some m) depth pos (t ++ m :: w)
      = matchingBracket none depth (pos + (t.length + 1)) w := by
  induction t generalizing pos with
  | nil => rw [List.nil_append, matchingBracket, if_pos rfl]; rfl
  | cons c t ih =>
    obtain ⟨hc, ht⟩ := List.forall_mem_cons.1 ht
    rw [List.cons_append, matchingBracket, if_neg hc, ih ht, List.length_cons, Nat.add_assoc,
      Nat.add_comm 1]

/-- A bracket inside a quoted text closes nothing. -/
theorem Quoted.matchingBracket {x : Text} (h : Quoted x) (depth pos : Nat) (w : Text) :
    matchingBracket none depth pos (x ++ w) = matchingBracket none depth (pos + x.length) w := by
  induction h generalizing pos with
  | nil => rfl
  | @cons m t x hm ht _ ih =>
    have htext : m :: (t ++ m :: x) ++ w = m :: (t ++ m :: (x ++ w)) := by simp
    have hlen : pos + (m :: (t ++ m :: x)).length = pos + 1 + (t.length + 1) + x.length := by
      simp only [List.length_cons, List.length_append]
      omega
    rw [htext, SchemaDiagram.matchingBracket]
    simp only [hm, if_true]
    rw [matchingBracket_inside ht, ih, hlen]

/-- A text without quotes and brackets closes no bracket. -/
theorem matchingBracket_plain {x : Text} (h : ∀ c ∈ x, isQuoteChar c = false ∧ c ≠ '[' ∧ c ≠ ']')
    (depth pos : Nat) (w : Text) :
    matchingBracket none depth pos (x ++ w) = matchingBracket none depth (pos + x.length) w := by
  induction x generalizing pos with
  | nil => rfl
  | cons c x ih =>
    obtain ⟨⟨hq, hopen, hclose⟩, hx⟩ := List.forall_mem_cons.1 h
    rw [List.cons_append, matchingBracket]
    simp only [hq, hopen, hclose, Bool.false_eq_true, if_false]
    rw [ih hx, List.length_cons, Nat.add_assoc, Nat.add_comm 1]

/-- **A firm lexeme** that is no bracket closes none. -/
theorem matchingBracket_lexed {lexeme : Lexeme} {o l : Nat} (h : Lexed lexeme.kind lexeme.text)
    (hfirm : (lexeme.toToken o l).isFirm = true) (hopen : lexeme.kind ≠ .openBracket)
    (hclose : lexeme.kind ≠ .closeBracket) (depth pos : Nat) (w : Text) :
    matchingBracket none depth pos (lexeme.text ++ w)
      = matchingBracket none depth (pos + lexeme.text.length) w := by
  -- Bland characters are no brackets and no quotes.
  have hbland : ∀ {x : Text}, (∀ c ∈ x, isBland c = true) →
      matchingBracket none depth pos (x ++ w) = matchingBracket none depth (pos + x.length) w :=
    fun hx => matchingBracket_plain (fun c hc => by
      obtain ⟨hq, h₁, h₂, -⟩ := isBland_iff.1 (hx c hc)
      exact ⟨hq, h₁, h₂⟩) depth pos w
  obtain ⟨kind, x, after⟩ := lexeme
  dsimp only at h hopen hclose ⊢
  cases h with
  | newline => exact hbland (List.all_eq_true.1 (by decide))
  | arrow => exact hbland (List.all_eq_true.1 (by decide))
  | word h => exact hbland fun c hc => isBland_of_isWordChar (h c hc)
  -- A firm doc comment has bland characters only.
  | doc x => exact hbland (isBland_doc (List.all_eq_true.1 hfirm))
  | string x => exact (quoted_of_firm hfirm).matchingBracket depth pos w
  -- A single character that is a bracket is a token of that kind.
  | char hq =>
    refine matchingBracket_plain (List.forall_mem_singleton.2 ⟨hq, ?_, ?_⟩) depth pos w
    · rintro rfl
      exact hopen rfl
    · rintro rfl
      exact hclose rfl

/-- **The bracket that is found** is the one that closes to the tokenizer. -/
theorem matchingBracket_eq {o l : Nat} {s : Text} (hfirm : ∀ t ∈ tokensFrom o l s, t.isFirm = true)
    {depth : Nat} {close : Token} {after : List Token}
    (h : Header.closeBracket? depth (tokensFrom o l s) = some (close, after)) :
    matchingBracket none (depth + 1) o s = close.span.start := by
  fun_induction tokensFrom o l s generalizing depth with
  | case1 => cases h
  -- A blank is no bracket, and it makes no token.
  | case2 o l c rest hc ih =>
    rw [Bool.and_eq_true] at hc
    have hblank := isBland_iff.1 (isBland_of_isBlank hc.1)
    have hskip := matchingBracket_plain (x := [c])
      (List.forall_mem_singleton.2 ⟨hblank.1, hblank.2.1, hblank.2.2.1⟩) (depth + 1) o rest
    exact hskip.trans (ih hfirm h)
  | case3 o l c rest hc lexeme ih =>
    obtain ⟨hfirst, hrest⟩ := List.forall_mem_cons.1 hfirm
    have hlexed : Lexed lexeme.kind lexeme.text := Lexeme.lexed_first c rest
    have happ : lexeme.text ++ lexeme.after = c :: rest := Lexeme.first_append c rest
    have hkind : (lexeme.toToken o l).kind = lexeme.kind := rfl
    rw [Header.closeBracket?, hkind] at h
    rw [← happ]
    -- An opening bracket is one more in both scans.
    by_cases hopen : lexeme.kind = .openBracket
    · rw [hopen] at h hlexed
      have htext : lexeme.text = ['['] := Lexed.eq_char (c := '[') (by decide) hlexed
      rw [htext] at ih hrest h ⊢
      rw [List.singleton_append, matchingBracket]
      exact ih hrest h
    by_cases hclose : lexeme.kind = .closeBracket
    · rw [hclose] at h hlexed
      have htext : lexeme.text = [']'] := Lexed.eq_char (c := ']') (by decide) hlexed
      rw [htext] at ih hrest h ⊢
      rw [List.singleton_append, matchingBracket]
      dsimp only at h
      split at h
      next hdepth =>
        subst hdepth
        obtain rfl := (Prod.mk.inj (Option.some.inj h)).1
        rfl
      next hdepth =>
        obtain ⟨d, rfl⟩ := Nat.exists_eq_succ_of_ne_zero hdepth
        exact ih hrest h
    · -- No other token is a bracket, and none of its characters is read as one.
      rw [matchingBracket_lexed hlexed hfirst hopen hclose]
      refine ih hrest ?_
      split at h
      next heq => exact absurd heq hopen
      next heq => exact absurd heq hclose
      next => exact h

/-- The search for the bracket goes by distances. -/
theorem matchingBracket_add (quote : Option Char) (depth pos n : Nat) (s : Text) :
    matchingBracket quote depth (pos + n) s = matchingBracket quote depth pos s + n := by
  induction s generalizing quote depth pos with
  | nil => rfl
  | cons c s ih =>
    cases quote with
    | some q => rw [matchingBracket, matchingBracket, Nat.add_right_comm, ih]
    | none =>
      simp only [matchingBracket, Nat.add_right_comm _ n 1, ih]
      split_ifs <;> rfl

/-! ## The last token -/

/-- A text without tokens is blank. -/
theorem allBlank_of_tokensFrom {o l : Nat} {s : Text} (h : tokensFrom o l s = []) : AllBlank s := by
  fun_induction tokensFrom o l s with
  | case1 => simp [AllBlank]
  | case2 o l c rest hc ih =>
    rw [Bool.and_eq_true] at hc
    exact List.forall_mem_cons.2 ⟨hc.1, ih h⟩
  | case3 => cases h

/-- The last token of a text that ends with no blank ends where the text does. -/
theorem stop_of_getLast? {o l : Nat} {s : Text} {t : Token}
    (ht : (tokensFrom o l s).getLast? = some t) (hs : ∀ c ∈ s.getLast?, isBlank c = false) :
    t.span.stop = o + s.length := by
  fun_induction tokensFrom o l s with
  | case1 => cases ht
  | case2 o l c rest hc ih =>
    cases rest with
    | nil =>
      rw [tokensFrom_nil] at ht
      cases ht
    | cons d rest =>
      rw [ih ht fun e he => hs e (by rwa [List.getLast?_cons_cons]), List.length_cons (a := c)]
      omega
  | case3 o l c rest hc lexeme ih =>
    have happ : lexeme.text ++ lexeme.after = c :: rest := Lexeme.first_append c rest
    have hlen : o + (c :: rest).length = o + lexeme.text.length + lexeme.after.length := by
      rw [← happ, List.length_append, Nat.add_assoc]
    have hafter : ∀ d ∈ lexeme.after.getLast?, isBlank d = false := by
      intro d hd
      refine hs d ?_
      rw [← happ, List.getLast?_append, Option.mem_def.1 hd, Option.some_or]
      exact Option.mem_some_self d
    rw [List.getLast?_cons] at ht
    cases hlast : (tokensFrom (o + lexeme.text.length) (l + lexeme.text.count '\n')
        lexeme.after).getLast? with
    | some u =>
      rw [hlast, Option.getD_some, Option.some.injEq] at ht
      rw [ht] at hlast
      rw [hlen, ih hlast hafter]
    | none =>
      -- Nothing stands behind the lexeme.
      have hblank := allBlank_of_tokensFrom (List.getLast?_eq_none_iff.1 hlast)
      have hnil : lexeme.after = [] := hblank.eq_nil (s := []) hafter
      rw [hlast, Option.getD_none, Option.some.injEq] at ht
      rw [hlen, hnil, ← ht]
      rfl

/-- The closing bracket is a bracket among the tokens, and behind it stand those that are left. -/
theorem exists_of_closeBracket? {depth : Nat} {tokens after : List Token} {close : Token}
    (h : Header.closeBracket? depth tokens = some (close, after)) :
    close.kind = .closeBracket ∧ ∃ front, tokens = front ++ close :: after := by
  induction tokens generalizing depth with
  | nil => cases h
  | cons t tokens ih =>
    -- The bracket is found behind the first token.
    have hrest : ∀ {d}, Header.closeBracket? d tokens = some (close, after) →
        close.kind = .closeBracket ∧ ∃ front, t :: tokens = front ++ close :: after := by
      intro d hd
      obtain ⟨hkind, front, rfl⟩ := ih hd
      exact ⟨hkind, t :: front, rfl⟩
    rw [Header.closeBracket?] at h
    split at h
    next => exact hrest h
    next hkind =>
      split at h
      · cases h
        exact ⟨hkind, [], rfl⟩
      · exact hrest h
    next => exact hrest h

/-- The bracket that ends a text stands at its end. -/
theorem start_of_closeBracket? {o l depth : Nat} {s : Text} {close : Token}
    (h : Header.closeBracket? depth (tokensFrom o l (s ++ [']'])) = some (close, [])) :
    close.span.start = o + s.length := by
  obtain ⟨hkind, front, htokens⟩ := exists_of_closeBracket? h
  have hmem : close ∈ tokensFrom o l (s ++ [']']) := by rw [htokens]; simp
  -- The text ends with the bracket, so the last token stops there.
  have hstop := stop_of_getLast? (t := close) (by rw [htokens, List.getLast?_concat])
    (fun c hc => by
      rw [List.getLast?_concat] at hc
      cases hc
      decide)
  obtain ⟨ahead, c, rest, line, -, rfl⟩ := exists_lexeme_of_token hmem
  have hlexed := Lexeme.lexed_first c rest
  change (Lexeme.first c rest).kind = _ at hkind
  rw [hkind] at hlexed
  -- A closing bracket is one character long.
  have htext : (Lexeme.first c rest).text = [']'] := Lexed.eq_char (c := ']') (by decide) hlexed
  rw [List.length_append] at hstop
  simp only [Lexeme.toToken, htext, List.length_singleton] at hstop ⊢
  omega

/-! ## Words -/

/-- The name at the start of a declaration is cut off with the blank behind it. -/
theorem cutName?_of_nameLength {n rest : Text} (hn : n ≠ [])
    (hlength : nameLength (n ++ ' ' :: rest) = n.length) (hne : rest ≠ [])
    (hrest : ∀ c ∈ rest.head?, isBlank c = false) :
    cutName? (n ++ ' ' :: rest) = some (n, n.length + 1) := by
  have hblanks : (' ' :: rest).takeWhile isBlank = [' '] :=
    (takeWhile_of_head (x := [' ']) (List.forall_mem_singleton.2 (by decide)) hrest).1
  have hdrop : (n ++ ' ' :: rest).drop (n.length + 1) = rest := by
    rw [← List.drop_drop, List.drop_left]
    rfl
  rw [cutName?]
  simp only [hlength, List.drop_left, hblanks, List.length_singleton, hdrop, List.take_left]
  simp [hne, hn]

/-- A word of the source. -/
structure IsWord (w : Text) : Prop where
  /-- It is not empty. -/
  ne_nil : w ≠ []
  /-- It is made of letters, digits and underscores. -/
  chars : ∀ c ∈ w, isWordChar c = true

namespace IsWord

variable {w : Text}

/-- No blank stands at the ends of a word. -/
theorem trimmed (h : IsWord w) : Trimmed w :=
  ⟨fun c hc => isBlank_of_isWordChar (h.chars c (List.mem_of_mem_head? hc)),
    fun c hc => isBlank_of_isWordChar (h.chars c (List.mem_of_getLast? hc))⟩

/-- A word is not between quotes. -/
theorem unquote_eq (h : IsWord w) : unquote w = w :=
  unquote_eq_self fun c hc => isQuoteChar_of_isWordChar (h.chars c (List.mem_of_mem_head? hc))

/-- A word is a type. -/
theorem isType (h : IsWord w) : isType w = true := by
  obtain ⟨c, w, rfl⟩ := List.exists_cons_of_ne_nil h.ne_nil
  have hquote : c ≠ '"' := ne_of_isWordChar (h.chars c (List.mem_cons_self ..)) (by decide)
  have hchars : ∀ d ∈ c :: w, (isWordChar d || decide (d = '.')) = true := fun d hd => by
    rw [h.chars d hd, Bool.true_or]
  have hall := takeWhile_of_head (z := []) hchars (by simp)
  rw [List.append_nil] at hall
  simp [SchemaDiagram.isType, hquote, hall, dropArguments, Text.trimLeft, isArraySuffix]

/-- The blank behind a word goes away. -/
theorem collapse_append (h : IsWord w) : Text.collapse (w ++ [' ']) = w := by
  -- The letters are collected until the blank comes.
  have hwords : ∀ current, current ++ w ≠ [] →
      Text.wordsFrom current (w ++ [' ']) = [current ++ w] := by
    have hchars := h.chars
    clear h
    induction w with
    | nil =>
      intro current hne
      have hblank : isBlank ' ' = true := by decide
      rw [List.append_nil] at hne
      simp [Text.wordsFrom, hblank, hne]
    | cons c w ih =>
      intro current hne
      obtain ⟨hc, hw⟩ := List.forall_mem_cons.1 hchars
      have hrest := ih hw (current ++ [c]) (by simp)
      rw [List.cons_append, Text.wordsFrom, isBlank_of_isWordChar hc,
        if_neg Bool.false_ne_true, hrest, List.append_assoc, List.singleton_append]
  rw [Text.collapse, Text.words, hwords [] h.ne_nil]
  rfl

/-- A declaration starts with the word that is its name. -/
theorem cutName?_eq (h : IsWord w) {rest : Text} (hne : rest ≠ [])
    (hrest : ∀ c ∈ rest.head?, isBlank c = false) :
    cutName? (w ++ ' ' :: rest) = some (w, w.length + 1) := by
  have htake := (takeWhile_of_head (z := ' ' :: rest) h.chars (by
    intro c hc
    cases hc
    decide)).1
  refine cutName?_of_nameLength h.ne_nil ?_ hne hrest
  obtain ⟨c, w, rfl⟩ := List.exists_cons_of_ne_nil h.ne_nil
  have hquote : c ≠ '"' := ne_of_isWordChar (h.chars c (List.mem_cons_self ..)) (by decide)
  rw [List.cons_append, nameLength, if_neg hquote, ← List.cons_append, htake]

end IsWord

/-! ## The field of a declaration -/

/-- The search for a settings list goes over a text that neither quotes nor nests. -/
theorem settingsBounds?_bland {x : Text} (h : ∀ c ∈ x, isBland c = true) (pos : Nat) (w : Text) :
    settingsBounds? none 0 pos (x ++ w) = settingsBounds? none 0 (pos + x.length) w := by
  induction x generalizing pos with
  | nil => rfl
  | cons c x ih =>
    obtain ⟨hc, hx⟩ := List.forall_mem_cons.1 h
    obtain ⟨hq, hopen, -, hparen, hclose, -⟩ := isBland_iff.1 hc
    rw [List.cons_append, settingsBounds?.eq_def]
    simp only [hq, hopen, hparen, hclose, Bool.false_eq_true, if_false, false_and]
    rw [ih hx, List.length_cons, Nat.add_assoc, Nat.add_comm 1]

/-- A bracket opens the list when the next character does not close it. -/
theorem settingsBounds?_bracket {S : Text} (hne : S ≠ []) (hhead : ∀ c ∈ S.head?, c ≠ ']')
    (pos : Nat) :
    settingsBounds? none 0 pos ('[' :: S) = some ⟨pos + 1, matchingBracket none 1 (pos + 1) S⟩ := by
  obtain ⟨c, S, rfl⟩ := List.exists_cons_of_ne_nil hne
  have hc : c ≠ ']' := hhead c rfl
  rw [settingsBounds?.eq_def]
  simp [isQuoteChar, hc]

/-- The tokens of a list between brackets. -/
theorem tail_tokenize_list (S : Text) :
    (tokenize ('[' :: (S ++ [']']))).tail = tokensFrom 1 1 (S ++ [']']) := by
  have hfirst : Lexeme.first '[' (S ++ [']']) = ⟨.openBracket, ['['], S ++ [']']⟩ :=
    Lexeme.first_char (by decide) (by decide) (by decide) (by simp) (by simp)
  rw [tokenize, tokensFrom_lexeme (.inl (by decide)), hfirst]
  rfl

/-- **The list of a declaration** is found where its brackets are to the tokenizer. -/
theorem settingsBounds?_eq {x S : Text} (hx : ∀ c ∈ x, isBland c = true) (hS : S ≠ [])
    (hfirm : ∀ t ∈ tokenize ('[' :: (S ++ [']'])), t.isFirm = true) {close : Token}
    (hclose : Header.closeBracket? 0 (tokenize ('[' :: (S ++ [']']))).tail = some (close, [])) :
    settingsBounds? none 0 0 (x ++ '[' :: (S ++ [']'])) = some (.behind (x.length + 1) S) := by
  have hrest : ∀ t ∈ tokensFrom 1 1 (S ++ [']']), t.isFirm = true := fun t ht =>
    hfirm t (List.mem_of_mem_tail (by rwa [tail_tokenize_list]))
  rw [tail_tokenize_list] at hclose
  have hmatch := matchingBracket_eq hrest hclose
  rw [start_of_closeBracket? hclose, Nat.zero_add] at hmatch
  obtain ⟨c, S, rfl⟩ := List.exists_cons_of_ne_nil hS
  -- A bracket at the start of the list would close it.
  have hc : c ≠ ']' := by
    rintro rfl
    rw [List.cons_append, matchingBracket] at hmatch
    simp [isQuoteChar] at hmatch
  have hstop : matchingBracket none 1 (x.length + 1) (c :: S ++ [']'])
      = x.length + 1 + (c :: S).length := by
    rw [Nat.add_comm x.length 1, matchingBracket_add, hmatch, Nat.add_right_comm]
  rw [settingsBounds?_bland hx, settingsBounds?_bracket (List.append_ne_nil_of_left_ne_nil hS _)
    (fun d hd => Option.some.inj hd ▸ hc), Nat.zero_add, hstop, Span.behind]

/-- A field declaration with a settings list. -/
def declaration (n t S : Text) : Text := n ++ ' ' :: (t ++ ' ' :: '[' :: (S ++ [']']))

section

variable {n t S : Text}

/-- A declaration starts with its name and ends with a bracket. -/
theorem trimmed_declaration (hn : IsWord n) : Trimmed (declaration n t S) := by
  have htext : declaration n t S = n ++ ((' ' :: (t ++ ' ' :: '[' :: S)) ++ [']']) := by
    simp [declaration]
  rw [htext]
  exact hn.trimmed.around hn.ne_nil (.singleton (by decide)) (List.cons_ne_nil _ _) _

/-- The name of a declaration is cut off. -/
theorem cutName?_declaration (hn : IsWord n) (ht : IsWord t) :
    cutName? (declaration n t S) = some (n, n.length + 1) := by
  refine hn.cutName?_eq (by simp [ht.ne_nil]) fun c hc => ?_
  rw [List.head?_append, Option.or_of_isSome (by simpa using ht.ne_nil)] at hc
  exact isBlank_of_isWordChar (ht.chars c (List.mem_of_mem_head? hc))

/-- Behind the name stand the type, a blank and the list. -/
theorem drop_declaration (n t S : Text) :
    (declaration n t S).drop (n.length + 1) = (t ++ [' ']) ++ '[' :: (S ++ [']']) := by
  rw [declaration, ← List.drop_drop, List.drop_left]
  simp

/-- **A field has all settings of its list**: the search for the closing bracket finds the one that
closes the list to the tokenizer, when the literals of the list are firm. -/
theorem readField_settings (hn : IsWord n) (ht : IsWord t) (hS : S ≠ [])
    (hfirm : ∀ u ∈ tokenize ('[' :: (S ++ [']'])), u.isFirm = true) {close : Token}
    (hclose : Header.closeBracket? 0 (tokenize ('[' :: (S ++ [']']))).tail = some (close, []))
    (doc : List Text) (line : Option Nat) :
    ∃ field problems, readField (declaration n t S) doc line = (some field, problems) ∧
      (field, problems) = makeField n t S doc line ∧
      field.name = n ∧ field.type = t ∧ field.settings = parseSettings S := by
  -- Neither the type nor the blank behind it opens anything.
  have hbland : ∀ c ∈ t ++ [' '], isBland c = true := by
    intro c hc
    rcases List.mem_append.1 hc with hc | hc
    · exact isBland_of_isWordChar (ht.chars c hc)
    · rw [List.mem_singleton.1 hc]
      decide
  have hbounds := settingsBounds?_eq hbland hS hfirm hclose
  have hslice :
    (Span.behind ((t ++ [' ']).length + 1) S).slice ((t ++ [' ']) ++ '[' :: (S ++ [']']))
      = S := slice_behind (a := (t ++ [' ']) ++ ['[']) (b := [']']) (by simp) (by simp)
  have htype : ((t ++ [' ']) ++ '[' :: (S ++ [']'])).take
      ((Span.behind ((t ++ [' ']).length + 1) S).start - 1) = t ++ [' '] := by
    rw [Span.behind, Nat.add_sub_cancel, List.take_left]
  -- The field is the one that is made of the three parts, and reading cuts these out again.
  refine ⟨(makeField n t S doc line).1, (makeField n t S doc line).2, ?_, rfl, rfl, rfl, rfl⟩
  rw [readField, Text.trim_eq_self (trimmed_declaration hn), cutName?_declaration hn ht]
  simp only [drop_declaration, hbounds, hslice, htype, ht.collapse_append, ht.isType, if_true,
    hn.unquote_eq, ht.unquote_eq]

end

/-- The settings of a field, with brackets in a literal and behind one. -/
def fieldSettings : Text := "pk, note: 'one ] two', ref: > \"a]\".b, [x]".toList

/-- The field has them all. -/
theorem readField_settings_fieldSettings :
    IsWord "id".toList ∧ IsWord "int".toList ∧ fieldSettings ≠ [] ∧
      (∀ u ∈ tokenize ('[' :: (fieldSettings ++ [']'])), u.isFirm = true) ∧
      ∃ close, Header.closeBracket? 0 (tokenize ('[' :: (fieldSettings ++ [']']))).tail
          = some (close, []) ∧
        ∃ field problems,
          readField (declaration "id".toList "int".toList fieldSettings) [] none
            = (some field, problems) ∧
          (field, problems) = makeField "id".toList "int".toList fieldSettings [] none ∧
          field.name = "id".toList ∧ field.type = "int".toList ∧
          field.settings = parseSettings fieldSettings := by
  have hn : IsWord "id".toList := ⟨by decide, List.all_eq_true.1 (by decide)⟩
  have ht : IsWord "int".toList := ⟨by decide, List.all_eq_true.1 (by decide)⟩
  have hS : fieldSettings ≠ [] := by decide
  have hfirm : ∀ u ∈ tokenize ('[' :: (fieldSettings ++ [']'])), u.isFirm = true := by
    decide +kernel
  have hafter : (Header.closeBracket? 0 (tokenize ('[' :: (fieldSettings ++ [']']))).tail).map (·.2)
      = some [] := by decide +kernel
  obtain ⟨⟨close, after⟩, hclose, hnil⟩ := Option.map_eq_some_iff.1 hafter
  obtain rfl : after = [] := hnil
  exact ⟨hn, ht, hS, hfirm, close, hclose, readField_settings hn ht hS hfirm hclose [] none⟩

/-- Settings with an escaped quote. -/
def escapedNote : Text := "note: 'it\\'s', pk".toList

/-- **A closed literal may cost settings**: the search takes the escaped quote for the end of the
literal, so that the bracket of the list goes into its last setting. -/
theorem exists_lost_setting :
    (∀ u ∈ tokenize ('[' :: (escapedNote ++ [']'])), u.kind = .string →
        isWholeLiteral u.value = true) ∧
      (Header.closeBracket? 0 (tokenize ('[' :: (escapedNote ++ [']']))).tail).map (·.2) = some [] ∧
      ((readField (declaration "id".toList "int".toList escapedNote) [] none).1.map (·.settings)
        ≠ some (parseSettings escapedNote)) ∧
      (readField (declaration "id".toList "int".toList escapedNote) [] none).1.map (·.isPrimaryKey)
        = some false := by
  decide +kernel

end SchemaDiagram
