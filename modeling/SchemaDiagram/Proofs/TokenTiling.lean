import SchemaDiagram.Proofs.Places
import SchemaDiagram.Proofs.SplitTokens

/-! # Tokens tile their text

The tokens of a text stand in it one behind the other, and what stands between them is blank. This
holds of every text, also of one in which a literal is left open or a backslash is the last
character. So the span of a token is all that is needed to find its characters again, and its line
is told by the line ends before it.

* **`Lexeme.kind_of_mem_newline`** — which lexemes hold line ends.
* **`exists_covers_or_blank`** — every character stands in a token or is blank.
* **`IsTiling s tokens`** — what is said of the tokens of a text; `tokenize_isTiling` says that it
  holds. -/

namespace SchemaDiagram

/-! ## What lexemes hold -/

/-- A character by itself is no word, no doc comment and no line end. -/
theorem TokenKind.ofChar_ne (c : Char) :
    ofChar c ≠ .word ∧ ofChar c ≠ .doc ∧ ofChar c ≠ .newline := by
  unfold ofChar
  split <;> decide

namespace Lexeme

variable {c : Char} {rest : Text}

/-- A word starts with a character of words, and none stands behind it. -/
theorem isWordChar_of_kind (h : (first c rest).kind = .word) :
    isWordChar c = true ∧ ∀ d ∈ (first c rest).after.head?, isWordChar d = false := by
  -- Only the shape of a word has its kind.
  have hc : isWordChar c = true := by
    have hshape := lexed_first c rest
    have happ := first_append c rest
    have hne := text_first_ne_nil c rest
    generalize first c rest = lexeme at h hshape happ hne
    obtain ⟨kind, x, after⟩ := lexeme
    dsimp only at h hshape happ hne
    cases hshape with
    | word hx =>
      obtain ⟨d, x, rfl⟩ := List.exists_cons_of_ne_nil hne
      obtain ⟨rfl, -⟩ := List.cons.inj happ
      exact hx d List.mem_cons_self
    | @char d => exact absurd h (TokenKind.ofChar_ne d).1
    | newline | doc | string | arrow => cases h
  refine ⟨hc, fun d hd => ?_⟩
  -- The word ends where its characters do.
  rw [first_word hc] at hd
  have hnot := List.head?_dropWhile_not isWordChar (c :: rest)
  rw [Option.mem_def.1 hd] at hnot
  simpa using hnot

/-- A doc comment starts with its mark. -/
theorem exists_doc (h : (first c rest).kind = .doc) :
    ∃ body, (first c rest).text = '/' :: '/' :: '/' :: body := by
  have hshape := lexed_first c rest
  generalize first c rest = lexeme at h hshape
  obtain ⟨kind, x, after⟩ := lexeme
  dsimp only at h hshape ⊢
  cases hshape with
  | doc body => exact ⟨body, rfl⟩
  | @char d => exact absurd h (TokenKind.ofChar_ne d).2.1
  | newline | word | string | arrow => cases h

/-- **Line ends stand by themselves or in literals**: no other lexeme holds one. -/
theorem kind_of_mem_newline (h : '\n' ∈ (first c rest).text) :
    (first c rest).kind = .newline ∨ (first c rest).kind = .string := by
  have hshape := lexed_first c rest
  have happ := first_append c rest
  cases hfirst : first c rest with
  | mk kind x after =>
    rw [hfirst] at h hshape happ
    dsimp only at h hshape happ ⊢
    cases hshape with
    | newline => exact .inl rfl
    | string => exact .inr rfl
    -- A doc comment ends before the line end.
    | doc body =>
      obtain ⟨rfl, rfl⟩ := List.cons.inj happ
      have htext : '/' :: '/' :: '/' :: (takeLine (body ++ after)).1 = '/' :: '/' :: '/' :: body :=
        congrArg Lexeme.text ((first_doc (body ++ after)).symm.trans hfirst)
      rw [← htext] at h
      have hline : '\n' ∈ (takeLine (body ++ after)).1 := by simpa using h
      exact absurd (List.mem_takeWhile_imp hline) (by decide)
    | word hx => exact absurd (hx _ h) (by decide)
    | arrow => exact absurd h (by decide)
    -- Another character is the newline itself.
    | @char d =>
      obtain ⟨rfl, rfl⟩ := List.cons.inj happ
      obtain rfl := List.mem_singleton.1 h
      rw [first_newline] at hfirst
      exact .inl (congrArg Lexeme.kind hfirst).symm

end Lexeme

/-! ## Tokens and their characters -/

/-- **Every token is the lexeme at its span.** -/
theorem exists_lexeme_at {s : Text} {t : Token} (h : t ∈ tokenize s) :
    ∃ front c rest, s = front ++ c :: rest ∧ t.kind = (Lexeme.first c rest).kind ∧
      t.span = .behind front.length (Lexeme.first c rest).text ∧
      t.span.slice s = (Lexeme.first c rest).text ∧
      t.value = if t.kind = .doc then Text.trim ((t.span.slice s).drop 3) else t.span.slice s := by
  obtain ⟨front, c, rest, line, hs, rfl⟩ := exists_lexeme_of_token h
  rw [Nat.zero_add]
  have hslice : (Span.behind front.length (Lexeme.first c rest).text).slice s
      = (Lexeme.first c rest).text :=
    slice_behind (by rw [Lexeme.first_append, hs]) rfl
  refine ⟨front, c, rest, hs, rfl, rfl, hslice, ?_⟩
  rw [show ((Lexeme.first c rest).toToken front.length line).span
    = .behind front.length (Lexeme.first c rest).text from rfl, hslice]
  rfl

/-- **Every character stands in a token or is blank**, and no line end is blank. -/
theorem exists_covers_or_blank {o l i : Nat} {s : Text} {d : Char} (h : s[i]? = some d) :
    (∃ t ∈ tokensFrom o l s, ¬ t.span.Avoids (o + i)) ∨ isBlank d = true ∧ d ≠ '\n' := by
  fun_induction tokensFrom o l s generalizing i with
  | case1 => cases h
  | case2 o l c rest hc ih =>
    cases i with
    | zero =>
      obtain rfl : c = d := Option.some.inj h
      exact .inr (by simpa using hc)
    | succ i =>
      rw [Nat.add_comm i, ← Nat.add_assoc]
      exact ih h
  | case3 o l c rest hc lexeme =>
    rename_i ih
    have happ : lexeme.text ++ lexeme.after = c :: rest := Lexeme.first_append c rest
    -- The character is one of the lexeme, or one of what is read after it.
    by_cases hi : i < lexeme.text.length
    · refine .inl ⟨_, List.mem_cons_self, ?_⟩
      change ¬ (Span.behind o lexeme.text).Avoids (o + i)
      rw [Span.avoids_behind]
      omega
    · obtain ⟨j, rfl⟩ := Nat.exists_eq_add_of_le (Nat.le_of_not_lt hi)
      rw [← happ, List.getElem?_append_right (Nat.le_add_right ..), Nat.add_sub_cancel_left] at h
      rw [← Nat.add_assoc]
      obtain ⟨t, ht, hcovers⟩ | hblank := ih h
      · exact .inl ⟨t, List.mem_cons_of_mem _ ht, hcovers⟩
      · exact .inr hblank

/-- A line end that a token holds is that token, or the token is a literal. -/
theorem newline_of_not_avoids {s : Text} {t : Token} (h : t ∈ tokenize s) {i : Nat}
    (hi : s[i]? = some '\n') (hcovers : ¬ t.span.Avoids i) :
    t.kind = .newline ∧ t.span = ⟨i, i + 1⟩ ∨ t.kind = .string := by
  obtain ⟨front, c, rest, rfl, hkind, hspan, -, -⟩ := exists_lexeme_at h
  have happ := Lexeme.first_append c rest
  rw [hspan, Span.avoids_behind] at hcovers
  rw [← happ, List.getElem?_append_right (by omega), List.getElem?_append_left (by omega)] at hi
  rw [hkind]
  -- A lexeme of this kind is one character, so its span is told by the offset in it.
  refine (Lexeme.kind_of_mem_newline (List.mem_of_getElem? hi)).imp_left fun hline => ⟨hline, ?_⟩
  obtain rfl := Lexeme.eq_newline_of_kind hline
  rw [Lexeme.first_newline] at hspan hcovers
  rw [hspan, Span.behind, Span.mk.injEq]
  simp only [List.length_singleton] at hcovers ⊢
  omega

/-- The first character of a token. -/
theorem getElem?_start {front rest : Text} {c : Char} :
    (front ++ c :: rest)[front.length]? = some c := by
  rw [List.getElem?_append_right (Nat.le_refl _), Nat.sub_self]
  rfl

/-- **No word follows a word at once.** -/
theorem stop_ne_start_of_words {s : Text} {t u : Token} (ht : t ∈ tokenize s) (hu : u ∈ tokenize s)
    (htword : t.kind = .word) (huword : u.kind = .word) : t.span.stop ≠ u.span.start := by
  obtain ⟨front, c, rest, hs, hkind, hspan, -, -⟩ := exists_lexeme_at ht
  obtain ⟨front', d, rest', hs', hkind', hspan', -, -⟩ := exists_lexeme_at hu
  have hd : isWordChar d = true := (Lexeme.isWordChar_of_kind (hkind'.symm.trans huword)).1
  have hend := (Lexeme.isWordChar_of_kind (hkind.symm.trans htword)).2
  intro hmeet
  rw [hspan, hspan'] at hmeet
  have hmeet : front.length + (Lexeme.first c rest).text.length = front'.length := hmeet
  -- What stands behind the one word is the first character of the other.
  have hhead : (Lexeme.first c rest).after.head? = some d := by
    have hget : s[front'.length]? = some d := hs' ▸ getElem?_start
    rw [← hmeet, hs, ← Lexeme.first_append c rest, List.getElem?_append_right (Nat.le_add_right ..),
      Nat.add_sub_cancel_left, List.getElem?_append_right (Nat.le_refl _), Nat.sub_self] at hget
    rw [List.head?_eq_getElem?, hget]
  rw [hend d hhead] at hd
  cases hd

/-! ## The tiling -/

/-- **Tokens that tile a text.** -/
structure IsTiling (s : Text) (tokens : List Token) : Prop where
  /-- Every token has characters, and ends before the tokens behind it start. -/
  apart : Apart tokens
  /-- No token ends behind the text. -/
  inside : ∀ t ∈ tokens, t.span.stop ≤ s.length
  /-- What stands in no token is blank and no line end. -/
  gap : ∀ (i : Nat) (c : Char), s[i]? = some c → (∀ t ∈ tokens, t.span.Avoids i) →
    isBlank c = true ∧ c ≠ '\n'
  /-- The value of a token is what stands at its span. -/
  value : ∀ t ∈ tokens, t.kind ≠ .doc → t.value = t.span.slice s
  /-- The value of a doc comment is what stands behind its mark, without the blanks at the ends. -/
  doc : ∀ t ∈ tokens, t.kind = .doc →
    ∃ body, t.span.slice s = '/' :: '/' :: '/' :: body ∧ t.value = Text.trim body
  /-- A line end outside literals is a token by itself. -/
  newline : ∀ i : Nat, s[i]? = some '\n' → (∀ t ∈ tokens, t.kind = .string → t.span.Avoids i) →
    ∃ t ∈ tokens, t.kind = .newline ∧ t.span = ⟨i, i + 1⟩
  /-- Between two words stands something. -/
  words : ∀ t ∈ tokens, ∀ u ∈ tokens, t.kind = .word → u.kind = .word → t.span.stop ≠ u.span.start
  /-- The line of a token is one plus the number of the line ends before it. -/
  line : ∀ t ∈ tokens, t.line = 1 + (s.take t.span.start).count '\n'

/-- **The tokens of a text tile it.** -/
theorem tokenize_isTiling (s : Text) : IsTiling s (tokenize s) where
  apart := apart_tokensFrom 0 1 s
  inside t ht := by
    have hstop := (bounds_of_mem_tokensFrom ht).2.2
    rwa [Nat.zero_add] at hstop
  -- What no token covers is a blank.
  gap i c hi hgap := by
    obtain ⟨t, ht, hcovers⟩ | hblank := exists_covers_or_blank (o := 0) (l := 1) hi
    · rw [Nat.zero_add] at hcovers
      exact absurd (hgap t ht) hcovers
    · exact hblank
  value t ht hkind := by
    obtain ⟨-, -, -, -, -, -, -, hvalue⟩ := exists_lexeme_at ht
    rwa [if_neg hkind] at hvalue
  doc t ht hkind := by
    obtain ⟨front, c, rest, -, hsame, -, hslice, hvalue⟩ := exists_lexeme_at ht
    obtain ⟨body, hbody⟩ := Lexeme.exists_doc (hsame.symm.trans hkind)
    rw [if_pos hkind, hslice, hbody] at hvalue
    exact ⟨body, hslice.trans hbody, hvalue⟩
  -- A line end outside literals is a token, since no blank is one.
  newline i hi hliterals := by
    obtain ⟨t, ht, hcovers⟩ | ⟨-, hne⟩ := exists_covers_or_blank (o := 0) (l := 1) hi
    · rw [Nat.zero_add] at hcovers
      obtain hline | hstring := newline_of_not_avoids ht hi hcovers
      · exact ⟨t, ht, hline⟩
      · exact absurd (hliterals t ht hstring) hcovers
    · exact absurd rfl hne
  words _ ht _ hu := stop_ne_start_of_words ht hu
  line _ ht := line_eq_lineAt ht

/-- A literal over two lines moves the tokens behind it to the next line, and a backslash at the end
of the text takes nothing with it. -/
example : (tokenize "a'''b\n'''c\n///  d \n'\\".toList).map (fun t => (t.value, t.span, t.line))
    = [(['a'], ⟨0, 1⟩, 1), ("'''b\n'''".toList, ⟨1, 9⟩, 1), (['c'], ⟨9, 10⟩, 2),
      (['\n'], ⟨10, 11⟩, 2), (['d'], ⟨11, 18⟩, 3), (['\n'], ⟨18, 19⟩, 3),
      ("'\\".toList, ⟨19, 21⟩, 4)] := by decide +kernel

end SchemaDiagram
