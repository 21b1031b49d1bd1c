import SchemaDiagram.Proofs.Boundary
import SchemaDiagram.Source.Token

/-! # Pieces of a source text

The tokens of a text are read off the cleaned text, and the cleaned text is made from the segments.
A *piece* is a stretch of the text that both steps leave whole: a comment, a blank, or the
characters of one token. The tokens of a text are those of its pieces, one after another.

* **`Piece x after`** — the text `after` behind the piece `x` leaves it as it is;
  `pieces_induction` is induction on the pieces of a text.
* **`tokensFrom_clean_append`** — at a boundary that is not inside a word or an arrow, the tokens
  fall apart as the text does.
* **`exists_boundary_of_token`** — every token that is no line end starts at such a boundary.
* **`tokensFrom_shift`**, **`bounds_of_mem_tokensFrom`** — tokens move with their text and stay
  inside it. -/

namespace SchemaDiagram

open Segment (Leads)

/-! ## Words and blanks -/

/-- The blank characters. -/
def blankPoints : List Nat :=
  [0x20, 0x09, 0x0a, 0x0b, 0x0c, 0x0d, 0x1c, 0x1d, 0x1e, 0x1f, 0x85, 0xa0, 0x1680, 0x2000, 0x2001,
    0x2002, 0x2003, 0x2004, 0x2005, 0x2006, 0x2007, 0x2008, 0x2009, 0x200a, 0x2028, 0x2029, 0x202f,
    0x205f, 0x3000]

/-- There are no other blanks. -/
theorem mem_blankPoints {c : Char} (h : isBlank c = true) : c.toNat ∈ blankPoints := by
  simp only [isBlank, Bool.or_eq_true, Bool.and_eq_true, decide_eq_true_eq] at h
  simp only [blankPoints, List.mem_cons, List.not_mem_nil]
  omega

/-- No blank stands in a word. -/
theorem isWordChar_of_isBlank {c : Char} (h : isBlank c = true) : isWordChar c = false := by
  have hall : ∀ n ∈ blankPoints, isWordChar (Char.ofNat n) = false := by decide +kernel
  rw [← Char.ofNat_toNat c]
  exact hall _ (mem_blankPoints h)

/-- No blank stands in a word. -/
theorem isBlank_of_isWordChar {c : Char} (h : isWordChar c = true) : isBlank c = false := by
  by_contra hb
  rw [isWordChar_of_isBlank (by simpa using hb)] at h
  cases h

/-- A character of a word is no character with a meaning of its own. -/
theorem ne_of_isWordChar {c d : Char} (h : isWordChar c = true) (hd : isWordChar d = false) :
    c ≠ d := by
  rintro rfl
  rw [h] at hd
  cases hd

/-- A character of a word is no quote. -/
theorem isQuoteChar_of_isWordChar {c : Char} (h : isWordChar c = true) : isQuoteChar c = false := by
  have h₁ : c ≠ '\x27' := ne_of_isWordChar h (by decide)
  have h₂ : c ≠ '"' := ne_of_isWordChar h (by decide)
  have h₃ : c ≠ '\x60' := ne_of_isWordChar h (by decide)
  simp [isQuoteChar, h₁, h₂, h₃]

/-- A blank is no character with a meaning of its own. -/
theorem ne_of_isBlank {c d : Char} (h : isBlank c = true) (hd : isBlank d = false) : c ≠ d := by
  rintro rfl
  rw [h] at hd
  cases hd

/-- A blank is no quote. -/
theorem isQuoteChar_of_isBlank {c : Char} (h : isBlank c = true) : isQuoteChar c = false := by
  have h₁ : c ≠ '\x27' := ne_of_isBlank h (by decide)
  have h₂ : c ≠ '"' := ne_of_isBlank h (by decide)
  have h₃ : c ≠ '\x60' := ne_of_isBlank h (by decide)
  simp [isQuoteChar, h₁, h₂, h₃]

/-! ## Lexemes by kind -/

namespace Lexeme

/-- A line end is a token of its own. -/
theorem first_newline (rest : Text) : first '\n' rest = ⟨.newline, ['\n'], rest⟩ := by
  simp [first]

/-- Three slashes start the token of a doc comment. -/
theorem first_doc (s : Text) :
    first '/' ('/' :: '/' :: s)
      = ⟨.doc, '/' :: '/' :: '/' :: (takeLine s).1, (takeLine s).2⟩ := by
  simp [first, takeLine]

/-- An opening mark starts the token of a literal. -/
theorem first_string {c : Char} {rest : Text} {q : Quote}
    (h : Quote.opening? (c :: rest) = some q) :
    first c rest = ⟨.string, (q.literal (c :: rest)).1, (q.literal (c :: rest)).2⟩ := by
  have hquote : isQuoteChar c = true := by
    by_contra hc
    rw [Quote.opening?_eq_none_iff.2 (by simpa using hc)] at h
    cases h
  have hline : c ≠ '\n' := by rintro rfl; exact absurd hquote (by decide)
  have hslash : ¬ '/' = c := by rintro rfl; exact absurd hquote (by decide)
  simp [first, hline, hslash, h]

/-- The characters of a word are one token. -/
theorem first_word {c : Char} {rest : Text} (h : isWordChar c = true) :
    first c rest
      = ⟨.word, (c :: rest).takeWhile isWordChar, (c :: rest).dropWhile isWordChar⟩ := by
  have hline : c ≠ '\n' := ne_of_isWordChar h (by decide)
  have hslash : ¬ '/' = c := (ne_of_isWordChar h (by decide)).symm
  have hnone : Quote.opening? (c :: rest) = none :=
    Quote.opening?_eq_none_iff.2 (isQuoteChar_of_isWordChar h)
  simp [first, hline, hslash, hnone, h]

/-- An arrow in both directions is one token. -/
theorem first_arrow (rest : Text) :
    first '<' ('>' :: rest) = ⟨.operator, ['<', '>'], rest⟩ := by
  have hnone : Quote.opening? ('<' :: '>' :: rest) = none :=
    Quote.opening?_eq_none_iff.2 (by decide)
  have hword : isWordChar '<' = false := by decide
  simp [first, hnone, hword]

/-- Any other character is a token of its own. -/
theorem first_char {c : Char} {rest : Text} (hline : c ≠ '\n') (hq : isQuoteChar c = false)
    (hword : isWordChar c = false) (hslash : c = '/' → rest.head? ≠ some '/')
    (harrow : c = '<' → rest.head? ≠ some '>') : first c rest = ⟨.ofChar c, [c], rest⟩ := by
  have hnone : Quote.opening? (c :: rest) = none := Quote.opening?_eq_none_iff.2 hq
  -- What starts a longer token has a second character, which is excluded.
  have hdoc : ¬ "///".toList.isPrefixOf (c :: rest) = true := by
    intro h
    obtain ⟨r, hr⟩ := List.isPrefixOf_iff_prefix.1 h
    obtain ⟨rfl, rfl⟩ := List.cons.inj hr
    exact hslash rfl rfl
  have hpair : ¬ "<>".toList.isPrefixOf (c :: rest) = true := by
    intro h
    obtain ⟨r, hr⟩ := List.isPrefixOf_iff_prefix.1 h
    obtain ⟨rfl, rfl⟩ := List.cons.inj hr
    exact harrow rfl rfl
  simp only [first, hline, if_false, hdoc, hnone, hword, hpair]
  simp

/-- A line end is one character. -/
theorem eq_newline_of_kind {c : Char} {rest : Text} (h : (first c rest).kind = .newline) :
    c = '\n' := by
  by_contra hne
  -- Each branch of the scanner but the first has another kind.
  simp only [first, hne, if_false] at h
  split at h
  next => cases h
  next =>
    split at h
    next => cases h
    next =>
      split at h
      next => cases h
      next =>
        split at h
        next => cases h
        next =>
          simp only [TokenKind.ofChar] at h
          split at h <;> cases h

end Lexeme

/-! ## Reading one token -/

/-- A blank that is no line end is skipped. -/
theorem tokensFrom_blank {c : Char} (hb : isBlank c = true) (hn : c ≠ '\n') (o l : Nat)
    (rest : Text) : tokensFrom o l (c :: rest) = tokensFrom (o + 1) l rest := by
  rw [tokensFrom]
  simp [hb, hn]

/-- The first lexeme of a text is its first token. -/
theorem tokensFrom_lexeme {c : Char} (h : isBlank c = false ∨ c = '\n') (o l : Nat) (rest : Text) :
    tokensFrom o l (c :: rest) = (Lexeme.first c rest).toToken o l ::
      tokensFrom (o + (Lexeme.first c rest).text.length)
        (l + (Lexeme.first c rest).text.count '\n') (Lexeme.first c rest).after := by
  rw [tokensFrom]
  rcases h with h | h <;> simp [h]

/-- Written-over characters are skipped, their line ends apart. -/
theorem tokensFrom_blankOut (o l : Nat) (x z : Text) :
    tokensFrom o l (blankOut x ++ z)
      = tokensFrom o l (blankOut x) ++ tokensFrom (o + x.length) (l + x.count '\n') z := by
  induction x generalizing o l with
  | nil => simp [blankOut]
  | cons c x ih =>
    have hcons : blankOut (c :: x) = (if c = '\n' then '\n' else ' ') :: blankOut x := rfl
    rw [hcons, List.cons_append]
    have hlen : o + (c :: x).length = o + 1 + x.length := by
      rw [List.length_cons]
      omega
    rw [hlen]
    -- A line end stays one, and it is a token.
    by_cases hc : c = '\n'
    · have hcount : l + (c :: x).count '\n' = l + 1 + x.count '\n' := by
        rw [hc, List.count_cons_self]
        omega
      rw [if_pos hc, hcount, tokensFrom_lexeme (.inr rfl), tokensFrom_lexeme (.inr rfl),
        Lexeme.first_newline, Lexeme.first_newline, List.cons_append]
      exact congrArg _ (ih (o + 1) (l + 1))
    · -- Any other character is a blank, which is skipped.
      rw [if_neg hc, List.count_cons_of_ne hc, tokensFrom_blank (by decide) (by decide),
        tokensFrom_blank (by decide) (by decide), ih]

/-- Written-over characters are no tokens but line ends. -/
theorem kind_of_mem_blankOut {o l : Nat} {x : Text} {t : Token}
    (h : t ∈ tokensFrom o l (blankOut x)) : t.kind = .newline := by
  induction x generalizing o l with
  | nil => simp [blankOut] at h
  | cons c x ih =>
    have hcons : blankOut (c :: x) = (if c = '\n' then '\n' else ' ') :: blankOut x := rfl
    rw [hcons] at h
    by_cases hc : c = '\n'
    · rw [if_pos hc, tokensFrom_lexeme (.inr rfl), Lexeme.first_newline, List.mem_cons] at h
      rcases h with rfl | h
      · rfl
      · exact ih h
    · rw [if_neg hc, tokensFrom_blank (by decide) (by decide)] at h
      exact ih h

/-! ## Pieces -/

/-- **The text `after` behind a piece leaves it as it is.** A piece without a kind is a comment or a
blank, every other piece is a token of its kind. -/
inductive Piece : Option TokenKind → Text → Text → Prop
  | comment {x after : Text} (h : Leads (.comment x) after) : Piece none x after
  | blank {c : Char} {after : Text} (hb : isBlank c = true) (hn : c ≠ '\n') : Piece none [c] after
  | newline {after : Text} : Piece (some .newline) ['\n'] after
  | literal {x after : Text} (h : Leads (.literal x) after) : Piece (some .string) x after
  | doc {x after : Text} (h : Leads (.doc x) after) : Piece (some .doc) x after
  | word {x after : Text} (hne : x ≠ []) (hx : ∀ c ∈ x, isWordChar c = true)
      (hafter : ∀ c ∈ after.head?, isWordChar c = false) : Piece (some .word) x after
  | arrow {after : Text} : Piece (some .operator) ['<', '>'] after
  | char {c : Char} {after : Text} (h : Leads (.char c) after) (hb : isBlank c = false)
      (hw : isWordChar c = false) (ha : c = '<' → after.head? ≠ some '>') :
      Piece (some (.ofChar c)) [c] after

/-- The token that a piece is at the given place. -/
def pieceToken (kind : TokenKind) (x : Text) (offset line : Nat) : Token :=
  (Lexeme.mk kind x []).toToken offset line

/-- A text that starts with no character that could go on with a word or an arrow. -/
def Severs (t : Text) : Prop := ∀ c ∈ t.head?, isWordChar c = false ∧ c ≠ '>'

namespace Solid

/-- A blank is solid. -/
theorem of_isBlank {c : Char} (h : isBlank c = true) : Solid [c] :=
  singleton (isQuoteChar_of_isBlank h) (ne_of_isBlank h (by decide))

/-- A word is solid. -/
theorem of_word {x : Text} (h : ∀ c ∈ x, isWordChar c = true) : Solid x := by
  induction x with
  | nil => exact nil
  | cons c x ih =>
    have hc := h c (List.mem_cons_self ..)
    have hx : Solid x := ih fun d hd => h d (List.mem_cons_of_mem _ hd)
    exact (singleton (isQuoteChar_of_isWordChar hc) (ne_of_isWordChar hc (by decide))).append hx

end Solid

/-- A segment ends at a boundary. -/
theorem Segment.Leads.joint {segment : Segment} {after : Text} (h : Leads segment after) :
    Joint segment.text after :=
  @Joint.of_segments _ _ [segment] _ (segments_append h) (by simp)

namespace Piece

variable {kind : Option TokenKind} {x s t after : Text}

/-- **A piece ends at a boundary.** -/
theorem joint (h : Piece kind x after) : Joint x after := by
  cases h with
  | comment h => exact h.joint
  | blank hb => exact Solid.of_isBlank hb after
  | newline => exact Solid.of_isBlank (by decide) after
  | literal h => exact h.joint
  | doc h => exact h.joint
  | word hne hx => exact Solid.of_word hx after
  | arrow =>
    have hleft : Solid ['<'] := Solid.singleton (by decide) (by decide)
    have hright : Solid ['>'] := Solid.singleton (by decide) (by decide)
    exact hleft.append hright after
  | char h => exact h.joint

/-- A piece has at least one character. -/
theorem ne_nil (h : Piece kind x after) : x ≠ [] := by
  cases h with
  | comment h => exact h.text_ne_nil
  | literal h => exact h.text_ne_nil
  | doc h => exact h.text_ne_nil
  | word hne => exact hne
  | _ => exact List.cons_ne_nil _ _

/-- A piece stays whole when the text behind it is cut off further behind. -/
theorem of_append (h : Piece kind x (s ++ t)) : Piece kind x s := by
  have hf : Follows (s ++ t) s := .of_append s t
  have hhead : ∀ c ∈ s.head?, c ∈ (s ++ t).head? := by
    intro c hc
    obtain ⟨r, rfl⟩ := List.head?_eq_some_iff.1 hc
    rfl
  cases h with
  | comment h => exact .comment (h.of_follows hf)
  | blank hb hn => exact .blank hb hn
  | newline => exact .newline
  | literal h => exact .literal (h.of_follows hf)
  | doc h => exact .doc (h.of_follows hf)
  | word hne hx hafter => exact .word hne hx fun c hc => hafter c (hhead c hc)
  | arrow => exact .arrow
  | char h hb hw ha =>
    exact .char (h.of_follows hf) hb hw fun hc hs => ha hc (hhead _ hs)

/-- **A piece stays whole when a text is put behind it at a boundary.** -/
theorem append (h : Piece kind x s) (hj : Joint (x ++ s) t) (ht : Severs t) :
    Piece kind x (s ++ t) := by
  -- What stands next is what stood there, or the start of the new text, which severs.
  have hhead : ∀ c ∈ (s ++ t).head?, c ∈ s.head? ∨ isWordChar c = false ∧ c ≠ '>' := by
    intro c hc
    cases s with
    | nil => exact .inr (ht c hc)
    | cons d s => exact .inl hc
  cases h with
  | comment h => exact .comment (hj.of_segment_append h).1
  | blank hb hn => exact .blank hb hn
  | newline => exact .newline
  | literal h => exact .literal (hj.of_segment_append h).1
  | doc h => exact .doc (hj.of_segment_append h).1
  | word hne hx hafter =>
    refine .word hne hx fun c hc => ?_
    rcases hhead c hc with hs | ⟨hw, -⟩
    · exact hafter c hs
    · exact hw
  | arrow => exact .arrow
  | char h hb hw ha =>
    refine .char (hj.of_segment_append h).1 hb hw fun hc hs => ?_
    rcases hhead _ hs with hs | ⟨-, hne⟩
    · exact ha hc hs
    · exact hne rfl

/-- A character with a meaning of its own is a piece, whatever follows it. -/
theorem of_char {c : Char} (hq : isQuoteChar c = false) (hb : isBlank c = false)
    (hw : isWordChar c = false) (hc : c ≠ '/' ∧ c ≠ '<') (t : Text) :
    Piece (some (.ofChar c)) [c] t :=
  .char (.char hq fun h => absurd h hc.1) hb hw fun h => absurd h hc.2

/-- A text that is not empty starts with a piece. -/
theorem exists_of_cons (c : Char) (rest : Text) :
    ∃ kind x after, c :: rest = x ++ after ∧ Piece kind x after := by
  have happ := Segment.first_append c rest
  have hlead := Segment.leads_first c rest
  -- The first segment of the text tells which piece it starts with.
  cases hseg : (Segment.first c rest).1 with
  | literal x =>
    rw [hseg] at happ hlead
    exact ⟨_, _, _, happ.symm, .literal hlead⟩
  | doc x =>
    rw [hseg] at happ hlead
    exact ⟨_, _, _, happ.symm, .doc hlead⟩
  | comment x =>
    rw [hseg] at happ hlead
    exact ⟨_, _, _, happ.symm, .comment hlead⟩
  | char d =>
    rw [hseg] at happ hlead
    obtain ⟨rfl, hrest⟩ := List.cons.inj happ
    change (Segment.first d rest).2 = rest at hrest
    rw [hrest] at hlead
    -- A plain character is looked at in the order in which the scanner does.
    by_cases hb : isBlank d = true
    · by_cases hn : d = '\n'
      · exact ⟨some .newline, ['\n'], rest, by rw [hn]; rfl, .newline⟩
      · exact ⟨_, [d], rest, rfl, .blank hb hn⟩
    · by_cases hw : isWordChar d = true
      · refine ⟨_, (d :: rest).takeWhile isWordChar, (d :: rest).dropWhile isWordChar,
          List.takeWhile_append_dropWhile.symm, .word (by simp [hw]) ?_ ?_⟩
        · exact fun e he => List.mem_takeWhile_imp he
        · intro e he
          have hnot := List.head?_dropWhile_not isWordChar (d :: rest)
          rw [Option.mem_def.1 he] at hnot
          simpa using hnot
      · by_cases ha : d = '<' ∧ rest.head? = some '>'
        · obtain ⟨rfl, hs⟩ := ha
          obtain ⟨r, rfl⟩ := List.head?_eq_some_iff.1 hs
          exact ⟨_, ['<', '>'], r, rfl, .arrow⟩
        · exact ⟨_, [d], rest, rfl, .char hlead (by simpa using hb) (by simpa using hw)
            fun hc hs => ha ⟨hc, hs⟩⟩

end Piece

/-- **Induction on the pieces of a text.** -/
@[elab_as_elim]
theorem pieces_induction {P : Text → Prop} (nil : P [])
    (append : ∀ kind x after, Piece kind x after → P after → P (x ++ after)) (s : Text) : P s := by
  induction hn : s.length using Nat.strongRecOn generalizing s with
  | ind n ih =>
    cases s with
    | nil => exact nil
    | cons c rest =>
      obtain ⟨kind, x, after, happ, hpiece⟩ := Piece.exists_of_cons c rest
      have hpos := List.length_pos_iff.2 hpiece.ne_nil
      have hlen := congrArg List.length happ
      rw [List.length_append] at hlen
      rw [happ]
      exact append kind x after hpiece (ih _ (by omega) after rfl)

/-! ## The tokens of pieces -/

/-- A text that starts with a lexeme starts with its token. -/
theorem tokensFrom_of_first {c : Char} {rest x z : Text} {kind : TokenKind}
    (hs : x ++ z = c :: rest) (hc : isBlank c = false ∨ c = '\n')
    (hf : Lexeme.first c rest = ⟨kind, x, z⟩) (o l : Nat) :
    tokensFrom o l (x ++ z)
      = pieceToken kind x o l :: tokensFrom (o + x.length) (l + x.count '\n') z := by
  rw [hs, tokensFrom_lexeme hc, hf]
  rfl

/-- A quote is no blank. -/
theorem isBlank_of_isQuoteChar {c : Char} (h : isQuoteChar c = true) : isBlank c = false := by
  by_contra hb
  rw [isQuoteChar_of_isBlank (by simpa using hb)] at h
  cases h

/-- A character that is no quote and no slash is a segment by itself. -/
theorem segments_cons_char {c : Char} (hq : isQuoteChar c = false) (hc : c ≠ '/') (t : Text) :
    segments (c :: t) = .char c :: segments t :=
  segments_append (.char hq fun h => absurd h hc)

@[simp] theorem clean_nil : clean [] = [] := by simp [clean]

/-- A segment that a text is made of alone is all there is to clean. -/
theorem clean_of_leads {segment : Segment} {after : Text} (h : Leads segment after) :
    clean segment.text = segment.cleaned := by
  have hnil := segments_append (h.of_follows (.inl rfl : Follows after []))
  rw [List.append_nil, segments_nil] at hnil
  rw [clean, hnil]
  simp

namespace Piece

variable {k : TokenKind} {x s t after : Text}

/-- **A token is read off its piece**, and what follows the piece is read by itself. -/
theorem tokensFrom_clean (h : Piece (some k) x after) (o l : Nat) :
    tokensFrom o l (x ++ clean after)
      = pieceToken k x o l :: tokensFrom (o + x.length) (l + x.count '\n') (clean after) := by
  cases h with
  | newline => exact tokensFrom_of_first rfl (.inr rfl) (Lexeme.first_newline _) o l
  | literal h =>
    have hlead := h.of_follows (follows_clean after)
    obtain ⟨c, rest, hs⟩ := List.exists_cons_of_ne_nil
      (List.append_ne_nil_of_left_ne_nil h.text_ne_nil (clean after))
    generalize clean after = z at hlead hs ⊢
    cases hlead with
    -- The mark opens a literal, and the scanner stops where the literal does.
    | @literal q body _ ho hfin =>
      have hs' : q.mark ++ (body ++ z) = c :: rest := by
        rw [← List.append_assoc]
        exact hs
      rw [hs'] at ho
      have hq : isQuoteChar c = true := by
        rw [← Bool.not_eq_false, ← @Quote.opening?_eq_none_iff c rest, ho]
        simp
      refine tokensFrom_of_first hs (.inl (isBlank_of_isQuoteChar hq)) ?_ o l
      rw [Lexeme.first_string ho, Quote.literal, ← hs', List.drop_left, hfin]
      rfl
  | doc h =>
    have hlead := h.of_follows (follows_clean after)
    generalize clean after = z at hlead ⊢
    cases hlead with
    | @doc body _ hline =>
      refine tokensFrom_of_first rfl (.inl (by decide)) ?_ o l
      exact (Lexeme.first_doc (body ++ z)).trans (by rw [hline])
  | word hne hx hafter =>
    obtain ⟨c, y, rfl⟩ := List.exists_cons_of_ne_nil hne
    have hc : isWordChar c = true := hx c (List.mem_cons_self ..)
    -- Cleaning leaves what follows a word, or makes a blank of it.
    have hz : ∀ d ∈ (clean after).head?, isWordChar d = false := by
      intro d hd
      rcases head?_clean after with hh | ⟨-, hh⟩
      · exact hafter d (hh ▸ hd)
      · rw [hh] at hd
        cases hd
        decide
    refine tokensFrom_of_first rfl (.inl (isBlank_of_isWordChar hc)) ?_ o l
    obtain ⟨htake, hdrop⟩ := takeWhile_of_head hx hz
    rw [List.append_eq, Lexeme.first_word hc]
    rw [List.cons_append] at htake hdrop
    rw [htake, hdrop]
  | arrow => exact tokensFrom_of_first rfl (.inl (by decide)) (Lexeme.first_arrow _) o l
  | @char c _ h hb hw ha =>
    cases h with
    | char hq hslash =>
      -- Cleaning leaves the next character or makes a blank of it, so no longer mark arises.
      have hcase : (clean after).head? = after.head? ∨ (clean after).head? = some ' ' := by
        rcases head?_clean after with hh | ⟨-, hh⟩
        · exact .inl hh
        · exact .inr hh
      refine tokensFrom_of_first rfl (.inl hb) (Lexeme.first_char ?_ hq hw ?_ ?_) o l
      · rintro rfl
        exact absurd hb (by decide)
      · intro hc
        rcases hcase with hh | hh
        · rw [hh]
          exact (hslash hc).1
        · rw [hh]
          decide
      · intro hc
        rcases hcase with hh | hh
        · rw [hh]
          exact ha hc
        · rw [hh]
          decide

/-- Cleaning leaves a token as it is. -/
theorem clean_eq (h : Piece (some k) x after) : clean x = x := by
  cases h with
  | newline => decide +kernel
  | literal h => exact clean_of_leads h
  | doc h => exact clean_of_leads h
  | word hne hx =>
    clear hne
    induction x with
    | nil => exact clean_nil
    | cons c x ih =>
      have hc := hx c (List.mem_cons_self ..)
      rw [clean,
        segments_cons_char (isQuoteChar_of_isWordChar hc) (ne_of_isWordChar hc (by decide)),
        List.flatMap_cons]
      exact congrArg (c :: ·) (ih fun d hd => hx d (List.mem_cons_of_mem _ hd))
  | arrow => decide +kernel
  | char h => exact clean_of_leads h

/-- A piece without a kind has no tokens but line ends, and what follows it is read by itself. -/
theorem gap (h : Piece none x after) :
    (∀ o l, ∀ t ∈ tokensFrom o l (clean x), t.kind = .newline) ∧
      ∀ o l z, tokensFrom o l (clean x ++ z)
        = tokensFrom o l (clean x) ++ tokensFrom (o + x.length) (l + x.count '\n') z := by
  cases h with
  -- A comment is written over with blanks and line ends.
  | comment h =>
    have hclean : clean x = blankOut x := clean_of_leads h
    rw [hclean]
    exact ⟨fun o l t => kind_of_mem_blankOut, fun o l z => tokensFrom_blankOut o l x z⟩
  | @blank c _ hb hn =>
    have hseg : Leads (.char c) [] :=
      .char (isQuoteChar_of_isBlank hb) fun h => absurd h (ne_of_isBlank hb (by decide))
    have hclean : clean [c] = [c] := clean_of_leads hseg
    have hnil : ∀ o l, tokensFrom o l [c] = [] := by
      intro o l
      rw [tokensFrom_blank hb hn, tokensFrom_nil]
    rw [hclean]
    refine ⟨fun o l t ht => ?_, fun o l z => ?_⟩
    · rw [hnil] at ht
      cases ht
    · rw [hnil, List.singleton_append, tokensFrom_blank hb hn, List.count_cons_of_ne hn]
      rfl

/-- A token alone is all that is read of its piece. -/
theorem tokensFrom_eq (h : Piece (some k) x after) (o l : Nat) :
    tokensFrom o l (clean x) = [pieceToken k x o l] := by
  have hnil : Piece (some k) x [] := h.of_append (s := []) 
  have htok := hnil.tokensFrom_clean o l
  rw [clean_nil, List.append_nil, tokensFrom_nil] at htok
  rw [h.clean_eq, htok]

/-- **The tokens of a piece come before those of what follows it.** -/
theorem tokensFrom_append {kind : Option TokenKind} (h : Piece kind x after) (o l : Nat) :
    tokensFrom o l (clean (x ++ after))
      = tokensFrom o l (clean x) ++ tokensFrom (o + x.length) (l + x.count '\n') (clean after) := by
  rw [h.joint.clean_append]
  cases kind with
  | none => exact h.gap.2 o l (clean after)
  | some k =>
    rw [h.tokensFrom_eq, h.clean_eq]
    exact h.tokensFrom_clean o l

end Piece

/-! ## Boundaries of tokens -/

/-- **The tokens fall apart as the text does**, at a boundary that is not inside a word or an
arrow. -/
theorem tokensFrom_clean_append {s t : Text} (h : Joint s t) (ht : Severs t) (o l : Nat) :
    tokensFrom o l (clean (s ++ t))
      = tokensFrom o l (clean s) ++ tokensFrom (o + s.length) (l + s.count '\n') (clean t) := by
  induction s using pieces_induction generalizing o l with
  | nil => simp
  | append kind x after hpiece ih =>
    have hafter : Joint after t := (Joint.split hpiece.joint h).2
    have hlen : o + (x ++ after).length = o + x.length + after.length := by
      rw [List.length_append, Nat.add_assoc]
    have hcount : l + (x ++ after).count '\n' = l + x.count '\n' + after.count '\n' := by
      rw [List.count_append, Nat.add_assoc]
    rw [List.append_assoc, (hpiece.append h ht).tokensFrom_append, ih hafter,
      hpiece.tokensFrom_append, List.append_assoc, hlen, hcount]

/-- **Every token that is no line end starts at a boundary**, and a piece stands there. -/
theorem exists_boundary_of_token {s : Text} {o l : Nat} {front back : List Token} {t : Token}
    (h : tokensFrom o l (clean s) = front ++ t :: back) (ht : t.kind ≠ .newline) :
    ∃ s₁ k x s₂, s = s₁ ++ (x ++ s₂) ∧ Joint s₁ (x ++ s₂) ∧ Piece (some k) x s₂ ∧
      tokensFrom o l (clean s₁) = front ∧
      t = pieceToken k x (o + s₁.length) (l + s₁.count '\n') ∧
      tokensFrom (o + s₁.length + x.length) (l + s₁.count '\n' + x.count '\n') (clean s₂)
        = back := by
  induction s using pieces_induction generalizing o l front with
  | nil => simp at h
  | append kind x after hpiece ih =>
    rw [hpiece.tokensFrom_append] at h
    -- The token stands in the piece or behind it, whatever the piece holds before it.
    have hcase : (∃ k, kind = some k ∧ front = []) ∨ ∃ front',
        front = tokensFrom o l (clean x) ++ front' ∧
        tokensFrom (o + x.length) (l + x.count '\n') (clean after) = front' ++ t :: back := by
      cases kind with
      | none =>
        rcases List.append_eq_append_iff.1 h with ⟨mid, hfront, hafter⟩ | ⟨mid, hx, hback⟩
        · exact .inr ⟨mid, hfront, hafter⟩
        · cases mid with
          | nil => exact .inr ⟨[], by simpa using hx.symm, by simpa using hback.symm⟩
          | cons u mid =>
            obtain ⟨rfl, -⟩ := List.cons.inj hback
            exact absurd (hpiece.gap.1 o l t (by rw [hx]; simp)) ht
      | some k =>
        rw [hpiece.tokensFrom_eq] at h ⊢
        cases front with
        | nil => exact .inl ⟨k, rfl, rfl⟩
        | cons u front =>
          obtain ⟨rfl, hafter⟩ := List.cons.inj h
          exact .inr ⟨front, rfl, hafter⟩
    rcases hcase with ⟨k, rfl, rfl⟩ | ⟨front', rfl, hafter⟩
    · rw [hpiece.tokensFrom_eq] at h
      obtain ⟨rfl, hback⟩ := List.cons.inj h
      exact ⟨[], k, x, after, rfl, Joint.nil_left _, hpiece, by simp, rfl, hback⟩
    · obtain ⟨s₁, k, y, s₂, rfl, hjoint, hpiece', hfront, rfl, hback⟩ := ih hafter
      have hlen : ∀ n, n + (x ++ s₁).length = n + x.length + s₁.length := by
        intro n
        rw [List.length_append, Nat.add_assoc]
      have hcount : ∀ n, n + (x ++ s₁).count '\n' = n + x.count '\n' + s₁.count '\n' := by
        intro n
        rw [List.count_append, Nat.add_assoc]
      refine ⟨x ++ s₁, k, y, s₂, by rw [List.append_assoc], hpiece.joint.trans hjoint, hpiece', ?_,
        ?_, ?_⟩
      · rw [hpiece.of_append.tokensFrom_append, hfront]
      · rw [hlen, hcount]
      · rw [hlen, hcount]
        exact hback

/-! ## Where tokens stand -/

/-- The token with its text `n` places and `m` lines further on. -/
def Token.move (n m : Nat) (t : Token) : Token :=
  { t with span := t.span.shift n, line := t.line + m }

@[simp] theorem Token.move_kind (n m : Nat) (t : Token) : (t.move n m).kind = t.kind := rfl

@[simp] theorem Token.move_value (n m : Nat) (t : Token) : (t.move n m).value = t.value := rfl

@[simp] theorem Token.move_start (n m : Nat) (t : Token) :
    (t.move n m).span.start = t.span.start + n := rfl

@[simp] theorem Token.move_stop (n m : Nat) (t : Token) :
    (t.move n m).span.stop = t.span.stop + n := rfl

/-- **Tokens move with their text.** -/
theorem tokensFrom_move (o l n m : Nat) (s : Text) :
    tokensFrom (o + n) (l + m) s = (tokensFrom o l s).map (Token.move n m) := by
  fun_induction tokensFrom o l s with
  | case1 => simp
  | case2 o l c rest hc ih =>
    obtain ⟨hb, hn⟩ : isBlank c = true ∧ c ≠ '\n' := by simpa using hc
    rw [tokensFrom_blank hb hn, ← ih, Nat.add_right_comm]
  | case3 o l c rest hc lexeme ih =>
    have hcase : isBlank c = false ∨ c = '\n' := by
      by_contra hneg
      simp_all
    rw [tokensFrom_lexeme hcase, List.map_cons, ← ih]
    -- The lexeme is the same, and its token moves.
    have htok : lexeme.toToken (o + n) (l + m) = (lexeme.toToken o l).move n m := by
      simp only [Lexeme.toToken, Token.move, Span.shift, Nat.add_right_comm]
    rw [← htok, Nat.add_right_comm o n, Nat.add_right_comm l m]

/-- **Every token is the lexeme at its place.** -/
theorem exists_lexeme_of_token {o l : Nat} {s : Text} {t : Token} (h : t ∈ tokensFrom o l s) :
    ∃ front c rest line, s = front ++ c :: rest ∧
      t = (Lexeme.first c rest).toToken (o + front.length) line := by
  fun_induction tokensFrom o l s with
  | case1 => cases h
  | case2 o l c rest hc ih =>
    obtain ⟨front, d, behind, line, rfl, rfl⟩ := ih h
    exact ⟨c :: front, d, behind, line,
      rfl, by rw [List.length_cons, Nat.add_right_comm, Nat.add_assoc]⟩
  | case3 o l c rest hc lexeme ih =>
    rcases List.mem_cons.1 h with rfl | h
    · exact ⟨[], c, rest, l, rfl, rfl⟩
    · obtain ⟨front, d, behind, line, hafter, rfl⟩ := ih h
      refine ⟨lexeme.text ++ front, d, behind, line, ?_, by rw [List.length_append, Nat.add_assoc]⟩
      rw [List.append_assoc, ← hafter]
      exact (Lexeme.first_append c rest).symm

/-- **Tokens stay inside their text.** -/
theorem bounds_of_mem_tokensFrom {o l : Nat} {s : Text} {t : Token} (h : t ∈ tokensFrom o l s) :
    o ≤ t.span.start ∧ t.span.start ≤ t.span.stop ∧ t.span.stop ≤ o + s.length := by
  fun_induction tokensFrom o l s with
  | case1 => cases h
  | case2 o l c rest hc ih =>
    have := ih h
    rw [List.length_cons]
    omega
  | case3 o l c rest hc lexeme ih =>
    -- The lexeme and what follows it make up the text.
    have hlen : lexeme.text.length + lexeme.after.length = (c :: rest).length := by
      rw [← List.length_append, Lexeme.first_append c rest]
    rcases List.mem_cons.1 h with rfl | h
    · simp only [Lexeme.toToken]
      omega
    · have := ih h
      omega

end SchemaDiagram
