import SchemaDiagram.Proofs.Entries
import SchemaDiagram.Proofs.Extent
import SchemaDiagram.Proofs.WrittenNumbers

/-! # Written values

A change writes a value as a bare text, which is a word or a number, or as a literal in single
quotes. Behind a colon such a text is read as a value: its tokens end no line and open nothing, the
first one starts where the text starts and the last one ends where it ends, and nothing but a quote
behind it could go on with it.

* **`isBareChar c`** — a character that stands in a bare text.
* **`leads_quoteValue`** — a quoted text is one literal, whatever stands in it.
* **`IsWritten v`** — what is known of a written value; `isWritten_formatValue` says that values are
  written so. -/

namespace SchemaDiagram

open Segment (Leads)

/-- Whether a token of the kind may stand anywhere in a line: it does not end the line, it opens and
closes nothing, and it is no doc comment. -/
def TokenKind.isFlat (k : TokenKind) : Bool := k.startsStatement && !k.opens && !k.closes

/-- **A text that is read as a value** where it stands behind a colon. -/
structure IsWritten (v : Text) : Prop where
  /-- It is not empty. -/
  ne_nil : v ≠ []
  /-- It has no blanks at its ends. -/
  trimmed : Trimmed v
  /-- It holds no comment and no open literal. -/
  settled : Settled v
  /-- It ends before everything but a quote. -/
  joint : ∀ t : Text, (∀ c ∈ t.head?, isQuoteChar c = false) → Joint v t
  /-- Its tokens stand in one line. -/
  flat : ∀ o l, ∀ t ∈ tokensFrom o l v, t.kind.isFlat = true
  /-- They make a value from its first to its last character. -/
  span : ∀ colon o l, valueSpanOf colon (tokensFrom o l v) = .behind o v

/-! ## Bare texts -/

/-- Whether a character may stand in a bare text: it has no meaning and is not blank. -/
def isBareChar (c : Char) : Bool := isKeyChar c && !isBlank c

/-- The characters of a bare value are those of a key that are not blanks. -/
theorem isBareChar_iff {c : Char} :
    isBareChar c = true ↔ isKeyChar c = true ∧ isBlank c = false := by
  simp [isBareChar]

/-- A character of a bare text is no quote and starts no comment. -/
theorem isBareChar_ne {c : Char} (h : isBareChar c = true) : isQuoteChar c = false ∧ c ≠ '/' := by
  obtain ⟨hbland, hslash, -⟩ := isKeyChar_iff.1 (isBareChar_iff.1 h).1
  exact ⟨(isBland_iff.1 hbland).1, hslash⟩

/-- A character without a meaning opens and closes nothing. -/
theorem isFlat_ofChar {c : Char} (h : isKeyChar c = true) : (TokenKind.ofChar c).isFlat = true := by
  unfold TokenKind.ofChar
  split
  all_goals first | rfl | exact absurd h (by decide)

/-- A bare text is solid. -/
theorem solid_of_bare {v : Text} (h : ∀ c ∈ v, isBareChar c = true) : Solid v := by
  induction v with
  | nil => exact Solid.nil
  | cons c v ih =>
    obtain ⟨hquote, hslash⟩ := isBareChar_ne (h c (List.mem_cons_self ..))
    exact (Solid.singleton hquote hslash).append (ih fun d hd => h d (List.mem_cons_of_mem _ hd))

/-- A bare text falls apart into words and single characters. -/
theorem Piece.exists_kind {kind : Option TokenKind} {x after : Text} (h : Piece kind x after)
    (hx : ∀ c ∈ x, isBareChar c = true) : ∃ k, kind = some k ∧ k.isFlat = true := by
  -- No other piece starts with a character that bare texts may hold.
  have hmark : ∀ {c : Char} {rest : Text}, x = c :: rest → isBareChar c = false → False := by
    rintro c rest rfl hc
    rw [hx c (List.mem_cons_self ..)] at hc
    cases hc
  cases h with
  | comment h =>
    cases h with
    | block => exact (hmark rfl (by decide)).elim
    | line => exact (hmark rfl (by decide)).elim
  | blank hb =>
    have hc := (isBareChar_iff.1 (hx _ (List.mem_cons_self ..))).2
    rw [hb] at hc
    cases hc
  | newline => exact (hmark rfl (by decide)).elim
  -- Literals start with a quotation mark.
  | literal h =>
    cases h with
    | @literal q => cases q <;> exact (hmark rfl (by decide)).elim
  | doc h =>
    cases h with
    | doc => exact (hmark rfl (by decide)).elim
  | word => exact ⟨_, rfl, rfl⟩
  | arrow => exact ⟨_, rfl, rfl⟩
  | char => exact ⟨_, rfl, isFlat_ofChar (isBareChar_iff.1 (hx _ (List.mem_cons_self ..))).1⟩

/-- **The tokens of a bare text** cover it and stand in one line. -/
theorem exists_tokens_of_bare {v : Text} (h : ∀ c ∈ v, isBareChar c = true) (hne : v ≠ [])
    (o l : Nat) : ∃ t others, tokensFrom o l v = t :: others ∧ t.span.start = o ∧
      (others.getLast?.getD t).span.stop = o + v.length ∧
      ∀ u ∈ t :: others, u.kind.isFlat = true := by
  induction v using pieces_induction generalizing o l with
  | nil => exact absurd rfl hne
  | append kind x after hpiece ih =>
    obtain ⟨k, rfl, hk⟩ := hpiece.exists_kind fun c hc => h c (List.mem_append_left _ hc)
    have hafter : ∀ c ∈ after, isBareChar c = true := fun c hc => h c (List.mem_append_right _ hc)
    have htokens := hpiece.tokensFrom_clean o l
    rw [(settled_of_keyChars fun c hc => (isBareChar_iff.1 (hafter c hc)).1).clean_eq] at htokens
    by_cases hnil : after = []
    · subst hnil
      rw [tokensFrom_nil] at htokens
      exact ⟨_, [], htokens, rfl, by simp [pieceToken, Lexeme.toToken],
        List.forall_mem_singleton.2 hk⟩
    · obtain ⟨t, others, hrest, -, hstop, hflat⟩ :=
        ih hafter hnil (o + x.length) (l + x.count '\n')
      rw [hrest] at htokens
      refine ⟨_, t :: others, htokens, rfl, ?_, List.forall_mem_cons.2 ⟨hk, hflat⟩⟩
      rw [List.getLast?_cons, Option.getD_some, hstop, List.length_append, Nat.add_assoc]

/-- **A bare text is a written value.** -/
theorem isWritten_of_bare {v : Text} (hne : v ≠ []) (h : ∀ c ∈ v, isBareChar c = true) :
    IsWritten v where
  ne_nil := hne
  trimmed := ⟨fun c hc => (isBareChar_iff.1 (h c (List.mem_of_mem_head? hc))).2,
    fun c hc => (isBareChar_iff.1 (h c (List.mem_of_mem_getLast? hc))).2⟩
  settled := settled_of_keyChars fun c hc => (isBareChar_iff.1 (h c hc)).1
  joint := fun t _ => solid_of_bare h t
  flat := by
    intro o l t ht
    obtain ⟨u, others, htokens, -, -, hflat⟩ := exists_tokens_of_bare h hne o l
    rw [htokens] at ht
    exact hflat t ht
  span := by
    intro colon o l
    obtain ⟨u, others, htokens, hstart, hstop, hflat⟩ := exists_tokens_of_bare h hne o l
    -- None of the tokens is a doc comment, so all of them belong to the value.
    have hfilter : (u :: others).filter (·.kind != .doc) = u :: others := by
      refine List.filter_eq_self.2 fun w hw => ?_
      have hw' := hflat w hw
      simp only [TokenKind.isFlat, TokenKind.startsStatement, Bool.and_eq_true] at hw'
      exact hw'.1.1.1.1.2
    rw [htokens, valueSpanOf, hfilter]
    dsimp only
    rw [hstart, hstop]
    rfl

/-! ## Quoted texts -/

/-- The characters of a text between single quotes. -/
def escaped (s : Text) : Text := s.flatMap fun c => if c = '\\' ∨ c = '\x27' then ['\\', c] else [c]

/-- A quoted text ends at its closing quote. -/
theorem finish_escaped {s : Text} (h : '\n' ∉ s) (t : Text) :
    Quote.single.finish (escaped s ++ '\x27' :: t) = (escaped s ++ ['\x27'], t) := by
  induction s with
  | nil => exact Quote.finish_mark .single t
  | cons c s ih =>
    have hrest := ih fun hs => h (List.mem_cons_of_mem _ hs)
    -- A backslash is put before the character, and the scanner takes both.
    by_cases hc : c = '\\' ∨ c = '\x27'
    · have htext : escaped (c :: s) = '\\' :: c :: escaped s := by
        rw [escaped, List.flatMap_cons, if_pos hc]
        rfl
      rw [htext, List.cons_append, List.cons_append, Quote.finish_backslash rfl, hrest]
      rfl
    · -- The character stands for itself, and the scanner goes past it.
      push Not at hc
      have htext : escaped (c :: s) = c :: escaped s := by
        rw [escaped, List.flatMap_cons, if_neg (by simp [hc])]
        rfl
      have hline : c ≠ '\n' := fun heq => h (heq ▸ List.mem_cons_self ..)
      have hmark : ¬ Quote.single.mark <+: c :: (escaped s ++ '\x27' :: t) := by
        simpa [Quote.mark] using Ne.symm hc.2
      rw [htext, List.cons_append,
        Quote.finish_cons (by simp [hc.1]) hmark (by simp [hline]), hrest]
      rfl

/-- A quoted value in front of a text starts with the mark and ends before the text. -/
theorem quoteValue_append (s t : Text) :
    quoteValue s ++ t = '\x27' :: (escaped s ++ '\x27' :: t) := by
  simp [quoteValue, escaped]

/-- A quoted text opens with a single quote, unless a quote follows it. -/
theorem opening?_quoteValue (s : Text) {t : Text} (ht : ∀ c ∈ t.head?, isQuoteChar c = false) :
    Quote.opening? (quoteValue s ++ t) = some .single := by
  have hne : t.head? ≠ some '\x27' := fun heq => absurd (ht _ heq) (by decide)
  -- A third quote would have to follow the first two at once.
  have hthird : ¬ ['\x27', '\x27'] <+: escaped s ++ '\x27' :: t := by
    cases s with
    | nil =>
      cases t with
      | nil => simp [escaped]
      | cons d t => simpa [escaped, eq_comm] using hne
    | cons c s =>
      -- The text starts with a backslash or with a character that is no quote.
      rw [escaped, List.flatMap_cons]
      split
      next => simp
      next hc =>
        push Not at hc
        simpa [eq_comm] using fun heq : c = '\x27' => absurd heq hc.2
  rw [quoteValue_append, Quote.opening?_cons, if_pos rfl, if_neg hthird]

/-- **A quoted text is one literal**, unless a quote follows it. -/
theorem leads_quoteValue {s : Text} (h : '\n' ∉ s) {t : Text}
    (ht : ∀ c ∈ t.head?, isQuoteChar c = false) : Leads (.literal (quoteValue s)) t := by
  have hquote : quoteValue s = Quote.single.mark ++ (escaped s ++ ['\x27']) := rfl
  have hopen := opening?_quoteValue s ht
  rw [hquote, List.append_assoc] at hopen
  rw [hquote]
  refine .literal hopen ?_
  rw [List.append_assoc]
  exact finish_escaped h t

/-- A quoted text is settled. -/
theorem settled_quoteValue {s : Text} (h : '\n' ∉ s) : Settled (quoteValue s) := by
  have hopen := opening?_quoteValue s (t := []) (by simp)
  have hclosed : isClosedLiteral (quoteValue s) = true := by
    rw [List.append_nil] at hopen
    rw [isClosedLiteral, hopen]
    dsimp only
    rw [Quote.literal, quoteValue_append, Quote.mark, List.length_singleton, List.drop_one,
      List.tail_cons, finish_escaped h [' ']]
    exact beq_self_eq_true _
  have hset := Settled.append_iff (leads_quoteValue h (t := []) (by simp))
  rw [List.append_nil] at hset
  exact hset.2 ⟨hclosed, Settled.nil⟩

/-- No blank stands at the ends of a quoted text. -/
theorem trimmed_quoteValue (s : Text) : Trimmed (quoteValue s) := by
  refine ⟨fun c hc => ?_, fun c hc => ?_⟩
  · obtain rfl : '\x27' = c := Option.some.inj hc
    decide
  · rw [quoteValue, List.getLast?_concat] at hc
    obtain rfl : '\x27' = c := Option.some.inj hc
    decide

/-- **A quoted text is a written value.** -/
theorem isWritten_quoteValue {s : Text} (h : '\n' ∉ s) : IsWritten (quoteValue s) := by
  -- The whole text is one token.
  have htokens : ∀ o l, tokensFrom o l (quoteValue s)
      = [pieceToken .string (quoteValue s) o l] := by
    intro o l
    have hpiece : Piece (some .string) (quoteValue s) [] := .literal (leads_quoteValue h (by simp))
    have heq := hpiece.tokensFrom_eq o l
    rwa [(settled_quoteValue h).clean_eq] at heq
  refine ⟨by simp [quoteValue], trimmed_quoteValue s, settled_quoteValue h,
    fun t ht => (leads_quoteValue h ht).joint, ?_, ?_⟩
  · intro o l t ht
    rw [htokens, List.mem_singleton] at ht
    rw [ht]
    rfl
  · -- It is what a value is trimmed to.
    intro colon o l
    rw [htokens]
    rfl

/-! ## Values of changes -/

/-- A plain text is a bare one. -/
theorem isBareChar_of_isPlainChar {c : Char} (h : isPlainChar c = true) : isBareChar c = true := by
  simp only [isPlainChar, Bool.or_eq_true, decide_eq_true_eq] at h
  rcases h with ((hword | rfl) | rfl) | rfl
  · -- A character of words is no mark and no blank.
    have hmark : ∀ d ∈ markChars, isWordChar d = false := by
      have hall : markChars.all (fun d => !isWordChar d) = true := by decide
      intro d hd
      simpa using List.all_eq_true.1 hall d hd
    refine isBareChar_iff.2 ⟨?_, isBlank_of_isWordChar hword⟩
    by_contra hkey
    rw [hmark c (by simpa [isKeyChar] using hkey)] at hword
    cases hword
  · decide
  · decide
  · decide

/-- The characters of numerals are bare. -/
theorem isBareChar_of_mem_numeralChars {c : Char} (h : c ∈ numeralChars) : isBareChar c = true := by
  have hall : numeralChars.all isBareChar = true := by decide
  exact List.all_eq_true.1 hall c h

/-- **A value is written bare or quoted.** -/
theorem formatValue_cases (value : Scalar) :
    (formatValue value ≠ [] ∧ ∀ c ∈ formatValue value, isBareChar c = true) ∨
      ∃ s, value = .text s ∧ formatValue value = quoteValue s := by
  -- Numbers are written in the characters of numerals.
  have hnumber : value.isNumber = true →
      formatValue value ≠ [] ∧ ∀ c ∈ formatValue value, isBareChar c = true := by
    intro hvalue
    obtain ⟨hne, hchars⟩ := formatValue_number hvalue
    exact ⟨hne, fun c hc => isBareChar_of_mem_numeralChars (hchars c hc)⟩
  cases value with
  | int n => exact .inl (hnumber rfl)
  | float x => exact .inl (hnumber rfl)
  | bool b =>
    have hbool : ∀ b, formatValue (.bool b) ≠ [] ∧
        (formatValue (.bool b)).all isBareChar = true := by
      decide
    exact .inl ⟨(hbool b).1, List.all_eq_true.1 (hbool b).2⟩
  | text s =>
    rw [formatValue]
    -- A text is bare where it is plain, else it is quoted.
    split
    next hplain =>
      simp only [isPlain, Bool.and_eq_true, bne_iff_ne, ne_eq, List.all_eq_true] at hplain
      exact .inl ⟨hplain.1, fun c hc => isBareChar_of_isPlainChar (hplain.2 c hc)⟩
    next => exact .inr ⟨s, rfl, rfl⟩

/-- **The values of a change are written so that they are read back**, where no text holds a line
end. -/
theorem isWritten_formatValue {value : Scalar} (h : ∀ s, value = .text s → '\n' ∉ s) :
    IsWritten (formatValue value) := by
  rcases formatValue_cases value with ⟨hne, hbare⟩ | ⟨s, hvalue, hquoted⟩
  · exact isWritten_of_bare hne hbare
  · rw [hquoted]
    exact isWritten_quoteValue (h s hvalue)

end SchemaDiagram
