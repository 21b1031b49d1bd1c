import SchemaDiagram.Proofs.Pieces

/-! # Tokens at a line end

A text that ends with a line end falls apart there, whatever follows it: no word, mark, literal or
doc comment runs over the line end unless it is a literal that is left open, and then the line end
is no token. So the tokens of the text and those of what follows it are the tokens of both together.

* **`Lexeme.first_extend`** — a lexeme before a line end stays as it is when the text goes on.
* **`EndsLine s`** — the text ends with a line end that is a token.
* **`tokenize_lineEnd_append`** — the tokens of a text and of what follows its last line end. -/

namespace SchemaDiagram

/-! ## Lexemes before a line end -/

/-- A mark stands at the start of a text with a line end in it, or not, whatever follows. -/
theorem isPrefixOf_extend (mark : Text) {s : Text} (hmark : '\n' ∉ mark) (hs : '\n' ∈ s)
    (more : Text) :
    mark.isPrefixOf (s ++ more) = mark.isPrefixOf s := by
  induction mark generalizing s with
  | nil => cases s <;> rfl
  | cons m mark ih =>
    obtain ⟨hm, hmark⟩ : m ≠ '\n' ∧ '\n' ∉ mark := by
      simpa [eq_comm] using hmark
    -- The mark is looked for up to the line end at most, and the text has one.
    cases s with
    | nil => cases hs
    | cons c s =>
      rw [List.cons_append, List.isPrefixOf, List.isPrefixOf]
      rcases List.mem_cons.1 hs with rfl | hs
      · rw [beq_eq_false_iff_ne.2 hm, Bool.false_and, Bool.false_and]
      · rw [ih hmark hs]

/-- The literal that opens a text with a line end in it is told before the line end. -/
theorem Quote.opening?_extend {s : Text} (hs : '\n' ∈ s) (more : Text) :
    opening? (s ++ more) = opening? s := by
  have hmark : ∀ q : Quote, '\n' ∉ q.mark := by
    intro q
    cases q <;> decide
  simp only [opening?, isPrefixOf_extend _ (hmark _) hs]

/-- A literal that ends before the end of a text stays as it is when the text goes on. -/
theorem Quote.literal_extend {q : Quote} {s : Text} (h : q.mark <+: s)
    (hafter : (q.literal s).2 ≠ [])
    (more : Text) : q.literal (s ++ more) = ((q.literal s).1, (q.literal s).2 ++ more) := by
  obtain ⟨inner, rfl⟩ := h
  cases hfinish : q.finish inner with
  | mk body after =>
    have hinner := q.finish_append inner
    rw [hfinish] at hinner
    subst hinner
    have hliteral : q.literal (q.mark ++ (body ++ after)) = (q.mark ++ body, after) := by
      rw [literal, List.drop_left, hfinish]
    rw [hliteral] at hafter ⊢
    -- The literal is closed, or it ends at a line end; it does not end with the text.
    have hmore : q.finish (body ++ (after ++ more)) = (body, after ++ more) := by
      rcases finish_cases hfinish with ⟨-, hall⟩ | hnil | ⟨-, hline, hall⟩
      · exact hall _
      · exact absurd hnil hafter
      · obtain ⟨behind, rfl⟩ := List.head?_eq_some_iff.1 hline
        exact hall _ (.inr rfl)
    rw [literal, List.append_assoc, List.append_assoc, List.drop_left, hmore]

namespace Lexeme

/-- The lexeme with more text behind it. -/
def extend (lexeme : Lexeme) (more : Text) : Lexeme := { lexeme with after := lexeme.after ++ more }

/-- A stretch of characters before a line end stays as it is when the text goes on. -/
theorem takeWhile_extend {p : Char → Bool} (hp : p '\n' = false) {s : Text} (hs : '\n' ∈ s)
    (more : Text) : (s ++ more).takeWhile p = s.takeWhile p ∧
      (s ++ more).dropWhile p = s.dropWhile p ++ more := by
  have hne : s.dropWhile p ≠ [] := by
    intro hnil
    have hall := List.dropWhile_eq_nil_iff.1 hnil '\n' hs
    rw [hp] at hall
    cases hall
  -- The stretch ends at the line end or before it.
  obtain ⟨c, behind, hdrop⟩ := List.exists_cons_of_ne_nil hne
  have hc : p c = false := by
    simpa [hdrop] using List.head_dropWhile_not p hne
  have hsplit : s ++ more = s.takeWhile p ++ (s.dropWhile p ++ more) := by
    rw [← List.append_assoc, List.takeWhile_append_dropWhile]
  rw [hsplit]
  refine takeWhile_of_head (fun d hd => List.mem_takeWhile_imp hd) fun d hd => ?_
  rw [hdrop] at hd
  cases hd
  exact hc

/-- **A lexeme before a line end stays as it is when the text goes on**, unless it is a literal that
is left open. -/
theorem first_extend {c : Char} {rest : Text} (hline : '\n' ∈ c :: rest)
    (hafter : c ≠ '\n' → (first c rest).after ≠ []) (more : Text) :
    first c (rest ++ more) = (first c rest).extend more := by
  by_cases hc : c = '\n'
  · subst hc
    rw [first_newline, first_newline]
    rfl
  -- Every test that tells the kind of a lexeme, and every stretch that is cut off, ends at the line
  -- end.
  have hdoc := isPrefixOf_extend "///".toList (by decide) hline more
  have harrow := isPrefixOf_extend "<>".toList (by decide) hline more
  have hquote := Quote.opening?_extend hline more
  obtain ⟨htakeLine, hdropLine⟩ := takeWhile_extend (p := fun d => d != '\n') (by decide) hline more
  obtain ⟨htakeWord, hdropWord⟩ := takeWhile_extend (p := isWordChar) (by decide) hline more
  have hends := hafter hc
  rw [List.cons_append] at hdoc harrow hquote htakeLine hdropLine htakeWord hdropWord
  simp only [first, hc, if_false] at hends ⊢
  rw [hdoc, hquote, harrow, htakeLine, hdropLine, htakeWord, hdropWord]
  split
  next => rfl
  next hnodoc =>
    rw [if_neg hnodoc] at hends
    split
    next q hopen =>
      rw [hopen] at hends
      have hliteral := Quote.literal_extend (Quote.isPrefix_of_opening? hopen) hends more
      rw [List.cons_append] at hliteral
      rw [hliteral]
      rfl
    next =>
      split
      next => rfl
      next =>
        split
        next hmark =>
          obtain ⟨behind, hbehind⟩ := List.isPrefixOf_iff_prefix.1 hmark
          obtain ⟨rfl, rfl⟩ := List.cons.inj hbehind
          rfl
        next => rfl

end Lexeme

/-! ## Texts that end with a line end -/

/-- **The text ends with a line end that is a token**, or it is empty. -/
structure EndsLine (s : Text) (tokens : List Token) : Prop where
  /-- The last character is a line end. -/
  char : ∀ c ∈ s.getLast?, c = '\n'
  /-- The last token is a line end. -/
  token : ∀ t ∈ tokens.getLast?, t.kind = .newline

/-- What stands at the end of a text with a line end ends with it, too. -/
theorem EndsLine.right (front : Text) {s : Text} (before : List Token) {tokens : List Token}
    (h : EndsLine (front ++ s) (before ++ tokens)) : EndsLine s tokens := by
  refine ⟨fun c hc => h.char c ?_, fun t ht => h.token t ?_⟩
  · rw [List.getLast?_append, Option.mem_def.1 hc]
    rfl
  · rw [List.getLast?_append, Option.mem_def.1 ht]
    rfl

/-- A text with characters has the line end that it ends with. -/
theorem EndsLine.mem {c : Char} {rest : Text} {tokens : List Token}
    (h : EndsLine (c :: rest) tokens) :
    '\n' ∈ c :: rest := by
  cases hlast : (c :: rest).getLast? with
  | none => simp at hlast
  | some d =>
    obtain rfl := h.char d hlast
    exact List.mem_of_getLast? hlast

/-- **The tokens of a text and of what follows its last line end** are the tokens of both
together. -/
theorem tokensFrom_lineEnd_append {o l : Nat} {s : Text} (h : EndsLine s (tokensFrom o l s))
    (more : Text) : tokensFrom o l (s ++ more)
      = tokensFrom o l s ++ tokensFrom (o + s.length) (l + s.count '\n') more := by
  -- The token at the end is a line end, so the text may be followed by anything.
  fun_induction tokensFrom o l s with
  | case1 => simp
  | case2 o l c rest hc ih =>
    obtain ⟨hb, hn⟩ : isBlank c = true ∧ c ≠ '\n' := by simpa using hc
    have hrest : EndsLine rest (tokensFrom (o + 1) l rest) := EndsLine.right [c] [] h
    have hlen : o + (c :: rest).length = o + 1 + rest.length := by
      rw [List.length_cons]
      omega
    rw [List.cons_append, tokensFrom_blank hb hn, ih hrest, hlen, List.count_cons_of_ne hn]
  | case3 o l c rest hc lexeme ih =>
    have hcase : isBlank c = false ∨ c = '\n' := by
      by_contra hneg
      simp_all
    have happ : lexeme.text ++ lexeme.after = c :: rest := Lexeme.first_append c rest
    -- Any other token ends before the text does, for its last token is a line end.
    have hafter : c ≠ '\n' → lexeme.after ≠ [] := by
      intro hc hnil
      rw [hnil, tokensFrom_nil] at h
      exact hc (Lexeme.eq_newline_of_kind (h.token _ rfl))
    have hextend : Lexeme.first c (rest ++ more) = lexeme.extend more :=
      Lexeme.first_extend h.mem hafter more
    have hlater : EndsLine lexeme.after (tokensFrom (o + lexeme.text.length)
        (l + lexeme.text.count '\n') lexeme.after) :=
      EndsLine.right lexeme.text [lexeme.toToken o l] (happ ▸ h)
    have hlen : o + (c :: rest).length = o + lexeme.text.length + lexeme.after.length := by
      rw [← happ, List.length_append, Nat.add_assoc]
    have hcount : l + (c :: rest).count '\n'
        = l + lexeme.text.count '\n' + lexeme.after.count '\n' := by
      rw [← happ, List.count_append, Nat.add_assoc]
    rw [List.cons_append, tokensFrom_lexeme hcase, hextend, hlen, hcount, List.cons_append,
      ← ih hlater]
    rfl

/-- A text whose last token is the line end at its end ends with it. -/
theorem EndsLine.of_getLast {s : Text} {last : Token} (hlast : (tokenize s).getLast? = some last)
    (hkind : last.kind = .newline) (hstop : last.span.stop = s.length) :
      EndsLine s (tokenize s) := by
  refine ⟨fun c hc => ?_, fun t ht => ?_⟩
  · -- The last token is one character, and it stands at the end.
    obtain ⟨front, d, rest, line, rfl, rfl⟩ := exists_lexeme_of_token (List.mem_of_getLast? hlast)
    obtain rfl : d = '\n' := Lexeme.eq_newline_of_kind hkind
    rw [Lexeme.first_newline] at hstop
    have hlen : 0 + front.length + 1 = (front ++ '\n' :: rest).length := hstop
    have hrest : rest = [] := by
      rw [← List.length_eq_zero_iff]
      rw [List.length_append, List.length_cons] at hlen
      omega
    subst hrest
    rw [List.getLast?_concat, Option.mem_some_iff] at hc
    exact hc.symm
  · obtain rfl := Option.some.inj (hlast.symm.trans ht)
    exact hkind

/-- **Tokens fall apart at the last line end of a text**, whatever follows it. -/
theorem tokenize_lineEnd_append {s : Text} (h : EndsLine s (tokenize s)) (more : Text) :
    tokenize (s ++ more)
      = tokenize s ++ (tokenize more).map (Token.move s.length (s.count '\n')) := by
  rw [tokenize, tokensFrom_lineEnd_append h, tokensFrom_move]
  rfl

end SchemaDiagram
