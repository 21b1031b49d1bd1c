import SchemaDiagram.Proofs.HeaderList
import SchemaDiagram.Proofs.PartItems
import SchemaDiagram.Proofs.Site

/-! # Where the parts of a block stand

The tokens of a text stand one behind the other, and every part of a block is told by tokens of it.
So the list and the body of a block lie inside the text, and the values of a body lie inside the
body in their order, also where the text is malformed.

* **`Apart tokens`** — each of the tokens ends before the next one starts; `apart_tokensFrom`.
* **`exists_parts_of_property`** — the tokens that a property is read from.
* **`propertiesApart`** — the values of a body lie one behind the other.
* **`isBlank_of_start`** — a token that is no line end starts with a character that is not blank, in
  the text as in the cleaned text. -/

namespace SchemaDiagram

/-! ## Tokens one behind the other -/

/-- Each of the tokens has characters and ends before the next one starts. -/
structure Apart (tokens : List Token) : Prop where
  /-- Every token has characters. -/
  own : ∀ t ∈ tokens, t.span.start < t.span.stop
  /-- A token ends before the tokens behind it start. -/
  order : tokens.Pairwise fun t u => t.span.stop ≤ u.span.start

/-- **The tokens of a text stand one behind the other.** -/
theorem apart_tokensFrom (o l : Nat) (s : Text) : Apart (tokensFrom o l s) := by
  fun_induction tokensFrom o l s with
  | case1 => exact ⟨by simp, List.Pairwise.nil⟩
  | case2 => assumption
  -- The first token ends behind its start, and the others start behind its end.
  | case3 o l c rest hc lexeme ih =>
    have hpos : 0 < lexeme.text.length := List.length_pos_iff.2 (Lexeme.text_first_ne_nil c rest)
    have hstart : (lexeme.toToken o l).span.start = o := rfl
    have hstop : (lexeme.toToken o l).span.stop = o + lexeme.text.length := rfl
    refine ⟨fun t ht => ?_, List.pairwise_cons.2 ⟨fun u hu => ?_, ih.order⟩⟩
    · rcases List.mem_cons.1 ht with rfl | ht
      · omega
      · exact ih.own t ht
    · have hle := (bounds_of_mem_tokensFrom hu).1
      omega

namespace Apart

variable {tokens front back : List Token}

/-- Some of the tokens stand apart as well. -/
theorem sublist {some : List Token} (h : Apart tokens) (hsome : some.Sublist tokens) : Apart some :=
  ⟨fun t ht => h.own t (hsome.subset ht), h.order.sublist hsome⟩

/-- The tokens in front end before those behind them start. -/
theorem stop_le (h : Apart (front ++ back)) {t u : Token} (ht : t ∈ front) (hu : u ∈ back) :
    t.span.stop ≤ u.span.start :=
  (List.pairwise_append.1 h.order).2.2 t ht u hu

/-- The first tokens stand apart as well. -/
theorem left (h : Apart (front ++ back)) : Apart front := h.sublist (List.sublist_append_left ..)

/-- The last tokens stand apart as well. -/
theorem right (h : Apart (front ++ back)) : Apart back := h.sublist (List.sublist_append_right ..)

/-- No token ends behind the last one. -/
theorem stop_le_getLast (h : Apart tokens) {t last : Token} (ht : t ∈ tokens)
    (hlast : tokens.getLast? = some last) : t.span.stop ≤ last.span.stop := by
  obtain ⟨init, rfl⟩ := List.getLast?_eq_some_iff.1 hlast
  rcases List.mem_append.1 ht with ht | ht
  · have := h.stop_le ht (List.mem_singleton_self last)
    have := h.own last (by simp)
    omega
  · rw [List.mem_singleton.1 ht]

end Apart

/-! ## The tokens of a property -/

/-- A logical line outside brackets ends before its first line end. -/
theorem kind_of_scanLine {tl : Bool} {tokens front back rest : List Token} {t : Token}
    {u : Option Token} (h : scanLine tl [] tokens = ⟨front ++ t :: back, rest, u⟩)
    (hfront : ∀ v ∈ front, v.kind.opens = false) : t.kind ≠ .newline := by
  induction front generalizing tokens with
  -- The line starts with the token: a line end would have stopped it there.
  | nil =>
    cases tokens with
    | nil => simp [scanLine] at h
    | cons v tokens =>
      rw [scanLine_cons] at h
      split at h
      next => simp at h
      next hstop =>
        simp only [LineScan.cons, LineScan.mk.injEq, List.nil_append, List.cons.injEq] at h
        obtain ⟨⟨rfl, -⟩, -, -⟩ := h
        intro hkind
        rw [lineStop, hkind] at hstop
        simp [TokenKind.opens, TokenKind.closes] at hstop
  | cons v front ih =>
    cases tokens with
    | nil => simp [scanLine] at h
    | cons w tokens =>
      rw [scanLine_cons] at h
      split at h
      next => simp at h
      next =>
        simp only [LineScan.cons, LineScan.mk.injEq, List.cons_append, List.cons.injEq] at h
        obtain ⟨⟨rfl, hseg⟩, hrest, hu⟩ := h
        -- Nothing in front opens a bracket, so the line stays outside of them.
        have hopened : openedBehind [] w = [] := by
          rw [openedBehind, hfront w (List.mem_cons_self ..)]
          simp
        rw [hopened] at hseg hrest hu
        have hline : scanLine tl [] tokens = ⟨front ++ t :: back, rest, u⟩ := by
          rw [← hseg, ← hrest, ← hu]
        exact ih hline fun x hx => hfront x (List.mem_cons_of_mem _ hx)

/-- The span of the value that the tokens behind a colon make, doc comments apart. -/
def valueSpanOf (colon : Token) (values : List Token) : Span :=
  match values.filter (·.kind != .doc) with
  | [] => ⟨colon.span.stop, colon.span.stop⟩
  | value :: others => ⟨value.span.start, (others.getLast?.getD value).span.stop⟩

/-- **A word with a colon behind it starts a property**; doc comments may stand between them. -/
theorem readBodyLine_property (s : Text) (doc : List Text) {t colon : Token} {docs : List Token}
    (values : List Token) (ht : t.kind = .word) (hdocs : ∀ d ∈ docs, d.kind = .doc)
    (hcolon : colon.kind = .colon) :
    ∃ p : Property, readBodyLine s doc t (docs ++ colon :: values) = .inr p ∧ p.key = t.value ∧
      p.valueSpan = valueSpanOf colon values ∧ p.value = Text.trim (p.valueSpan.slice s) ∧
      p.span.start = t.span.start := by
  -- The doc comments are left out before the colon is looked for.
  have hfilter : (docs ++ colon :: values).filter (·.kind != .doc)
      = colon :: values.filter (·.kind != .doc) := by
    have hnone : docs.filter (·.kind != .doc) = [] :=
      List.filter_eq_nil_iff.2 fun d hd => by simp [hdocs d hd]
    rw [List.filter_append, hnone, List.nil_append, List.filter_cons_of_pos (by simp [hcolon])]
  simp only [readBodyLine, hfilter, ht, hcolon, if_true, valueSpanOf]
  refine ⟨_, rfl, rfl, ?_, rfl, rfl⟩
  cases values.filter (·.kind != .doc) with
  | nil => rfl
  | cons value others =>
    cases hlast : others.getLast? with
    | none => simp [List.getLast?_cons, hlast]
    | some last => simp [List.getLast?_cons, hlast]

/-- **The tokens that a property is read from** are a word, perhaps doc comments, a colon and the
tokens of the value. -/
theorem exists_parts_of_property {s : Text} {doc : List Text} {t : Token} {others : List Token}
    {p : Property} (h : readBodyLine s doc t others = .inr p) :
    ∃ docs colon values, others = docs ++ colon :: values ∧ t.kind = .word ∧
      (∀ d ∈ docs, d.kind = .doc) ∧ colon.kind = .colon := by
  simp only [readBodyLine] at h
  split at h
  next second rest hkind hbody =>
    split at h
    next hcolon =>
      obtain ⟨docs, values, rfl, hdocs, -, -⟩ := List.filter_eq_cons_iff.1 hbody
      exact ⟨docs, second, values, rfl, hkind, fun d hd => by simpa using hdocs d hd, hcolon⟩
    next => cases h
  next => cases h

/-- The value stands behind its colon, and it ends with one of the tokens. -/
theorem bounds_valueSpanOf {colon : Token} {values : List Token} (h : Apart (colon :: values)) :
    colon.span.stop ≤ (valueSpanOf colon values).start ∧
      (valueSpanOf colon values).start ≤ (valueSpanOf colon values).stop ∧
      ∃ last ∈ colon :: values, (valueSpanOf colon values).stop = last.span.stop := by
  rw [valueSpanOf]
  cases hvalues : values.filter (·.kind != .doc) with
  | nil => exact ⟨Nat.le_refl _, Nat.le_refl _, colon, List.mem_cons_self .., rfl⟩
  | cons value others =>
    -- The value goes from its first token to its last one, doc comments apart.
    have hsub : (value :: others).Sublist values := hvalues ▸ List.filter_sublist
    have hapart : Apart (value :: others) := h.sublist (hsub.trans (List.sublist_cons_self ..))
    have hlast : (value :: others).getLast? = some (others.getLast?.getD value) :=
      List.getLast?_cons
    have hvalue := hapart.own value (List.mem_cons_self ..)
    have hle := hapart.stop_le_getLast (List.mem_cons_self ..) hlast
    refine ⟨(List.pairwise_cons.1 h.order).1 value (hsub.subset (List.mem_cons_self ..)), ?_, _,
      List.mem_cons_of_mem _ (hsub.subset (List.mem_of_getLast? hlast)), rfl⟩
    dsimp only
    omega

/-! ## The values of a body -/

/-- **The value of a property** is told by a colon and tokens behind it; it does not start with a
line end. -/
structure Property.Told (p : Property) (tokens : List Token) (colon : Token)
    (values : List Token) : Prop where
  /-- The tokens are among the given ones. -/
  sub : (colon :: values).Sublist tokens
  /-- The first one is a colon. -/
  kind : colon.kind = .colon
  /-- The value stands where they say. -/
  span : p.valueSpan = valueSpanOf colon values
  /-- No line end stands before the value. -/
  line : ∀ v ∈ (values.filter (·.kind != .doc)).head?, v.kind ≠ .newline

/-- Each of the values ends before the next one starts. -/
def propertiesApart (properties : List Property) : Prop :=
  properties.Pairwise fun p q => p.valueSpan.stop ≤ q.valueSpan.start

/-- The property that a step finds is told by the tokens of the step. -/
theorem Step.told {doc doc' : List Text} {used rest : List Token} {t : Token}
    {others : List Token} (h : Step false doc (used ++ rest) (.line t others) doc' rest) {s : Text}
    {p : Property} (hp : readBodyLine s doc t others = .inr p) :
    ∃ colon values, p.Told used colon values := by
  generalize htokens : used ++ rest = tokens at h
  cases h with
  | @line t others₀ _ _ u hstart hscan =>
    have hothers := scanLine_append false (openedBy t) others₀
    rw [hscan] at hothers
    -- The tokens of the step are those of its line.
    obtain rfl : used = t :: others :=
      List.append_cancel_right (htokens.trans (by rw [← hothers]; simp))
    obtain ⟨docs, colon, values, rfl, ht, hdocs, hcolon⟩ := exists_parts_of_property hp
    obtain ⟨q, hq, -, hspan, -⟩ := readBodyLine_property s doc values ht hdocs hcolon
    obtain rfl : q = p := Sum.inr.inj (hq.symm.trans hp)
    refine ⟨colon, values,
      (List.sublist_append_right docs _).trans (List.sublist_cons_self ..), hcolon, hspan, ?_⟩
    intro v hv
    obtain ⟨between, hbetween⟩ := List.head?_eq_some_iff.1 hv
    obtain ⟨front, back, rfl, hfront, -, -⟩ := List.filter_eq_cons_iff.1 hbetween
    -- A word opens no bracket, so the line is outside of them from the start.
    have hopened : openedBy t = [] := by
      rw [openedBy, ht]
      rfl
    have hassoc : docs ++ colon :: (front ++ v :: back)
        = (docs ++ colon :: front) ++ v :: back := by
      simp
    rw [hopened, hassoc] at hscan
    refine kind_of_scanLine hscan fun w hw => ?_
    -- Between the colon and the value stand doc comments only.
    have hkind : w.kind = .doc ∨ w.kind = .colon := by
      rcases List.mem_append.1 hw with hw | hw
      · exact .inl (hdocs w hw)
      · rcases List.mem_cons.1 hw with rfl | hw
        · exact .inr hcolon
        · exact .inl (by simpa using hfront w hw)
    rcases hkind with hkind | hkind <;> rw [hkind] <;> rfl

/-- The properties that a step finds come before those of the following contents. -/
theorem Item.properties_add (source : Text) (doc : List Text) (item : Item) (c : Contents) :
    (item.add source false doc c).properties = c.properties ∨
      ∃ t others p, item = .line t others ∧ readBodyLine source doc t others = .inr p ∧
        (item.add source false doc c).properties = p :: c.properties := by
  cases item with
  | nothing => exact .inl rfl
  | block => exact .inl rfl
  | line t others =>
    simp only [add, addStatement, Bool.false_eq_true, if_false]
    cases hline : readBodyLine source doc t others with
    | inl line => exact .inl rfl
    | inr p => exact .inr ⟨t, others, p, rfl, hline, rfl⟩

/-- **The values of a body** are told by its tokens and lie one behind the other. -/
theorem properties_told (s : Text) (doc : List Text) {tokens : List Token} (h : Apart tokens) :
    (∀ p ∈ (contentsFrom s false doc tokens).properties, ∃ colon values,
        p.Told tokens colon values) ∧
      propertiesApart (contentsFrom s false doc tokens).properties := by
  induction doc, tokens using steps_induction false with
  | nil doc => simp [Contents.empty, propertiesApart]
  | step doc t others item doc' rest hstep ih =>
    obtain ⟨_, hcontents⟩ := contentsFrom_of_step hstep s
    obtain ⟨used, hused, -, hitem⟩ := hstep.exists_used
    rw [hused] at h hstep
    obtain ⟨htold, hapart⟩ := ih h.right
    have hrest : ∀ p ∈ (contentsFrom s false doc' rest).properties, ∃ colon values,
        p.Told (used ++ rest) colon values := by
      intro p hp
      obtain ⟨colon, values, hp⟩ := htold p hp
      exact ⟨colon, values,
        ⟨hp.sub.trans (List.sublist_append_right ..), hp.kind, hp.span, hp.line⟩⟩
    have hproperties : (contentsFrom s false doc (t :: others)).properties
        = (item.add s false doc (contentsFrom s false doc' rest)).properties := by
      rw [hcontents]
      rfl
    rw [hproperties, hused]
    rcases item.properties_add s doc (contentsFrom s false doc' rest) with heq | ⟨head,
      line, p, rfl, hline, heq⟩
    · rw [heq]
      exact ⟨hrest, hapart⟩
    · obtain ⟨colon, values, hp⟩ := hstep.told hline
      rw [heq]
      refine ⟨?_, List.pairwise_cons.2 ⟨fun q hq => ?_, hapart⟩⟩
      · intro q hq
        rcases List.mem_cons.1 hq with rfl | hq
        · exact ⟨colon, values,
            ⟨hp.sub.trans (List.sublist_append_left ..), hp.kind, hp.span, hp.line⟩⟩
        · exact hrest q hq
      · -- The one value ends with a token of the step, the other one stands behind a later token.
        obtain ⟨colon', values', hq⟩ := htold q hq
        obtain ⟨-, -, last, hlast, hstop⟩ := bounds_valueSpanOf (h.left.sublist hp.sub)
        obtain ⟨hstart, -, -⟩ := bounds_valueSpanOf (h.right.sublist hq.sub)
        have horder := h.stop_le (hp.sub.subset hlast) (hq.sub.subset (List.mem_cons_self ..))
        have hown := h.right.own colon' (hq.sub.subset (List.mem_cons_self ..))
        rw [hp.span, hq.span, hstop]
        omega

/-! ## Characters that are not blank -/

/-- A token that is no line end starts with a character that is not blank. -/
theorem Piece.exists_head {k : TokenKind} {x after : Text} (h : Piece (some k) x after)
    (hk : k ≠ .newline) : ∃ c rest, x = c :: rest ∧ isBlank c = false := by
  cases h with
  | newline => exact absurd rfl hk
  | literal h =>
    cases h with
    | @literal q body _ ho hf =>
      -- The four kinds of quotes are no blanks.
      cases q with
      | triple => exact ⟨_, _, rfl, by decide⟩
      | single => exact ⟨_, _, rfl, by decide⟩
      | double => exact ⟨_, _, rfl, by decide⟩
      | backtick => exact ⟨_, _, rfl, by decide⟩
  | doc h =>
    cases h with
    | doc h => exact ⟨_, _, rfl, by decide⟩
  | word hne hx =>
    -- Nor are the characters of words.
    obtain ⟨c, rest, rfl⟩ := List.exists_cons_of_ne_nil hne
    exact ⟨c, rest, rfl, isBlank_of_isWordChar (hx c (List.mem_cons_self ..))⟩
  | arrow => exact ⟨_, _, rfl, by decide⟩
  | char _ hb => exact ⟨_, _, rfl, hb⟩

/-- A colon is one character. -/
theorem Piece.length_colon {k : TokenKind} {x after : Text} (h : Piece (some k) x after)
    (hk : k = .colon) : x.length = 1 := by
  cases h with
  | char => rfl
  | newline => rfl
  | _ => cases hk

/-- **A token that is no line end starts with a character of the text that is not blank.** -/
theorem exists_start {s : Text} {o l : Nat} {t : Token} (h : t ∈ tokensFrom o l (clean s))
    (ht : t.kind ≠ .newline) :
    ∃ front c back, s = front ++ c :: back ∧ isBlank c = false ∧ t.span.start = o + front.length ∧
      (t.kind = .colon → t.span.stop = t.span.start + 1) := by
  obtain ⟨before, behind, htokens⟩ := List.append_of_mem h
  obtain ⟨s₁, k, x, s₂, rfl, -, hpiece, -, rfl, -⟩ := exists_boundary_of_token htokens ht
  obtain ⟨c, rest, rfl, hc⟩ := hpiece.exists_head ht
  refine ⟨s₁, c, rest ++ s₂, rfl, hc, rfl, fun hcolon => ?_⟩
  have hlen := hpiece.length_colon hcolon
  change o + s₁.length + (c :: rest).length = o + s₁.length + 1
  rw [hlen]

/-- Trimming on the right keeps every character that is not blank. -/
theorem lt_length_trimRight {s front back : Text} {c : Char} (h : s = front ++ c :: back)
    (hc : isBlank c = false) : front.length < (Text.trimRight s).length := by
  have hlast : ∀ d ∈ (front ++ [c]).getLast?, isBlank d = false := by
    intro d hd
    rw [List.getLast?_concat, Option.mem_some_iff] at hd
    exact hd ▸ hc
  have hs : s = (front ++ [c]) ++ back := by rw [h, List.append_assoc, List.singleton_append]
  rw [hs, Text.trimRight_append hlast, List.length_append, List.length_append,
    List.length_singleton]
  omega

/-- What stands inside a span ends before the blanks at its end. -/
theorem lt_length_trimRight_slice {s front back : Text} {c : Char} (span : Span)
    (h : s = front ++ c :: back) (hc : isBlank c = false) (hstart : span.start ≤ front.length)
    (hstop : front.length < span.stop) :
    front.length < span.start + (Text.trimRight (span.slice s)).length := by
  have hslice : span.slice s
      = front.drop span.start ++ c :: back.take (span.stop - front.length - 1) := by
    rw [Span.slice, Text.slice, h, List.drop_append_of_le_length hstart, List.take_append,
      List.length_drop, List.take_of_length_le (by rw [List.length_drop]; omega)]
    -- The character is inside the span, so it is taken.
    obtain ⟨n, hn⟩ : ∃ n, span.stop - span.start - (front.length - span.start) = n + 1 :=
      ⟨_, (Nat.succ_pred_eq_of_pos (by omega)).symm⟩
    rw [hn, List.take_succ_cons]
    congr 3
    omega
  have hlt := lt_length_trimRight hslice hc
  rw [List.length_drop] at hlt
  omega

/-! ## Blocks -/

/-- A block that is no reference has braces. -/
theorem openBrace_of_mem_children {s : Text} {doc : List Text} {tokens : List Token} {b : Block}
    (h : b ∈ (contentsFrom s true doc tokens).children) (hkeyword : b.keyword ≠ "ref".toList) :
    b.openBrace.isSome = true := by
  induction doc, tokens using steps_induction true with
  | nil doc => simp [Contents.empty] at h
  | step doc t others item doc' rest hstep ih =>
    obtain ⟨_, hcontents⟩ := contentsFrom_of_step hstep s
    rw [hcontents] at h
    change b ∈ (item.add s true doc (contentsFrom s true doc' rest)).children at h
    rw [Item.children_add, List.mem_append] at h
    rcases h with h | h
    · cases item with
      | nothing => simp [Item.blocks, Item.add, Contents.empty] at h
      | block head header brace body close =>
        rw [List.mem_singleton.1 h]
        rfl
      -- At the top level a line is kept only if it is a reference.
      | line head others =>
        simp only [Item.blocks, Item.add, addStatement, if_true] at h
        split at h
        next c hc =>
          obtain rfl : b = c := List.mem_singleton.1 h
          unfold readShortRef at hc
          dsimp only at hc
          split at hc
          next => cases hc
          next =>
            split at hc
            next =>
              cases hc
              -- The block that is read has the keyword of a reference.
              exact absurd rfl hkeyword
            next => cases hc
        next => simp [Contents.report, Contents.empty] at h
    · exact ih h

/-- A span that lies inside a text. -/
def Span.Inside (span : Span) (text : Text) : Prop :=
  span.start ≤ span.stop ∧ span.stop ≤ text.length

/-- **Where the parts of a block lie** in a text. -/
structure Block.Lies (b : Block) (text : Text) : Prop where
  /-- The list lies inside the text. -/
  list : ∀ span ∈ b.settingsSpan, span.Inside text
  /-- The brace is one of its characters. -/
  brace : ∀ n ∈ b.openBrace, n < text.length
  /-- The body lies inside the text. -/
  body : ∀ span ∈ b.bodySpan, span.Inside text
  /-- A value lies inside the body, and it starts before the blanks at the end of the body. -/
  value : ∀ span ∈ b.bodySpan, ∀ p ∈ b.properties,
    span.start ≤ p.valueSpan.start ∧ p.valueSpan.start ≤ p.valueSpan.stop ∧
      p.valueSpan.stop ≤ span.stop ∧
      p.valueSpan.start ≤ span.start + (Text.trimRight (span.slice text)).length
  /-- The values lie one behind the other. -/
  values : propertiesApart b.properties

/-- The block at a site lies in the text of the site. -/
theorem Site.lies {w : Site} {text : Text}
    (htokens : tokenize (clean text) = w.tokens) : (w.block (clean text)).Lies text := by
  have hapart := apart_tokensFrom 0 1 (clean text)
  rw [← tokenize, htokens] at hapart
  have hbounds : ∀ t ∈ w.tokens, t.span.stop ≤ text.length := by
    intro t ht
    rw [← htokens, tokenize] at ht
    have hle := (bounds_of_mem_tokensFrom ht).2.2
    rwa [Nat.zero_add, length_clean] at hle
  have hown : Apart w.own := hapart.right
  have hbraced : Apart w.braced :=
    hown.sublist ((List.sublist_append_right w.header _).trans (List.sublist_cons_self ..))
  have hmem : ∀ t ∈ w.braced, t ∈ w.tokens := fun t ht =>
    List.mem_append_right _ (List.mem_cons_of_mem _ (List.mem_append_right _ ht))
  have hbody : Apart w.body :=
    hbraced.sublist ((List.sublist_append_left ..).trans (List.sublist_cons_self ..))
  have hinside : ∀ t ∈ w.body, w.brace.span.stop ≤ t.span.start ∧
      t.span.stop ≤ w.close.span.start := by
    intro t ht
    refine ⟨(List.pairwise_cons.1 hbraced.order).1 t (List.mem_append_left _ ht), ?_⟩
    have hrest : Apart (w.body ++ w.close :: w.after) := hbraced.sublist (List.sublist_cons_self ..)
    exact hrest.stop_le ht (List.mem_cons_self ..)
  have hclose : w.close ∈ w.braced := by simp [Site.braced]
  obtain ⟨htold, happart⟩ := properties_told (clean text) [] hbody
  refine ⟨?_, ?_, ?_, ?_, happart⟩
  · intro span hspan
    obtain ⟨opening, inner, close, after, hbehind, -, -, rfl⟩ := Header.exists_list hspan
    obtain ⟨front, hfront, -, -⟩ := Header.exists_front w.header
    have hsub : (opening :: (inner ++ close :: after)).Sublist w.tokens := by
      rw [← hbehind]
      refine (List.sublist_append_right front _).trans ?_
      rw [← hfront]
      exact ((List.sublist_append_left ..).trans (List.sublist_cons_self ..)).trans
        (List.sublist_append_right ..)
    have hlist := hapart.sublist hsub
    have hclose : close ∈ inner ++ close :: after := by simp
    have hown := hlist.own close (List.mem_cons_of_mem _ hclose)
    have hstop := hbounds close (hsub.subset (List.mem_cons_of_mem _ hclose))
    refine ⟨(List.pairwise_cons.1 hlist.order).1 close hclose, ?_⟩
    change close.span.start ≤ text.length
    omega
  · rintro n hn
    obtain rfl : w.brace.span.start = n := Option.some.inj hn
    have := hbraced.own w.brace (List.mem_cons_self ..)
    have := hbounds w.brace (hmem _ (List.mem_cons_self ..))
    omega
  · intro span hspan
    obtain rfl : (⟨w.brace.span.stop, w.close.span.start⟩ : Span) = span := Option.some.inj hspan
    have := hbraced.own w.close hclose
    have := hbounds w.close (hmem _ hclose)
    refine ⟨(List.pairwise_cons.1 hbraced.order).1 w.close (by simp), ?_⟩
    change w.close.span.start ≤ text.length
    omega
  · intro span hspan p hp
    obtain rfl : (⟨w.brace.span.stop, w.close.span.start⟩ : Span) = span := Option.some.inj hspan
    obtain ⟨colon, values, hp⟩ := htold p hp
    obtain ⟨hstart, hle, last, hlast, hstop⟩ := bounds_valueSpanOf (hbody.sublist hp.sub)
    have hcolonmem := hp.sub.subset (List.mem_cons_self ..)
    have hcolon := hinside colon hcolonmem
    have hlast' := hinside last (hp.sub.subset hlast)
    have hpos := hbody.own colon hcolonmem
    rw [hp.span]
    dsimp only
    refine ⟨by omega, hle, by omega, ?_⟩
    -- The value starts with one of its tokens, or where the colon stops.
    have hstands : ∀ t ∈ w.body, t.kind ≠ .newline →
        t.span.start < w.brace.span.stop
          + (Text.trimRight (Span.slice ⟨w.brace.span.stop, w.close.span.start⟩ text)).length ∧
        (t.kind = .colon → t.span.stop = t.span.start + 1) := by
      intro t ht hkind
      have hin := hinside t ht
      have hown := hbody.own t ht
      have hmem' : t ∈ tokensFrom 0 1 (clean text) := by
        rw [← tokenize, htokens]
        exact hmem t (List.mem_cons_of_mem _ (List.mem_append_left _ ht))
      obtain ⟨front, c, back, htext, hc, hfront, hone⟩ := exists_start hmem' hkind
      refine ⟨?_, hone⟩
      have hlt := lt_length_trimRight_slice ⟨w.brace.span.stop, w.close.span.start⟩ htext hc
        (by dsimp only; omega) (by dsimp only; omega)
      dsimp only at hlt
      omega
    rw [valueSpanOf]
    cases hvalues : values.filter (·.kind != .doc) with
    | nil =>
      obtain ⟨hlt, hone⟩ := hstands colon hcolonmem (by rw [hp.kind]; decide)
      have := hone hp.kind
      dsimp only
      omega
    | cons value others =>
      have hvalue : value ∈ values.filter (·.kind != .doc) := hvalues ▸ List.mem_cons_self ..
      have hmem' := hp.sub.subset (List.mem_cons_of_mem _ (List.mem_filter.1 hvalue).1)
      have hline := hp.line value (by rw [hvalues]; rfl)
      exact (hstands value hmem' hline).1.le

/-- **Every top-level block with a keyword of its own lies in its text.** -/
theorem lies_of_mem_blocks {text : Text} {b : Block} (h : b ∈ (parseBlocks (clean text)).blocks)
    (hkeyword : b.keyword ≠ []) (href : b.keyword ≠ "ref".toList) : b.Lies text := by
  obtain ⟨front, back, hblocks⟩ := List.append_of_mem h
  obtain ⟨w, -, htokens, rfl, -⟩ :=
    exists_site hblocks (openBrace_of_mem_children h href) hkeyword
  exact Site.lies htokens

end SchemaDiagram
