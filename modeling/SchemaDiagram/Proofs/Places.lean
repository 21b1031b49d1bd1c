import SchemaDiagram.Proofs.Extent

/-! # Where the nodes of a token sequence stand

A step of the block parser finds at most one node: a block, a line or a property. It stands from one
token of the step to another one, so the nodes of a sequence stand one behind the other, whatever
its tokens are.

* **`lineAt text n`** — the line of an offset; `line_eq_lineAt` says that tokens know their lines.
* **`mark_of_token`** — a brace or bracket is the one character that its kind names.
* **`Contents.places`** — the places of all nodes; **`Contents.Sits`** says how they stand among the
  tokens that the contents are read from (`sits_contentsFrom`).
* **`Item.places_eq`** — the place of what a step finds; a statement without a node is an error of
  the top level. -/

namespace SchemaDiagram

/-! ## Spans -/

namespace Span

/-- The one span ends before the other starts. -/
def Before (a b : Span) : Prop := a.stop ≤ b.start

/-- One of the spans ends before the other starts. -/
def Disjoint (a b : Span) : Prop := a.Before b ∨ b.Before a

/-- The offset stands before the span or behind it. -/
def Avoids (a : Span) (i : Nat) : Prop := i < a.start ∨ a.stop ≤ i

/-- The one span lies inside the other. -/
def Within (a b : Span) : Prop := b.start ≤ a.start ∧ a.start ≤ a.stop ∧ a.stop ≤ b.stop

instance (a b : Span) : Decidable (a.Before b) := inferInstanceAs (Decidable (_ ≤ _))

instance (a b : Span) : Decidable (a.Disjoint b) := inferInstanceAs (Decidable (_ ∨ _))

instance (a : Span) (i : Nat) : Decidable (a.Avoids i) := inferInstanceAs (Decidable (_ ∨ _))

instance (a b : Span) : Decidable (a.Within b) := inferInstanceAs (Decidable (_ ∧ _))

/-- It does not matter which one of two disjoint spans is named first. -/
theorem Disjoint.symm {a b : Span} (h : a.Disjoint b) : b.Disjoint a := Or.symm h

/-- A span stays within another one when both are moved. -/
theorem Within.shift {a b : Span} (h : a.Within b) (n : Nat) : (a.shift n).Within (b.shift n) :=
  ⟨Nat.add_le_add_right h.1 n, Nat.add_le_add_right h.2.1 n, Nat.add_le_add_right h.2.2 n⟩

/-- An index avoids the span of a text when it stands before or behind it. -/
theorem avoids_behind {n i : Nat} {x : Text} : (behind n x).Avoids i ↔ i < n ∨ n + x.length ≤ i :=
  Iff.rfl

end Span

/-! ## Lines and marks -/

/-- The line on which an offset of a text stands, counted from one. -/
def lineAt (text : Text) (n : Nat) : Nat := 1 + (text.take n).count '\n'

/-- A token is on the line behind the line ends before it. -/
theorem line_of_mem_tokensFrom {o l : Nat} {s : Text} {t : Token} (h : t ∈ tokensFrom o l s) :
    t.line = l + (s.take (t.span.start - o)).count '\n' := by
  fun_induction tokensFrom o l s with
  | case1 => cases h
  -- A blank that is no line end is skipped, and the count stays.
  | case2 o l c rest hc ih =>
    obtain ⟨-, hn⟩ : isBlank c = true ∧ c ≠ '\n' := by simpa using hc
    obtain ⟨n, hstart⟩ := Nat.exists_eq_add_of_le (bounds_of_mem_tokensFrom h).1
    have htake : t.span.start - o = n + 1 := by omega
    rw [ih h, htake, List.take_succ_cons, List.count_cons_of_ne hn]
    congr 3
    omega
  | case3 o l c rest hc lexeme ih =>
    rcases List.mem_cons.1 h with rfl | h
    · -- The first token starts where the text does, on its line.
      change l = l + ((c :: rest).take (o - o)).count '\n'
      rw [Nat.sub_self, List.take_zero, List.count_nil, Nat.add_zero]
    · -- The others start behind the lexeme, whose line ends are counted, too.
      obtain ⟨n, hstart⟩ := Nat.exists_eq_add_of_le (bounds_of_mem_tokensFrom h).1
      have htake : t.span.start - o = lexeme.text.length + n := by omega
      have hsplit : lexeme.text ++ lexeme.after = c :: rest := Lexeme.first_append c rest
      rw [ih h, htake, hstart, Nat.add_sub_cancel_left, ← hsplit, List.take_length_add_append,
        List.count_append, Nat.add_assoc]

/-- **A token knows its line.** -/
theorem line_eq_lineAt {s : Text} {t : Token} (h : t ∈ tokenize s) :
    t.line = lineAt s t.span.start := line_of_mem_tokensFrom h

/-- The character that a brace or bracket is. -/
def TokenKind.mark? : TokenKind → Option Char
  | .openBrace => some '\x7b'
  | .closeBrace => some '\x7d'
  | .openBracket => some '['
  | .closeBracket => some ']'
  | _ => none

/-- A brace or bracket is a lexeme of one character. -/
theorem Lexeme.text_of_mark {c m : Char} {rest : Text} (h : (first c rest).kind.mark? = some m) :
    c = m ∧ (first c rest).text = [m] := by
  -- Only the mark itself is a character of that kind.
  have hchar : ∀ d : Char, (TokenKind.ofChar d).mark? = some m → d = m := by
    intro d hd
    unfold TokenKind.ofChar at hd
    split at hd <;> first | exact Option.some.inj hd | cases hd
  unfold first at h ⊢
  dsimp only at h ⊢
  -- Lexemes of several characters have no mark, so only the last branch is left.
  split at h
  next => cases h
  next hline =>
    rw [if_neg hline]
    split at h
    next => cases h
    next hdoc =>
      rw [if_neg hdoc]
      cases hq : Quote.opening? (c :: rest) with
      | some q => simp [hq, TokenKind.mark?] at h
      | none =>
        rw [hq] at h
        dsimp only at h ⊢
        split at h
        next => cases h
        next hword =>
          rw [if_neg hword]
          split at h
          next => cases h
          next harrow =>
            rw [if_neg harrow]
            obtain rfl := hchar c h
            exact ⟨rfl, rfl⟩

/-- **A brace or bracket stands in the text** as one character. -/
theorem mark_of_token {s : Text} {t : Token} {m : Char} (h : t ∈ tokenize s)
    (hm : t.kind.mark? = some m) :
    t.span.stop = t.span.start + 1 ∧ s[t.span.start]? = some m := by
  obtain ⟨front, c, rest, line, rfl, rfl⟩ := exists_lexeme_of_token h
  obtain ⟨rfl, htext⟩ := Lexeme.text_of_mark hm
  refine ⟨?_, ?_⟩
  · change 0 + front.length + (Lexeme.first c rest).text.length = _
    rw [htext]
    rfl
  · change (front ++ c :: rest)[0 + front.length]? = some c
    rw [Nat.zero_add, List.getElem?_append_right (Nat.le_refl _), Nat.sub_self]
    rfl

/-! ## Places -/

/-- Where a node stands. -/
structure Place where
  /-- The span of the node. -/
  span : Span
  /-- The line number of the node. -/
  line : Nat

namespace Place

/-- The place from the first token to the last one. -/
def fromTo (first last : Token) : Place := ⟨⟨first.span.start, last.span.stop⟩, first.line⟩

/-- The place starts and ends with one of the tokens. -/
def Among (p : Place) (tokens : List Token) : Prop :=
  ∃ first ∈ tokens, ∃ last ∈ tokens, first.span.start ≤ last.span.start ∧ p = fromTo first last

/-- The token stands at the place. -/
def Covers (p : Place) (t : Token) : Prop := p.span.start ≤ t.span.start ∧ t.span.stop ≤ p.span.stop

instance (p : Place) (t : Token) : Decidable (p.Covers t) := inferInstanceAs (Decidable (_ ∧ _))

variable {p q : Place} {tokens front back : List Token}

/-- A place among some tokens is one among more tokens. -/
theorem Among.mono {more : List Token} (h : p.Among tokens) (hmore : ∀ t ∈ tokens, t ∈ more) :
    p.Among more := by
  obtain ⟨first, hfirst, last, hlast, hle, rfl⟩ := h
  exact ⟨first, hmore first hfirst, last, hmore last hlast, hle, rfl⟩

/-- A place of the tokens in front ends before one of those behind them. -/
theorem Among.before (hp : p.Among front) (hq : q.Among back) (h : Apart (front ++ back)) :
    p.span.Before q.span := by
  obtain ⟨-, -, last, hlast, -, rfl⟩ := hp
  obtain ⟨first, hfirst, -, -, -, rfl⟩ := hq
  exact h.stop_le hlast hfirst

/-- A place is not empty. -/
theorem Among.start_lt (hp : p.Among tokens) (h : Apart tokens) : p.span.start < p.span.stop := by
  obtain ⟨first, -, last, hlast, hle, rfl⟩ := hp
  exact Nat.lt_of_le_of_lt hle (h.own last hlast)

/-- From the first to the last one of some tokens all of them are covered. -/
theorem covers_fromTo {first last : Token} {middle : List Token}
    (h : Apart (first :: middle ++ [last])) {t : Token} (ht : t ∈ first :: middle ++ [last]) :
    (fromTo first last).Covers t := by
  refine ⟨?_, h.stop_le_getLast ht List.getLast?_concat⟩
  rcases List.mem_cons.1 ht with rfl | hlater
  · exact Nat.le_refl _
  · have hown := h.own first (List.mem_cons_self ..)
    have horder := (List.pairwise_cons.1 h.order).1 t hlater
    exact (Nat.le_of_lt hown).trans horder

/-- A place of covered tokens lies inside the place that covers them. -/
theorem Among.within (hp : p.Among tokens) (h : Apart tokens) (hq : ∀ t ∈ tokens, q.Covers t) :
    p.span.Within q.span := by
  have hlt := hp.start_lt h
  obtain ⟨first, hfirst, last, hlast, -, rfl⟩ := hp
  exact ⟨(hq first hfirst).1, Nat.le_of_lt hlt, (hq last hlast).2⟩

/-- A place of the tokens in front covers no token behind them. -/
theorem Among.not_covers_behind (hp : p.Among front) (h : Apart (front ++ back)) {t : Token}
    (ht : t ∈ back) : ¬ p.Covers t := by
  obtain ⟨-, -, last, hlast, -, rfl⟩ := hp
  rintro ⟨-, hstop⟩
  have hbefore := h.stop_le hlast ht
  have hown := h.right.own t ht
  change t.span.stop ≤ last.span.stop at hstop
  omega

/-- A place of the tokens behind covers no token in front of them. -/
theorem Among.not_covers_front (hp : p.Among back) (h : Apart (front ++ back)) {t : Token}
    (ht : t ∈ front) : ¬ p.Covers t := by
  obtain ⟨first, hfirst, -, -, -, rfl⟩ := hp
  rintro ⟨hstart, -⟩
  have hbefore := h.stop_le ht hfirst
  have hown := h.left.own t ht
  change first.span.start ≤ t.span.start at hstart
  omega

end Place

/-- Where a block stands. -/
def Block.place (b : Block) : Place := ⟨b.span, b.line⟩

/-- Where a line stands. -/
def BodyLine.place (l : BodyLine) : Place := ⟨l.span, l.line⟩

/-- Where a property stands. -/
def Property.place (p : Property) : Place := ⟨p.span, p.line⟩

/-- Two lists of two parts each, part by part. -/
theorem perm_append_shuffle {α : Type} (a b c d : List α) :
    (a ++ b ++ (c ++ d)).Perm (a ++ c ++ (b ++ d)) := by
  rw [List.append_assoc, List.append_assoc, ← List.append_assoc b, ← List.append_assoc c]
  exact (List.perm_append_comm.append_right d).append_left a

namespace Contents

/-- The places of the blocks, the lines and the properties. -/
def places (c : Contents) : List Place :=
  c.children.map Block.place ++ (c.lines.map BodyLine.place ++ c.properties.map Property.place)

/-- The one contents and the other ones behind them. -/
def append (a b : Contents) : Contents :=
  ⟨a.children ++ b.children, a.lines ++ b.lines, a.properties ++ b.properties,
    a.problems ++ b.problems⟩

instance : Append Contents := ⟨append⟩

/-- Two contents one after the other have the children of both. -/
@[simp] theorem children_append (a b : Contents) :
    (a ++ b).children = a.children ++ b.children := rfl

/-- Two contents one after the other have the lines of both. -/
@[simp] theorem lines_append (a b : Contents) : (a ++ b).lines = a.lines ++ b.lines := rfl

/-- Two contents one after the other have the properties of both. -/
@[simp] theorem properties_append (a b : Contents) :
    (a ++ b).properties = a.properties ++ b.properties := rfl

@[simp] theorem empty_append (c : Contents) : empty ++ c = c := rfl

/-- Problems that are told before the first contents are told before both. -/
theorem report_append (problems : List Diagnostic) (a b : Contents) :
    a.report problems ++ b = (a ++ b).report problems :=
  congrArg (Contents.mk _ _ _) (List.append_assoc ..)

/-- The problems of contents with some told before them are those and their own. -/
theorem mem_report {problems : List Diagnostic} {c : Contents} {d : Diagnostic} :
    d ∈ (c.report problems).problems ↔ d ∈ problems ∨ d ∈ c.problems := List.mem_append

@[simp] theorem places_empty : empty.places = [] := rfl

/-- The places of both contents, in another order. -/
theorem places_append (a b : Contents) : (a ++ b).places.Perm (a.places ++ b.places) := by
  simp only [places, children_append, lines_append, properties_append, List.map_append]
  exact ((perm_append_shuffle ..).append_left _).trans (perm_append_shuffle ..)

/-- **How the nodes of contents stand among tokens.** -/
structure Sits (c : Contents) (s : Text) (tokens : List Token) : Prop where
  /-- Every node stands from one token to another. -/
  among : ∀ p ∈ c.places, p.Among tokens
  /-- No two nodes meet. -/
  apart : c.places.Pairwise fun p q => p.span.Disjoint q.span
  /-- The blocks stand in order. -/
  children : c.children.Pairwise fun a b => a.span.Before b.span
  /-- The lines stand in order. -/
  lines : c.lines.Pairwise fun a b => a.span.Before b.span
  /-- The properties stand in order. -/
  properties : c.properties.Pairwise fun a b => a.span.Before b.span
  /-- A line is what stands at its span. -/
  text : ∀ l ∈ c.lines, l.text = l.span.slice s
  /-- A value is what stands at its span, inside the property, without the blanks around it. -/
  value : ∀ p ∈ c.properties, p.value = Text.trim (p.valueSpan.slice s) ∧ p.valueSpan.Within p.span

/-- The places that contents take are those of their children, lines and properties. -/
theorem mem_places {c : Contents} {p : Place} : p ∈ c.places ↔
    (∃ b ∈ c.children, b.place = p) ∨ (∃ l ∈ c.lines, l.place = p) ∨
      ∃ q ∈ c.properties, q.place = p := by
  simp only [places, List.mem_append, List.mem_map]

namespace Sits

variable {s : Text} {a b : Contents} {tokens used rest : List Token}

/-- Empty contents sit anywhere. -/
theorem empty (s : Text) (tokens : List Token) : Contents.empty.Sits s tokens :=
  ⟨by simp, .nil, .nil, .nil, .nil, by simp [Contents.empty], by simp [Contents.empty]⟩

/-- What is reported does not matter. -/
theorem reported (h : a.Sits s tokens) (problems : List Diagnostic) :
    Sits ⟨a.children, a.lines, a.properties, problems⟩ s tokens :=
  ⟨h.among, h.apart, h.children, h.lines, h.properties, h.text, h.value⟩

/-- Contents that sit among some tokens sit among more tokens. -/
theorem mono {more : List Token} (h : a.Sits s tokens) (hmore : ∀ t ∈ tokens, t ∈ more) :
    a.Sits s more :=
  { h with among := fun p hp => (h.among p hp).mono hmore }

/-- Contents of one block. -/
theorem ofBlock {b : Block} (h : b.place.Among tokens) : Sits ⟨[b], [], [], []⟩ s tokens :=
  ⟨by simpa [places] using h, List.pairwise_singleton .., List.pairwise_singleton .., .nil, .nil,
    by simp, by simp⟩

/-- Contents of one line. -/
theorem ofLine {l : BodyLine} (h : l.place.Among tokens) (htext : l.text = l.span.slice s) :
    Sits ⟨[], [l], [], []⟩ s tokens :=
  ⟨by simpa [places] using h, List.pairwise_singleton .., .nil, List.pairwise_singleton .., .nil,
    by simpa using htext, by simp⟩

/-- Contents of one property. -/
theorem ofProperty {p : Property} (h : p.place.Among tokens)
    (hvalue : p.value = Text.trim (p.valueSpan.slice s) ∧ p.valueSpan.Within p.span) :
    Sits ⟨[], [], [p], []⟩ s tokens :=
  ⟨by simpa [places] using h, List.pairwise_singleton .., .nil, .nil, List.pairwise_singleton ..,
    by simp, by simpa using hvalue⟩

/-- **Nodes of tokens that stand one behind the other** do so, too. -/
theorem append (ha : a.Sits s used) (hb : b.Sits s rest) (h : Apart (used ++ rest)) :
    (a ++ b).Sits s (used ++ rest) := by
  -- All places of the first nodes stand before those of the second ones.
  have hbefore : ∀ p ∈ a.places, ∀ q ∈ b.places, p.span.Before q.span :=
    fun p hp q hq => (ha.among p hp).before (hb.among q hq) h
  refine ⟨fun p hp => ?_, ?_, ?_, ?_, ?_, ?_, ?_⟩
  · -- Each place stands among the tokens of its part.
    rcases List.mem_append.1 ((places_append a b).subset hp) with hp | hp
    · exact (ha.among p hp).mono fun t => List.mem_append_left _
    · exact (hb.among p hp).mono fun t => List.mem_append_right _
  · -- No two places overlap, within a part or across the parts.
    refine ((places_append a b).pairwise_iff fun {p q} => Span.Disjoint.symm).2 ?_
    exact List.pairwise_append.2 ⟨ha.apart, hb.apart, fun p hp q hq => .inl (hbefore p hp q hq)⟩
  · refine List.pairwise_append.2 ⟨ha.children, hb.children, fun c hc d hd => ?_⟩
    exact hbefore c.place (mem_places.2 (.inl ⟨c, hc, rfl⟩)) d.place
      (mem_places.2 (.inl ⟨d, hd, rfl⟩))
  · refine List.pairwise_append.2 ⟨ha.lines, hb.lines, fun c hc d hd => ?_⟩
    exact hbefore c.place (mem_places.2 (.inr (.inl ⟨c, hc, rfl⟩))) d.place
      (mem_places.2 (.inr (.inl ⟨d, hd, rfl⟩)))
  · refine List.pairwise_append.2 ⟨ha.properties, hb.properties, fun c hc d hd => ?_⟩
    exact hbefore c.place (mem_places.2 (.inr (.inr ⟨c, hc, rfl⟩))) d.place
      (mem_places.2 (.inr (.inr ⟨d, hd, rfl⟩)))
  · exact fun l hl => (List.mem_append.1 hl).elim (ha.text l) (hb.text l)
  · exact fun p hp => (List.mem_append.1 hp).elim (ha.value p) (hb.value p)

end Sits

end Contents

/-! ## What a step finds -/

/-- The last token of a line, doc comments apart. -/
def lineEnd (head : Token) (others : List Token) : Token :=
  (others.filter (·.kind != .doc)).getLast?.getD head

/-- The end of a line is one of its tokens. -/
theorem lineEnd_mem (head : Token) (others : List Token) :
    lineEnd head others ∈ head :: others := by
  rcases List.mem_cons.1 (getLast?_getD_mem head (others.filter (·.kind != .doc))) with h | h
  · exact List.mem_cons.2 (.inl h)
  · exact List.mem_cons_of_mem _ (List.mem_filter.1 h).1

/-- A line goes from its first token to its last one. -/
theorem fromTo_lineEnd_among {head : Token} {others : List Token} (h : Apart (head :: others)) :
    (Place.fromTo head (lineEnd head others)).Among (head :: others) := by
  refine ⟨head, List.mem_cons_self .., _, lineEnd_mem head others, ?_, rfl⟩
  rcases List.mem_cons.1 (lineEnd_mem head others) with heq | hmem
  · rw [heq]
  · have hown := h.own head (List.mem_cons_self ..)
    have horder := (List.pairwise_cons.1 h.order).1 _ hmem
    omega

/-- From the first to the last token of a line all of them are covered, doc comments apart. -/
theorem covers_lineEnd {head : Token} {others : List Token} (h : Apart (head :: others)) {t : Token}
    (ht : t ∈ head :: others) (hdoc : t.kind ≠ .doc) :
    (Place.fromTo head (lineEnd head others)).Covers t := by
  have hown := h.own head (List.mem_cons_self ..)
  rcases List.mem_cons.1 ht with rfl | hmem
  · -- The first token starts the line, and the line ends with it or behind it.
    refine ⟨Nat.le_refl _, ?_⟩
    change t.span.stop ≤ (lineEnd t others).span.stop
    rcases List.mem_cons.1 (lineEnd_mem t others) with heq | hend
    · rw [heq]
    · have horder := (List.pairwise_cons.1 h.order).1 _ hend
      have hend := h.own _ (lineEnd_mem t others)
      exact Nat.le_of_lt (Nat.lt_of_le_of_lt horder hend)
  · -- Any other token starts behind the first, and the last one is at or behind it.
    have horder := (List.pairwise_cons.1 h.order).1 t hmem
    have hfilter : t ∈ others.filter (·.kind != .doc) :=
      List.mem_filter.2 ⟨hmem, by simpa using hdoc⟩
    have hsub : Apart (others.filter (·.kind != .doc)) :=
      h.sublist (List.filter_sublist.trans (List.sublist_cons_self ..))
    refine ⟨(Nat.le_of_lt hown).trans horder, ?_⟩
    change t.span.stop ≤ (lineEnd head others).span.stop
    rw [lineEnd]
    cases hend : (others.filter (·.kind != .doc)).getLast? with
    | none =>
      rw [List.getLast?_eq_none_iff.1 hend] at hfilter
      cases hfilter
    | some last => exact hsub.stop_le_getLast hfilter hend

/-- **A line or property stands from its first token to its last one.** -/
theorem readBodyLine_sits (s : Text) (doc : List Text) {head : Token} {others : List Token}
    (h : Apart (head :: others)) :
    match readBodyLine s doc head others with
    | .inl l => l.place = .fromTo head (lineEnd head others) ∧ l.text = l.span.slice s
    | .inr p => p.place = .fromTo head (lineEnd head others) ∧
        p.value = Text.trim (p.valueSpan.slice s) ∧ p.valueSpan.Within p.span := by
  have hsub : (others.filter (·.kind != .doc)).Sublist others := List.filter_sublist
  simp only [readBodyLine, lineEnd]
  generalize others.filter (·.kind != .doc) = body at hsub
  have hbody : Apart (head :: body) := h.sublist (hsub.cons_cons head)
  cases body with
  | nil => cases head.kind <;> exact ⟨rfl, rfl⟩
  | cons second values =>
    by_cases hk : head.kind = .word
    · rw [hk]
      dsimp only
      split
      next p heq =>
        split at heq
        next => cases heq
        next =>
          cases heq
          exact ⟨rfl, rfl⟩
      next p heq =>
        split at heq
        next =>
          cases heq
          refine ⟨rfl, rfl, ?_⟩
          have hstart := fun u hu => (List.pairwise_cons.1 hbody.order).1 u hu
          have hown := hbody.own head (List.mem_cons_self ..)
          have hlast : (second :: values).getLast?
              = some ((second :: values).getLast?.getD head) := by
            rw [List.getLast?_cons, Option.getD_some]
          have hmem := List.mem_of_getLast? hlast
          have hvalues : Apart (second :: values) := hbody.sublist (List.sublist_cons_self ..)
          generalize (second :: values).getLast?.getD head = last at hlast hmem ⊢
          -- Without tokens behind the colon the value is the empty stretch there.
          cases values with
          | nil =>
            obtain rfl : second = last := by simpa using hlast
            have := hstart second hmem
            have := hbody.own second (List.mem_cons_of_mem _ hmem)
            exact ⟨by dsimp only; omega, Nat.le_refl _, Nat.le_refl _⟩
          | cons value others =>
            have hvalue : value ∈ second :: value :: others := by simp
            have := hstart value hvalue
            have := hvalues.own value hvalue
            have := hvalues.stop_le_getLast hvalue hlast
            exact ⟨by dsimp only; omega, by dsimp only; omega, Nat.le_refl _⟩
        next => cases heq
    · cases hkind : head.kind <;> first | exact absurd hkind hk | exact ⟨rfl, rfl⟩

/-- **A reference on one line stands from its first token to its last one.** -/
theorem place_readShortRef {s : Text} {doc : List Text} {head : Token} {others : List Token}
    {b : Block} (h : readShortRef s doc head others = .ok b) :
    b.place = .fromTo head (lineEnd head others) := by
  simp only [readShortRef] at h
  split at h
  next => cases h
  next =>
    split at h
    next first last hfirst hlast =>
      cases h
      -- The line ends with the last token behind the colon that is no doc comment.
      have hend : lineEnd head others = last := by
        have hothers := List.takeWhile_append_dropWhile (p := fun t : Token => t.kind != .colon)
          (l := others)
        rw [lineEnd, ← hothers, List.filter_append]
        cases hdrop : others.dropWhile (·.kind != .colon) with
        | nil =>
          rw [hdrop] at hlast
          cases hlast
        | cons colon body =>
          rw [hdrop, List.drop_one, List.tail_cons] at hlast
          have hfilter : (colon :: body).filter (·.kind != .doc)
              = [colon].filter (·.kind != .doc) ++ body.filter (·.kind != .doc) :=
            List.filter_append [colon] body
          rw [hfilter, List.getLast?_append, List.getLast?_append, hlast]
          rfl
      rw [hend]
      rfl
    next => cases h

namespace Item

/-- What a step finds, as contents of its own. -/
def contents (s : Text) (tl : Bool) (doc : List Text) (item : Item) : Contents :=
  item.add s tl doc .empty

/-- What a step finds comes before what is read behind it. -/
theorem add_eq_append (s : Text) (tl : Bool) (doc : List Text) (item : Item) (c : Contents) :
    item.add s tl doc c = item.contents s tl doc ++ c := by
  cases item with
  | nothing => rfl
  | block => rfl
  | line head others =>
    simp only [contents, add, addStatement]
    split
    next =>
      split
      next => rfl
      next problems _ => rw [Contents.report_append, Contents.empty_append]
    next => split <;> rfl

/-- Where the node stands that a step finds. -/
def place? : Item → Option Place
  | nothing => none
  | block head _ _ _ close => some (.fromTo head close)
  | line head others => some (.fromTo head (lineEnd head others))

/-- The tokens that a step takes make what it finds; a block without a header starts with its
brace. -/
def Takes : Item → List Token → Prop
  | nothing, _ => True
  | block head header brace body close, used =>
    ∃ front, used = front ++ brace :: body ++ [close] ∧
      (front = head :: header ∨ front = [] ∧ header = [] ∧ brace = head)
  | line head others, used => used = head :: others

/-- A block goes from its first token to its last one. -/
theorem Takes.exists_middle {head brace close : Token} {header body used : List Token}
    (h : (block head header brace body close).Takes used) :
    ∃ middle, used = head :: middle ++ [close] := by
  obtain ⟨front, rfl, rfl | ⟨rfl, -, rfl⟩⟩ := h
  · exact ⟨header ++ brace :: body, by simp⟩
  · exact ⟨body, rfl⟩

/-- The body of a block stands among its tokens. -/
theorem Takes.body_infix {head brace close : Token} {header body used : List Token}
    (h : (block head header brace body close).Takes used) : body <:+: used := by
  obtain ⟨front, rfl, -⟩ := h
  exact ⟨front ++ [brace], [close], by simp⟩

/-- **A step finds the node at its place**, unless the statement is an error of the top level. -/
theorem places_eq {used : List Token} {item : Item} (hused : item.Takes used) (h : Apart used)
    (s : Text) (tl : Bool) (doc : List Text) :
    (item.contents s tl doc).places = item.place?.toList ∨
      tl = true ∧ (item.contents s tl doc).places = [] ∧
        ∃ head others problems, item = .line head others ∧
          readShortRef s doc head others = .error problems := by
  cases item with
  | nothing => exact .inl rfl
  | block => exact .inl rfl
  | line head others =>
    cases tl with
    -- In a body every line is a node, a statement or a property.
    | false =>
      obtain rfl : used = head :: others := hused
      have hline := readBodyLine_sits s doc h
      left
      simp only [contents, add, addStatement, Bool.false_eq_true, if_false]
      cases hread : readBodyLine s doc head others with
      | inl l =>
        rw [hread] at hline
        exact congrArg (· :: []) hline.1
      | inr p =>
        rw [hread] at hline
        exact congrArg (· :: []) hline.1
    -- At the top level a line is a reference, or it is reported.
    | true =>
      cases hread : readShortRef s doc head others with
      | ok b =>
        left
        simp only [contents, add, addStatement, if_true, hread]
        exact congrArg (· :: []) (place_readShortRef hread)
      | error problems =>
        right
        refine ⟨rfl, ?_, head, others, problems, rfl, hread⟩
        simp only [contents, add, addStatement, if_true, hread]
        rfl

/-- **What a step finds sits among its tokens.** -/
theorem sits {used : List Token} {item : Item} (hused : item.Takes used) (h : Apart used) (s : Text)
    (tl : Bool) (doc : List Text) : (item.contents s tl doc).Sits s used := by
  cases item with
  | nothing => exact .empty s _
  | block head header brace body close =>
    -- The head and the closing brace are the ends of the block.
    obtain ⟨middle, rfl⟩ := hused.exists_middle
    refine .ofBlock ⟨head, by simp, close, by simp, ?_, rfl⟩
    have hown := h.own head (by simp)
    have horder := h.stop_le (t := head) (by simp) (List.mem_singleton_self close)
    omega
  | line head others =>
    obtain rfl : used = head :: others := hused
    have hamong := fromTo_lineEnd_among h
    cases tl with
    | false =>
      have hline := readBodyLine_sits s doc h
      simp only [contents, add, addStatement, Bool.false_eq_true, if_false]
      cases hread : readBodyLine s doc head others with
      | inl l =>
        rw [hread] at hline
        exact .ofLine (hline.1 ▸ hamong) hline.2
      | inr p =>
        rw [hread] at hline
        exact .ofProperty (hline.1 ▸ hamong) hline.2
    | true =>
      simp only [contents, add, addStatement, if_true]
      cases hread : readShortRef s doc head others with
      | ok b => exact .ofBlock (place_readShortRef hread ▸ hamong)
      | error problems => exact (Contents.Sits.empty s _).reported _

end Item

/-! ## The nodes of a sequence -/

/-- **The tokens that a step takes** make what it finds. -/
theorem Step.exists_takes {tl : Bool} {doc doc' : List Text} {tokens rest : List Token}
    {item : Item}
    (h : Step tl doc tokens item doc' rest) : ∃ used, tokens = used ++ rest ∧ item.Takes used := by
  cases h with
  | @newline t => exact ⟨[t], rfl, trivial⟩
  | @doc t => exact ⟨[t], rfl, trivial⟩
  | @strayBrace t => exact ⟨[t], rfl, trivial⟩
  | @bareUnclosed t => exact ⟨[t], rfl, trivial⟩
  -- A body without a header line lies between its braces.
  | @bareBlock t _ body _ close _ hclose =>
    rw [eq_of_closeBrace hclose]
    exact ⟨t :: body ++ [close], by simp, [], rfl, .inr ⟨rfl, rfl, rfl⟩⟩
  | @unclosed t others segment _ brace _ _ hscan =>
    rw [← scanLine_append tl (openedBy t) others, hscan]
    exact ⟨t :: segment ++ [brace], by simp, trivial⟩
  | @block t others segment behind body _ brace close _ _ hscan _ hclose =>
    rw [← scanLine_append tl (openedBy t) others, hscan, eq_of_closeBrace hclose]
    exact ⟨t :: segment ++ brace :: body ++ [close], by simp, t :: segment, rfl, .inl rfl⟩
  | @line t others segment _ _ _ hscan =>
    rw [← scanLine_append tl (openedBy t) others, hscan]
    exact ⟨t :: segment, by simp, rfl⟩

/-- **The nodes of a sequence of tokens sit among them.** -/
theorem sits_contentsFrom (s : Text) (tl : Bool) (doc : List Text) {tokens : List Token}
    (h : Apart tokens) : (contentsFrom s tl doc tokens).Sits s tokens := by
  induction doc, tokens using steps_induction tl with
  | nil doc =>
    rw [contentsFrom_nil]
    exact .empty s []
  | step doc t others item doc' rest hstep ih =>
    obtain ⟨problems, hcontents⟩ := contentsFrom_of_step hstep s
    obtain ⟨used, hused, htakes⟩ := hstep.exists_takes
    have hlater := ih (hused ▸ h).right
    rw [hcontents, Item.add_eq_append, hused]
    rw [hused] at h
    exact ((Item.sits htakes h.left s tl doc).append hlater h).reported _

end SchemaDiagram
