import SchemaDiagram.Proofs.BodyPlace
import SchemaDiagram.Proofs.Sealed
import SchemaDiagram.Proofs.WrittenValues

/-! # Another value for a property

A balanced body falls apart at the value of each of its properties: nothing runs out of the text
before the value, and no value goes on in the text behind it. So a written value may stand there in
place of the old one, and the body says the same but for that value.

* **`scanLine_flat`** — a line of tokens that open and close nothing.
* **`ValueCut`** — a body that is cut at a value; `ValueCut.Valid` that its tokens are cut, too, and
  `exists_valueCut` that every property has one.
* **`ValueCut.Valid.view_revalue`** — what the body says with another value.
* **`exists_revalued`** — the same for every property of a balanced body. -/

namespace SchemaDiagram

/-! ## Lines of flat tokens -/

/-- Whether a token stands in a line without ending it: it is flat or a doc comment. -/
def Token.isInline (t : Token) : Bool := t.kind.isFlat || t.kind = .doc

/-- **A line of tokens that open and close nothing** ends at the first line end. -/
theorem scanLine_flat {tl : Bool} {front rest : List Token} (h : ∀ t ∈ front, t.isInline = true)
    (hrest : ∀ t ∈ rest.head?, t.kind = .newline) :
    scanLine tl [] (front ++ rest) = ⟨front, rest, none⟩ := by
  induction front with
  | nil =>
    cases rest with
    | nil => rfl
    | cons t rest =>
      -- Outside brackets a newline ends the line.
      have hstop : lineStop tl [] t rest = some none := by
        rw [lineStop, hrest t rfl]
        rfl
      rw [List.nil_append, scanLine_cons, hstop]
  | cons t front ih =>
    have ht := h t (List.mem_cons_self ..)
    -- An inline token ends no line and opens nothing.
    have hkind : lineStop tl [] t (front ++ rest) = none ∧ openedBehind [] t = [] := by
      cases hk : t.kind <;>
        simp [hk, Token.isInline, TokenKind.isFlat, TokenKind.startsStatement, TokenKind.opens,
          TokenKind.closes] at ht <;>
        simp [lineStop, openedBehind, hk, TokenKind.opens, TokenKind.closes]
    rw [List.cons_append, scanLine_cons, hkind.1, hkind.2]
    dsimp only
    rw [ih fun u hu => h u (List.mem_cons_of_mem _ hu)]
    rfl

/-- Nothing is owed for tokens that open and close nothing, nor for line ends. -/
theorem balance_flat {tokens : List Token} (h : ∀ t ∈ tokens, t.isInline = true ∨ t.kind = .newline)
    (owed : List TokenKind) : balance owed tokens = some owed := by
  induction tokens with
  | nil => rfl
  | cons t tokens ih =>
    have ht := h t (List.mem_cons_self ..)
    have howed : owedAfter owed t.kind = some owed := by
      cases hk : t.kind <;>
        simp [hk, Token.isInline, TokenKind.isFlat, TokenKind.startsStatement, TokenKind.opens,
          TokenKind.closes] at ht <;> rfl
    rw [balance_cons, howed, Option.bind_some]
    exact ih fun u hu => h u (List.mem_cons_of_mem _ hu)

/-- **The last token of a balanced line is no line end**, doc comments behind it apart. -/
theorem kind_of_scanLine_last {opened tokens front docs rest : List Token} {owed : List TokenKind}
    {t : Token} {u : Option Token}
      (h : scanLine false opened tokens = ⟨front ++ t :: docs, rest, u⟩)
    (htracks : Tracks opened owed) (hb : balance owed (front ++ t :: docs) = some [])
    (hdocs : ∀ d ∈ docs, d.kind = .doc) : t.kind ≠ .newline := by
  induction front generalizing opened owed tokens with
  | nil =>
    cases tokens with
    | nil => simp [scanLine] at h
    | cons v tokens =>
      rw [scanLine_cons] at h
      split at h
      next => simp at h
      next hstop =>
        simp only [LineScan.cons, LineScan.mk.injEq, List.nil_append, List.cons.injEq] at h
        obtain ⟨⟨rfl, -⟩, -, -⟩ := h
        intro hkind
        -- Nothing is owed at the end of the line, so no bracket is open before the line end.
        have hflat : ∀ d ∈ v :: docs, d.isInline = true ∨ d.kind = .newline := by
          refine List.forall_mem_cons.2 ⟨.inr hkind, fun d hd => .inl ?_⟩
          simp [Token.isInline, hdocs d hd]
        obtain rfl : owed = [] := Option.some.inj ((balance_flat hflat owed).symm.trans hb)
        obtain rfl : opened = [] := List.length_eq_zero_iff.1 htracks.length
        rw [lineStop, hkind] at hstop
        simp [TokenKind.opens, TokenKind.closes] at hstop
  | cons v front ih =>
    cases tokens with
    | nil => simp [scanLine] at h
    | cons w tokens =>
      rw [scanLine_cons] at h
      split at h
      next => simp at h
      next hstop =>
        simp only [LineScan.cons, LineScan.mk.injEq, List.cons_append, List.cons.injEq] at h
        obtain ⟨⟨rfl, hseg⟩, hrest, hu⟩ := h
        rw [List.cons_append, balance_cons, Option.bind_eq_some_iff] at hb
        obtain ⟨mid, hmid, hfront⟩ := hb
        have hline : scanLine false (openedBehind opened w) tokens
            = ⟨front ++ t :: docs, rest, u⟩ := by
          rw [← hseg, ← hrest, ← hu]
        exact ih hline (htracks.behind hstop hmid) hfront

/-! ## Doc comments around a value -/

/-- The tokens from one that is no doc comment up to the last one that is none. -/
theorem exists_last_of_filter (t : Token) (ht : t.kind ≠ .doc) (more : List Token) :
    ∃ front last docs, t :: more = front ++ last :: docs ∧ last.kind ≠ .doc ∧
      (∀ d ∈ docs, d.kind = .doc) ∧
      last = ((more.filter (·.kind != .doc)).getLast?).getD t := by
  induction more using List.reverseRecOn with
  | nil => exact ⟨[], t, [], rfl, ht, by simp, rfl⟩
  | append_singleton more u ih =>
    -- A doc comment goes behind the last token.
    by_cases hu : u.kind = .doc
    · obtain ⟨front, last, docs, heq, hlast, hdocs, hlast'⟩ := ih
      refine ⟨front, last, docs ++ [u], ?_, hlast, ?_, ?_⟩
      · rw [← List.cons_append, heq, List.append_assoc, List.cons_append]
      · exact List.forall_mem_append.2 ⟨hdocs, List.forall_mem_singleton.2 hu⟩
      · rw [hlast']
        simp [List.filter_append, hu]
    · refine ⟨t :: more, u, [], by simp, hu, by simp, ?_⟩
      simp [List.filter_append, hu]

/-! ## Cuts -/

/-- Blanks in one line. -/
structure InlineBlank (b : Text) : Prop where
  /-- Every character is blank. -/
  blank : AllBlank b
  /-- None is a line end. -/
  line : '\n' ∉ b

/-- Nothing is blank. -/
theorem InlineBlank.nil : InlineBlank [] := ⟨by simp [AllBlank], by simp⟩

/-- Blanks in one line make no token. -/
theorem InlineBlank.tokens {b : Text} (hb : InlineBlank b) (o l : Nat) : tokensFrom o l b = [] := by
  refine List.eq_nil_iff_forall_not_mem.2 fun t ht => hb.line ?_
  exact mem_of_kind_newline ht (kind_of_mem_blanks hb.blank ht)

/-- **A body that is cut at the value of a property.** The tokens behind the value are those of the
text behind it by itself. -/
structure ValueCut where
  /-- The text before the value. -/
  ahead : Text
  /-- The value. -/
  value : Text
  /-- The text behind the value. -/
  behind : Text
  /-- The tokens between the key and the value: the colon, and perhaps doc comments. -/
  link : List Token
  /-- The doc comments at the end of the line. -/
  docs : List Token
  /-- The tokens behind the line. -/
  rest : List Token

namespace ValueCut

/-- The whole body. -/
def text (c : ValueCut) : Text := c.ahead ++ (c.value ++ c.behind)

/-- The text up to the end of the value. -/
def lead (c : ValueCut) : Text := c.ahead ++ c.value

/-- The place of a token behind the value in the whole body. -/
def shift (c : ValueCut) : Token → Token := Token.move c.lead.length (1 + c.lead.count '\n')

/-- The tokens of the body are cut as its text is. -/
structure Valid (c : ValueCut) (w : PropertyPlace) : Prop where
  /-- Nothing runs out of the text before the value. -/
  sealed : Sealed c.ahead
  /-- The value ends at a boundary. -/
  joint : Joint c.lead c.behind
  /-- No value goes on in the text behind it. -/
  loose : Loose c.behind
  /-- The tokens before the value are those of the text before it. -/
  ahead : tokenize (clean c.ahead) = w.before ++ w.head :: c.link
  /-- The tokens behind it are those of the text behind it. -/
  behind : tokensFrom 0 0 (clean c.behind) = c.docs ++ c.rest
  /-- The property starts with a word. -/
  head : w.head.kind = .word
  /-- The line starts with the tokens before the value. -/
  own : c.link <+: w.others
  /-- A colon stands before the value, and perhaps doc comments. -/
  link : ∃ docs colon more, c.link = docs ++ colon :: more ∧ (∀ d ∈ docs, d.kind = .doc) ∧
    colon.kind = .colon ∧ ∀ d ∈ more, d.kind = .doc
  /-- Doc comments stand behind the value. -/
  docs : ∀ d ∈ c.docs, d.kind = .doc
  /-- The tokens behind the line stand behind the property. -/
  rest : w.rest = c.rest.map c.shift
  /-- The line ends there. -/
  line : ∀ t ∈ c.rest.head?, t.kind = .newline

end ValueCut

/-! ## Every property has a cut -/

/-- The line of a property: it is balanced, and it ends at a line end or at the end of the body. -/
theorem PropertyPlace.Valid.line {w : PropertyPlace} (h : w.Valid) (hhead : w.head.kind = .word) :
    (∃ u, scanLine false [] (w.others ++ w.rest) = ⟨w.others, w.rest, u⟩) ∧
      balance [] w.others = some [] ∧ ∀ t ∈ w.rest.head?, t.kind = .newline := by
  have hopened : openedBy w.head = [] := by
    rw [openedBy, hhead]
    rfl
  have hown := h.own
  rw [PropertyPlace.own, balance_cons, hhead] at hown
  have hstep := h.step
  rw [PropertyPlace.own] at hstep
  generalize hothers : w.others = others at hstep hown
  generalize hrest : w.rest = rest at hstep hown
  cases hstep with
  | @line _ _ _ _ u _ hscan hbrace =>
    rw [hopened] at hscan
    obtain ⟨hline, -, hend⟩ := balance_of_scanLine hscan Tracks.nil hown
    refine ⟨⟨u, hscan⟩, hline, fun t ht => ?_⟩
    rcases hend t ht with hk | hk | hk
    · exact hk
    · exact absurd hk (hbrace t ht)
    · -- A closing brace would close nothing.
      have hbalance := h.rest
      obtain ⟨others', rfl⟩ := List.head?_eq_some_iff.1 ht
      rw [hrest, balance_cons, hk] at hbalance
      cases hbalance

/-- A colon is a piece by itself. -/
theorem Piece.eq_colon {k : TokenKind} {x after : Text} (h : Piece (some k) x after)
    (hk : k = .colon) : x = [':'] := by
  cases h with
  | @char c =>
    unfold TokenKind.ofChar at hk
    split at hk
    all_goals first | rfl | cases hk
  | _ => cases hk

/-- The parts of a body around a value make a cut. -/
theorem exists_cut_of_parts {w : PropertyPlace} {ahead value behind : Text} {link docs : List Token}
    (hahead : Sealed ahead) (hjoint : Joint (ahead ++ value) behind) (hhead : w.head.kind = .word)
    (htokens : tokenize (clean ahead) = w.before ++ w.head :: link) (hown : link <+: w.others)
    (hlink : ∃ docs colon more, link = docs ++ colon :: more ∧ (∀ d ∈ docs, d.kind = .doc) ∧
      colon.kind = .colon ∧ ∀ d ∈ more, d.kind = .doc)
    (hbehind : tokensFrom (ahead ++ value).length (1 + (ahead ++ value).count '\n') (clean behind)
      = docs ++ w.rest)
    (hdocs : ∀ d ∈ docs, d.kind = .doc) (hline : ∀ t ∈ w.rest.head?, t.kind = .newline) :
    ∃ c : ValueCut, c.Valid w ∧ c.ahead = ahead ∧ c.value = value ∧ c.behind = behind := by
  -- The tokens behind the value are those of the text there, moved.
  have hmove := tokensFrom_move 0 0 (ahead ++ value).length (1 + (ahead ++ value).count '\n')
    (clean behind)
  rw [Nat.zero_add, Nat.zero_add, hbehind] at hmove
  obtain ⟨docs₀, rest₀, htokens₀, rfl, hrest⟩ := List.map_eq_append_iff.1 hmove.symm
  have hdocs' : ∀ d ∈ docs₀, d.kind = .doc := fun d hd =>
    hdocs (Token.move _ _ d) (List.mem_map_of_mem hd)
  refine ⟨⟨ahead, value, behind, link, docs₀, rest₀⟩, ⟨hahead, hjoint, ?_, htokens, htokens₀, hhead,
    hown, hlink, hdocs', hrest.symm, ?_⟩, rfl, rfl, rfl⟩
  · -- What follows is a doc comment or a line end, so the value does not go on.
    refine Loose.of_tokens (o := (ahead ++ value).length)
      (l := 1 + (ahead ++ value).count '\n') fun u hu => ?_
    rw [hbehind] at hu
    cases hd : docs₀ with
    | nil =>
      rw [hd] at hu
      exact .inr (hline u hu)
    | cons d others =>
      rw [hd] at hu
      obtain rfl := Option.some.inj hu
      exact .inl (hdocs _ (by simp [hd]))
  · intro t ht
    rw [← hrest, List.head?_map, Option.mem_def.1 ht, Option.map_some] at hline
    exact hline (Token.move _ _ t) rfl

/-- **The text falls apart behind a colon**, and nothing runs out of the text up to it. -/
theorem exists_cut_at_colon {X : Text} {o l : Nat} {front values : List Token} {colon : Token}
    (htokens : tokensFrom o l (clean X) = front ++ colon :: values) (hcolon : colon.kind = .colon) :
    ∃ A T, X = A ++ T ∧ Sealed A ∧ tokensFrom o l (clean A) = front ++ [colon] ∧
      colon.span.stop = o + A.length ∧
      tokensFrom (o + A.length) (l + A.count '\n') (clean T) = values := by
  obtain ⟨S, k, x, T, rfl, hS, hpiece, htokS, rfl, htokT⟩ :=
    -- The colon is a piece, and a boundary lies on both sides of it.
    exists_boundary_of_token htokens (by rw [hcolon]; decide)
  obtain rfl : k = .colon := hcolon
  obtain rfl : x = [':'] := hpiece.eq_colon rfl
  -- The places and the lines are counted through the colon.
  have hlength : o + S.length + ([':'] : Text).length = o + (S ++ [':']).length := by
    rw [List.length_append, Nat.add_assoc]
  have hlines : l + S.count '\n' + ([':'] : Text).count '\n' = l + (S ++ [':']).count '\n' := by
    rw [List.count_append, Nat.add_assoc]
  rw [hlength, hlines] at htokT
  refine ⟨S ++ [':'], T, (List.append_assoc ..).symm, hS.sealed piece_colon (by decide), ?_,
    hlength, htokT⟩
  have hsnoc := hS.tokensFrom_snoc piece_colon (by decide) [] o l
  rwa [List.append_nil, clean_nil, tokensFrom_nil, htokS] at hsnoc

/-- **The text behind a colon falls apart at the value**: from its first token to its last one, doc
comments apart. Nothing runs out of what stands before it. -/
theorem exists_cut_at_value {T : Text} {o l : Nat} {first more front docs rest : List Token}
    {value last : Token} (htokens : tokensFrom o l (clean T) = first ++ value :: (more ++ rest))
    (hfirst : ∀ d ∈ first, d.kind = .doc) (hvalue : value.kind ≠ .newline)
    (hmore : value :: more = front ++ last :: docs) (hlast : last.kind ≠ .newline) :
    ∃ G V R, T = G ++ (V ++ R) ∧ Sealed G ∧ Joint V R ∧ tokensFrom o l (clean G) = first ∧
      value.span.start = o + G.length ∧ last.span.stop = o + (G ++ V).length ∧
      tokensFrom (o + (G ++ V).length) (l + (G ++ V).count '\n') (clean R) = docs ++ rest := by
  -- The value starts at its first token, and only doc comments stand before it.
  obtain ⟨G, k, x, U, rfl, hG, hpiece, htokG, rfl, htokU⟩ := exists_boundary_of_token htokens hvalue
  obtain ⟨c, y, hx, hblank⟩ := hpiece.exists_head hvalue
  have hgap : Sealed G := by
    rw [hx] at hG
    exact sealed_gap hG hblank (by rw [htokG]; exact hfirst)
  have htokV : tokensFrom (o + G.length) (l + G.count '\n') (clean (x ++ U))
      = front ++ last :: (docs ++ rest) := by
    rw [hpiece.tokensFrom_append, hpiece.tokensFrom_eq, htokU, List.singleton_append,
      ← List.cons_append, hmore, List.append_assoc, List.cons_append]
  obtain ⟨M, k', y, R, htext, hM, hpiece', -, rfl, htokR⟩ := exists_boundary_of_token htokV hlast
  have hlength : o + G.length + M.length + y.length = o + (G ++ (M ++ y)).length := by
    simp only [List.length_append, Nat.add_assoc]
  have hlines : l + G.count '\n' + M.count '\n' + y.count '\n'
      = l + (G ++ (M ++ y)).count '\n' := by
    simp only [List.count_append, Nat.add_assoc]
  rw [hlength, hlines] at htokR
  refine ⟨G, M ++ y, R, ?_, hgap, hM.trans hpiece'.joint, htokG, rfl, hlength, htokR⟩
  rw [htext, List.append_assoc]

/-- The first and the last token of a value are no line ends. -/
theorem PropertyPlace.Valid.ends {w : PropertyPlace} (hw : w.Valid)
    {docs first more front docs' : List Token} {colon value last : Token}
      (hhead : w.head.kind = .word)
    (hothers : w.others = docs ++ colon :: (first ++ value :: more))
      (hdocs : ∀ d ∈ docs, d.kind = .doc)
    (hcolon : colon.kind = .colon) (hfirst : ∀ d ∈ first, d.kind = .doc)
    (hmore : value :: more = front ++ last :: docs') (hdocs' : ∀ d ∈ docs', d.kind = .doc) :
    value.kind ≠ .newline ∧ last.kind ≠ .newline := by
  obtain ⟨⟨u, hscan⟩, hbalance, -⟩ := hw.line hhead
  -- A line end would have ended the line before the value.
  constructor
  · rw [hothers, ← List.cons_append, ← List.append_assoc] at hscan
    refine kind_of_scanLine hscan fun d hd => ?_
    have hkind : d.kind = .doc ∨ d.kind = .colon := by
      rcases List.mem_append.1 hd with hd | hd
      · exact .inl (hdocs d hd)
      · rcases List.mem_cons.1 hd with rfl | hd
        · exact .inr hcolon
        · exact .inl (hfirst d hd)
    rcases hkind with hk | hk <;> rw [hk] <;> rfl
  · -- The line would have ended before its last token.
    have hothers' : w.others = (docs ++ colon :: (first ++ front)) ++ last :: docs' := by
      rw [hothers, hmore]
      simp
    rw [hothers'] at hscan hbalance
    exact kind_of_scanLine_last hscan Tracks.nil hbalance hdocs'

/-- **Every property of a balanced body has a cut.** -/
theorem exists_valueCut {X : Text} {w : PropertyPlace} (hw : w.Valid)
    (htokens : tokenize (clean X) = w.tokens) {p : Property}
    (hread : readBodyLine (clean X) w.doc w.head w.others = .inr p) :
    ∃ c : ValueCut, c.Valid w ∧ c.text = X ∧ p.key = w.head.value ∧
      p.valueSpan = .behind c.ahead.length c.value := by
  obtain ⟨docs, colon, values, hothers, hhead, hdocs, hcolon⟩ := exists_parts_of_property hread
  -- The key and the span are read off the tokens.
  obtain ⟨hkey, hspan⟩ : p.key = w.head.value ∧ p.valueSpan = valueSpanOf colon values := by
    obtain ⟨q, hq, hkey, hspan, -⟩ :=
      readBodyLine_property (clean X) w.doc values hhead hdocs hcolon
    rw [← hothers, hread] at hq
    rw [Sum.inr.inj hq]
    exact ⟨hkey, hspan⟩
  obtain ⟨-, -, hline⟩ := hw.line hhead
  have htext : tokensFrom 0 1 (clean X)
      = (w.before ++ w.head :: docs) ++ colon :: (values ++ w.rest) := by
    rw [← tokenize, htokens, PropertyPlace.tokens, PropertyPlace.own, hothers]
    simp
  -- The text falls apart behind the colon.
  obtain ⟨A, T, rfl, hsealed, htokA, hstop, htokT⟩ := exists_cut_at_colon htext hcolon
  rw [Nat.zero_add] at hstop htokT
  rw [List.append_assoc, List.cons_append, ← tokenize] at htokA
  -- Without a value the cut is empty and lies behind the colon.
  cases hfilter : values.filter (·.kind != .doc) with
  | nil =>
    have hvalues : ∀ d ∈ values, d.kind = .doc := by
      intro d hd
      simpa using List.filter_eq_nil_iff.1 hfilter d hd
    have hend := hsealed.solid T
    have hself := List.append_nil A
    rw [← hself] at hend htokT
    obtain ⟨c, hc, hahead, hvalue, hbehind⟩ := exists_cut_of_parts hsealed hend hhead htokA
      ⟨values, by rw [hothers]; simp⟩ ⟨docs, colon, [], rfl, hdocs,
      hcolon, by simp⟩ htokT hvalues hline
    refine ⟨c, hc, by rw [ValueCut.text, hahead, hvalue, hbehind]; rfl, hkey, ?_⟩
    rw [hspan, valueSpanOf, hfilter, hahead, hvalue]
    dsimp only
    rw [hstop]
    rfl
  | cons value others =>
    obtain ⟨first, more, rfl, hfirst, hvalue, hmore⟩ := List.filter_eq_cons_iff.1 hfilter
    replace hfirst : ∀ d ∈ first, d.kind = .doc := fun d hd => by simpa using hfirst d hd
    replace hvalue : value.kind ≠ .doc := by simpa using hvalue
    obtain ⟨front, last, docs', hlast, hdoc, hdocs', hlast'⟩ :=
      exists_last_of_filter value hvalue more
    obtain ⟨hline₁, hline₂⟩ := hw.ends hhead hothers hdocs hcolon hfirst hlast hdocs'
    rw [List.append_assoc, List.cons_append] at htokT
    obtain ⟨G, V, R, rfl, hgap, hV, htokG, hstart, hend, htokR⟩ :=
      exists_cut_at_value htokT hfirst hline₁ hlast hline₂
    -- Up to the value nothing runs out of the text, and its tokens end with doc comments.
    have hA := hsealed.append hgap
    have hahead : tokenize (clean (A ++ G)) = w.before ++ w.head :: (docs ++ colon :: first) := by
      have happ := hsealed.tokens G 0 1
      rw [Nat.zero_add, htokG, ← tokenize, ← tokenize, htokA] at happ
      rw [happ]
      simp
    -- Places and lines behind the value.
    have hlength : A.length + (G ++ V).length = (A ++ G ++ V).length := by
      simp only [List.length_append, Nat.add_assoc]
    have hlines : 1 + A.count '\n' + (G ++ V).count '\n' = 1 + (A ++ G ++ V).count '\n' := by
      simp only [List.count_append, Nat.add_assoc]
    rw [hlength, hlines] at htokR
    obtain ⟨c, hc, hc₁, hc₂, hc₃⟩ :=
      exists_cut_of_parts hA (Joint.trans (hA.solid _) hV) hhead hahead
      ⟨value :: more, by rw [hothers]; simp⟩ ⟨docs, colon, first, rfl, hdocs, hcolon,
        hfirst⟩ htokR hdocs' hline
    refine ⟨c, hc, ?_, hkey, ?_⟩
    · rw [ValueCut.text, hc₁, hc₂, hc₃, List.append_assoc]
    · rw [hspan, valueSpanOf, hfilter, hc₁, hc₂]
      dsimp only
      rw [← hmore, ← hlast', hstart, hend, hlength, Span.behind, List.length_append,
        List.length_append]

/-! ## Another value at a cut -/

/-- Doc comments around a value are no part of it. -/
theorem valueSpanOf_docs {colon : Token} {more tokens docs : List Token}
    (hmore : ∀ d ∈ more, d.kind = .doc) (hdocs : ∀ d ∈ docs, d.kind = .doc) :
    valueSpanOf colon (more ++ (tokens ++ docs)) = valueSpanOf colon tokens := by
  have hnone : ∀ {ds : List Token}, (∀ d ∈ ds, d.kind = .doc) → ds.filter (·.kind != .doc) = [] :=
    fun h => List.filter_eq_nil_iff.2 fun d hd => by simp [h d hd]
  rw [valueSpanOf, valueSpanOf, List.filter_append, List.filter_append, hnone hmore, hnone hdocs,
    List.nil_append, List.append_nil]

/-- A statement at the start of a body that is a property. -/
theorem Item.view_property {s : Text} {doc : List Text} {head : Token} {others : List Token}
    {p : Property} (h : readBodyLine s doc head others = .inr p) :
    (Item.line head others).view s false doc = ⟨[], [], [p.content]⟩ := by
  simp only [Item.view, Item.add, addStatement, h]
  rfl

namespace ValueCut

/-- The body with another value at the cut. -/
def revalue (c : ValueCut) (v : Text) : ValueCut := { c with value := v }

variable {c : ValueCut} {w : PropertyPlace} {pad v : Text}

/-- The tokens of the line behind its key, with a value behind blanks at the cut. -/
def lineTokens (c : ValueCut) (pad v : Text) : List Token :=
  c.link ++ (tokensFrom (c.ahead ++ pad).length (1 + (c.ahead ++ pad).count '\n') v ++
    c.docs.map (c.revalue (pad ++ v)).shift)

/-- The place of the property with that value. -/
def place (c : ValueCut) (w : PropertyPlace) (pad v : Text) : PropertyPlace :=
  { w with
    others := c.lineTokens pad v
    rest := c.rest.map (c.revalue (pad ++ v)).shift }

/-- Moving the tokens behind a value keeps what they are read as. -/
theorem keeps_shift (c : ValueCut) : Keeps c.shift := Keeps.move _ _

section

variable (h : c.Valid w) (hv : IsWritten v)

include h hv

/-- **The tokens of the body with another value.** -/
theorem Valid.tokens_revalue (hpad : InlineBlank pad) :
    tokenize (clean (c.revalue (pad ++ v)).text) = (c.place w pad v).tokens := by
  have hjoint : Joint v c.behind := hv.joint _ h.loose.quote
  have hahead := h.sealed.append (Sealed.of_blanks hpad.blank)
  have hmove := tokensFrom_move 0 0 (c.revalue (pad ++ v)).lead.length
    (1 + (c.revalue (pad ++ v)).lead.count '\n') (clean c.behind)
  have htext : (c.revalue (pad ++ v)).text = c.ahead ++ pad ++ (v ++ c.behind) := by
    simp [text, revalue]
  have hpadtokens := h.sealed.tokens pad 0 1
  rw [hpad.blank.settled.clean_eq, hpad.tokens, List.append_nil] at hpadtokens
  have hlength : 0 + (c.ahead ++ pad).length + v.length
      = 0 + (c.revalue (pad ++ v)).lead.length := by
    simp [lead, revalue, Nat.add_assoc]
  have hlines : 1 + (c.ahead ++ pad).count '\n' + v.count '\n'
      = 0 + (1 + (c.revalue (pad ++ v)).lead.count '\n') := by
    simp [lead, revalue, Nat.add_assoc]
  -- The text up to the value is read as before, then the value, then the rest at its new place.
  rw [htext, tokenize, hahead.tokens, tokensFrom_clean_append hjoint h.loose.severs,
    hv.settled.clean_eq, hpadtokens, hlength, hlines, hmove, h.behind, ← tokenize, h.ahead]
  simp [PropertyPlace.tokens, PropertyPlace.own, place, lineTokens, shift]

/-- The line with another value holds tokens that open and close nothing. -/
theorem Valid.inline : ∀ t ∈ c.lineTokens pad v, t.isInline = true := by
  obtain ⟨docs, colon, more, hlink, hdocs, hcolon, hmore⟩ := h.link
  have hdoc : ∀ {ds : List Token}, (∀ d ∈ ds, d.kind = .doc) → ∀ d ∈ ds, d.isInline = true :=
    fun h d hd => by simp [Token.isInline, h d hd]
  have hcolon' : colon.isInline = true := by
    -- The colon and the doc comments around it stay.
    rw [Token.isInline, hcolon]
    rfl
  -- The new value stands on one line.
  have hvalue : ∀ t ∈ tokensFrom (c.ahead ++ pad).length (1 + (c.ahead ++ pad).count '\n') v,
      t.isInline = true := fun t ht => by simp [Token.isInline, hv.flat _ _ t ht]
  have hbehind : ∀ d ∈ c.docs.map (c.revalue (pad ++ v)).shift, d.kind = .doc := by
    intro d hd
    obtain ⟨e, he, rfl⟩ := List.mem_map.1 hd
    exact h.docs e he
  rw [lineTokens, hlink]
  refine List.forall_mem_append.2 ⟨List.forall_mem_append.2 ⟨hdoc hdocs, ?_⟩, ?_⟩
  · exact List.forall_mem_cons.2 ⟨hcolon', hdoc hmore⟩
  · exact List.forall_mem_append.2 ⟨hvalue, hdoc hbehind⟩

/-- The property is read with another value, and the tokens around it are balanced. -/
theorem Valid.place (hw : w.Valid) (pad : Text) : (c.place w pad v).Valid := by
  -- What stands behind the line is balanced as it was.
  have hrest : balance [] (c.place w pad v).rest = some [] := by
    have hold := hw.rest
    rw [h.rest, balance_map c.keeps_shift] at hold
    exact (balance_map (keeps_shift _) [] c.rest).trans hold
  have hend : ∀ t ∈ (c.place w pad v).rest.head?, t.kind = .newline := by
    intro t ht
    obtain ⟨u, hu, rfl⟩ := Option.mem_map.1 (List.head?_map .. ▸ ht)
    exact h.line u hu
  have hopened : openedBy w.head = [] := by
    rw [openedBy, h.head]
    rfl
  -- The line has inline tokens only, so it ends where the next one starts.
  have hscan : scanLine false (openedBy w.head) (c.lineTokens pad v ++ (c.place w pad v).rest)
      = ⟨c.lineTokens pad v, (c.place w pad v).rest, none⟩ := by
    rw [hopened]
    exact scanLine_flat (h.inline hv) hend
  refine ⟨.line (by rw [ValueCut.place, h.head]; rfl) hscan fun t ht => by rw [hend t ht]; decide,
    hw.before, ?_, hrest⟩
  -- So it opens nothing that is left open.
  have hline : balance [] (w.head :: c.lineTokens pad v) = some [] := by
    refine balance_flat (List.forall_mem_cons.2 ⟨.inl ?_, fun t ht => .inl (h.inline hv t ht)⟩) []
    rw [Token.isInline, h.head]
    rfl
  rw [PropertyPlace.own, ← List.cons_append]
  exact (balance_append_of_balanced hline [] _).trans hrest

/-- What is read at the place of the property. -/
theorem Valid.read (hpad : InlineBlank pad) : ∃ p : Property,
    readBodyLine (clean (c.revalue (pad ++ v)).text) w.doc w.head (c.lineTokens pad v) = .inr p ∧
      p.key = w.head.value ∧ p.value = v := by
  obtain ⟨docs, colon, more, hlink, hdocs, hcolon, hmore⟩ := h.link
  have hbehind : ∀ d ∈ c.docs.map (c.revalue (pad ++ v)).shift, d.kind = .doc := by
    intro d hd
    obtain ⟨e, he, rfl⟩ := List.mem_map.1 hd
    exact h.docs e he
  obtain ⟨p, hp, hkey, hspan, hvalue, -⟩ := readBodyLine_property
    (clean (c.revalue (pad ++ v)).text) w.doc (more ++
      (tokensFrom (c.ahead ++ pad).length (1 + (c.ahead ++ pad).count '\n') v ++
        c.docs.map (c.revalue (pad ++ v)).shift)) h.head hdocs hcolon
  -- The body falls apart at both ends of the new value.
  have hclean : clean (c.revalue (pad ++ v)).text
      = clean (c.ahead ++ pad) ++ (v ++ clean c.behind) := by
    have hahead := h.sealed.append (Sealed.of_blanks hpad.blank)
    have hjoint : Joint v c.behind := hv.joint _ h.loose.quote
    rw [text, revalue, List.append_assoc, ← List.append_assoc c.ahead,
      (hahead.solid (v ++ c.behind)).clean_append, hjoint.clean_append, hv.settled.clean_eq]
  refine ⟨p, ?_, hkey, ?_⟩
  · rw [lineTokens, hlink]
    simpa using hp
  · -- The value is the slice between them, which has no blanks at its ends.
    rw [hvalue, hspan, valueSpanOf_docs hmore hbehind, hv.span, slice_behind hclean (by simp),
      Text.trim_eq_self hv.trimmed]

end

/-- The tokens from the property on may be those of another value. -/
theorem Valid.stands (h : c.Valid w) (hw : w.Valid) (hv : IsWritten v) (pad : Text) :
    Stands w.own (c.place w pad v).own := by
  obtain ⟨values, hvalues⟩ := h.own
  obtain ⟨docs, colon, more, hlink, -, -, -⟩ := h.link
  have hhead : ∀ rest : List Token, (c.link ++ rest).head? = c.link.head? := by
    intro rest
    rw [hlink]
    cases docs <;> rfl
  refine ⟨rfl, ?_, fun depth _ => ?_⟩
  · rw [PropertyPlace.own, PropertyPlace.own, startsBlock_cons, startsBlock_cons, ← hvalues,
      ValueCut.place, lineTokens, List.append_assoc, List.append_assoc, hhead, hhead, h.head]
    rfl
  · -- Balanced tokens close no brace that is open before them.
    have hclose := closeBrace_balanced (h.place hv hw pad).own depth []
    rw [List.append_nil] at hclose
    rw [hclose]
    rfl

/-- What stands before the property is the same in both bodies. -/
theorem Valid.alike_before (h : c.Valid w) (value : Text) :
    Alike (clean c.text) (clean (c.revalue value).text) id id w.before := by
  rw [text, text, revalue, (h.sealed.solid _).clean_append, (h.sealed.solid _).clean_append]
  refine alike_ahead fun t ht => ?_
  have hmem : t ∈ tokenize (clean c.ahead) := by
    rw [h.ahead]
    exact List.mem_append_left _ ht
  have hle := bounds_of_mem_tokensFrom hmem
  omega

/-- What stands behind it is the same in both bodies. -/
theorem Valid.alike_behind (h : c.Valid w) (hpad : InlineBlank pad) (hv : IsWritten v) :
    Alike (clean c.text) (clean (c.revalue (pad ++ v)).text) c.shift (c.revalue (pad ++ v)).shift
      c.rest := by
  -- The old body, cut ahead of what stays.
  have hold : clean c.text = clean c.lead ++ (clean c.behind ++ []) := by
    rw [text, ← List.append_assoc, ← lead, h.joint.clean_append, List.append_nil]
  -- The new body, cut there, too.
  have hnew : clean (c.revalue (pad ++ v)).text
      = clean (c.revalue (pad ++ v)).lead ++ (clean c.behind ++ []) := by
    have hahead := h.sealed.append (Sealed.of_blanks hpad.blank)
    have hjoint : Joint (c.ahead ++ (pad ++ v)) c.behind := by
      rw [← List.append_assoc]
      exact Joint.trans (hahead.solid _) (hv.joint _ h.loose.quote)
    rw [text, revalue, ← List.append_assoc, lead, hjoint.clean_append, List.append_nil]
  -- The tokens that stay lie inside that part.
  have hbounds : ∀ t ∈ c.rest,
      t.span.start ≤ (clean c.behind).length ∧ t.span.stop ≤ (clean c.behind).length := by
    intro t ht
    have hmem : t ∈ tokensFrom 0 0 (clean c.behind) := by
      rw [h.behind]
      exact List.mem_append_right _ ht
    have hle := bounds_of_mem_tokensFrom hmem
    omega
  have halike := SchemaDiagram.alike_behind hold hnew hbounds (1 + c.lead.count '\n')
    (1 + (c.revalue (pad ++ v)).lead.count '\n')
  rwa [length_clean, length_clean] at halike

end ValueCut

/-! ## Another value in a body -/

/-- What a body says by itself. -/
def bodyContents (X : Text) : Contents := contentsFrom (clean X) false [] (tokenize (clean X))

/-- What a body says by itself, without any place. -/
def bodyView (X : Text) : ContentsView := (bodyContents X).view (clean X)

/-- Every bracket, parenthesis and brace of the body is closed by its own kind. -/
def IsBalanced (X : Text) : Prop := balance [] (tokenize (clean X)) = some []

instance (X : Text) : Decidable (IsBalanced X) := by
  unfold IsBalanced
  infer_instance

/-- **The braces of a text are balanced**: each closes one that was opened in it, and none is left
open. Brackets and parentheses may be left open. -/
def HasBalancedBraces (X : Text) : Prop := openBraces 0 (tokenize (clean X)) = some 0

instance (X : Text) : Decidable (HasBalancedBraces X) := by
  unfold HasBalancedBraces
  infer_instance

/-- The braces of a balanced text are balanced. -/
theorem IsBalanced.braces {X : Text} (h : IsBalanced X) : HasBalancedBraces X :=
  openBraces_of_balance h

/-- **A written value may stand in place of the value of a property.** The body is balanced as
before, it says the same but for that value, and the values before it stand where they stood. -/
theorem exists_revalued {X : Text} {front back : List Property} {p : Property} (hb : IsBalanced X)
    (h : (bodyContents X).properties = front ++ p :: back) :
    ∃ A V R, X = A ++ (V ++ R) ∧ p.valueSpan = .behind A.length V ∧ Sealed A ∧ Joint (A ++ V) R ∧
      Loose R ∧ ∀ pad v, InlineBlank pad → IsWritten v →
        IsBalanced (A ++ (pad ++ v ++ R)) ∧
        bodyView (A ++ (pad ++ v ++ R)) = { bodyView X with
          properties := front.map Property.content ++ (p.key, v) :: back.map Property.content } ∧
        ∃ spans, (bodyContents (A ++ (pad ++ v ++ R))).valueSpans
          = front.map (·.valueSpan) ++ spans := by
  -- The property is read by a step, and its value lies between two boundaries.
  obtain ⟨w, hw, htokens, hread, rfl, view, hview, hold, hswap⟩ := exists_propertyPlace hb h
  obtain ⟨c, hc, rfl, hkey', hspan⟩ := exists_valueCut hw htokens hread
  refine ⟨c.ahead, c.value, c.behind, rfl, hspan, hc.sealed, hc.joint, hc.loose,
    fun pad v hpad hv => ?_⟩
  have htokens' := hc.tokens_revalue hv hpad
  have hplace := hc.place hv hw pad
  obtain ⟨q, hq, hkey, hvalue⟩ := hc.read hv hpad
  -- The nodes before it are read alike, and their values stand where they stood.
  obtain ⟨hnew, hspans⟩ := hswap (clean (c.revalue (pad ++ v)).text) (c.place w pad v).own
    (hc.stands hw hv pad) (hc.alike_before (pad ++ v))
  have hcontents : bodyContents (c.revalue (pad ++ v)).text
      = contentsFrom (clean (c.revalue (pad ++ v)).text) false [] (w.before
      ++ (c.place w pad v).own) := by
    rw [bodyContents, htokens']
    rfl
  change IsBalanced (c.revalue (pad ++ v)).text ∧ bodyView (c.revalue (pad ++ v)).text = _ ∧
    ∃ spans, (bodyContents (c.revalue (pad ++ v)).text).valueSpans = _
  refine ⟨?_, ?_, _, hcontents ▸ hspans⟩
  · rw [IsBalanced, htokens', PropertyPlace.tokens]
    exact (balance_append_of_balanced hw.before [] _).trans hplace.own
  · -- The nodes behind it say the same.
    have hback := contentsFrom_view (hc.alike_behind hpad hv) false []
    rw [← hc.rest] at hback
    have hstep := hplace.step.view (clean (c.revalue (pad ++ v)).text)
    have hstep' := hw.step.view (clean c.text)
    rw [Item.view_property hread] at hstep'
    -- The line itself says the key and the new value.
    have hitem : (Item.line (c.place w pad v).head (c.place w pad v).others).view
        (clean (c.revalue (pad ++ v)).text) false (c.place w pad v).doc
        = ⟨[], [], [(p.key, v)]⟩ := by
      have hcontent : q.content = (p.key, v) := by rw [Property.content, hkey, hvalue, hkey']
      rw [← hcontent]
      exact Item.view_property hq
    rw [hitem] at hstep
    rw [bodyView, hcontents, hnew, bodyView, bodyContents, htokens]
    change view ++ (contentsFrom _ false (c.place w pad v).doc (c.place w pad v).own).view _ = _
    rw [hstep]
    change view ++ (_ ++ (contentsFrom _ false [] (c.rest.map (c.revalue (pad ++ v)).shift)).view _)
      = _
    rw [← hback, ← htokens, hold, hstep', ← hview]
    rfl

end SchemaDiagram
