import SchemaDiagram.Proofs.Nesting
import SchemaDiagram.Proofs.Splitting

/-! # Parts of a settings list

A settings list is well formed when it holds no comment and no literal in three quotes, when its
literals are closed and when its brackets and parentheses nest. Such a list is its parts with commas
between them, and the splitting at top-level commas, which goes by characters, finds these parts,
which are told by tokens.

* **`Settled s`** — no segment of the text depends on what follows it.
* **`IsList s`** and **`IsPart p`** — a well-formed list, and one without top-level commas.
* **`IsList.exists_parts`** and **`isList_join`** — a list is its parts with commas between them.
* **`IsPart.isChunk`** — nothing in a part splits, so the chunks of a list are its parts. -/

namespace SchemaDiagram

open Segment (Leads)

/-! ## Settled texts -/

/-- Whether a literal is closed by a mark of one character. -/
def isClosedLiteral (x : Text) : Bool :=
  match Quote.opening? x with
  | some q => q != .triple && (q.literal (x ++ [' '])).1 == x
  | none => false

/-- Whether a segment is a character or a closed literal. -/
def Segment.isSettled : Segment → Bool
  | char _ => true
  | literal x => isClosedLiteral x
  | doc _ | comment _ => false

/-- The text holds no comment, no literal in three quotes and no literal that is left open. -/
def Settled (s : Text) : Prop := ∀ segment ∈ segments s, segment.isSettled = true

instance (s : Text) : Decidable (Settled s) := by
  unfold Settled
  infer_instance

/-- A text that starts with no character that could go on with a segment. -/
def Calm (t : Text) : Prop := ∀ c ∈ t.head?, isQuoteChar c = false ∧ c ≠ '/' ∧ c ≠ '*'

/-- A literal that a blank behind it does not change ends with its mark, whatever follows it. -/
theorem Quote.closed_of_literal {q : Quote} {body : Text}
    (h : (q.literal (q.mark ++ (body ++ [' ']))).1 = q.mark ++ body) :
    q.mark <:+ body ∧ ∀ z, q.finish (body ++ z) = (body, z) := by
  rw [Quote.literal, List.drop_left, List.append_cancel_left_eq] at h
  have happ := q.finish_append (body ++ [' '])
  rw [h, List.append_cancel_left_eq] at happ
  rcases Quote.finish_cases (Prod.ext h happ) with hclosed | hy | ⟨-, hy, -⟩
  · exact hclosed
  · cases hy
  · cases hy

/-- A closed literal ends with its mark, whatever follows it. -/
theorem Segment.Leads.closed {x after : Text} (h : Leads (.literal x) after)
    (hx : isClosedLiteral x = true) :
    ∃ (q : Quote) (body : Text), x = q.mark ++ body ∧ q ≠ .triple ∧ Quote.opening? x = some q ∧
      q.mark <:+ body ∧ ∀ z, q.finish (body ++ z) = (body, z) := by
  cases h with
  | @literal q body _ ho hf =>
    -- The scanner stops at the mark, whatever follows, so it does so at the end of the text.
    have hnil : q.finish (body ++ []) = (body, []) := by
      rcases Quote.finish_cases hf with ⟨-, hz⟩ | rfl | ⟨-, -, hz⟩
      · exact hz []
      · exact hf
      · exact hz [] (.inl rfl)
    have hopen : Quote.opening? (q.mark ++ body) = some q := by
      have := Quote.opening?_of_finish ho hnil (by simp)
      rwa [List.append_nil] at this
    rw [isClosedLiteral, hopen, Bool.and_eq_true, bne_iff_ne, beq_iff_eq, List.append_assoc] at hx
    exact ⟨q, body, rfl, hx.1, hopen, Quote.closed_of_literal hx.2⟩

/-- Every mark consists of one quote character. -/
theorem Quote.exists_char (q : Quote) :
    ∃ m, isQuoteChar m = true ∧ (∀ c ∈ q.mark, c = m) ∧ (q ≠ .triple → q.mark = [m]) := by
  cases q with
  | triple => exact ⟨'\x27', by decide, by simp [mark], fun h => absurd rfl h⟩
  | single => exact ⟨'\x27', by decide, by simp [mark], fun _ => rfl⟩
  | double => exact ⟨'"', by decide, by simp [mark], fun _ => rfl⟩
  | backtick => exact ⟨'\x60', by decide, by simp [mark], fun _ => rfl⟩

/-- A text that starts with no quote does not stand between quotes. -/
theorem unquote_eq_self {s : Text} (h : ∀ c ∈ s.head?, isQuoteChar c = false) : unquote s = s := by
  have hnone : Quote.all.find? (·.encloses s) = none := by
    rw [List.find?_eq_none]
    intro q _ hencloses
    rw [Quote.encloses, Bool.and_eq_true, Bool.and_eq_true] at hencloses
    obtain ⟨t, rfl⟩ := List.isPrefixOf_iff_prefix.1 hencloses.1.2
    obtain ⟨m, hm, hchar, -⟩ := q.exists_char
    obtain ⟨d, rest, hmark⟩ := List.exists_cons_of_ne_nil q.mark_ne_nil
    have hquote := h d (by rw [hmark]; rfl)
    rw [hchar d (by rw [hmark]; exact List.mem_cons_self ..), hm] at hquote
    cases hquote
  rw [unquote, hnone]

/-- A closed literal ends with a quote. -/
theorem Segment.Leads.getLast?_closed {x after : Text} (h : Leads (.literal x) after)
    (hx : isClosedLiteral x = true) : ∃ m, x.getLast? = some m ∧ isQuoteChar m = true := by
  obtain ⟨q, body, rfl, hq, -, ⟨front, rfl⟩, -⟩ := h.closed hx
  obtain ⟨m, hquote, -, hmark⟩ := q.exists_char
  refine ⟨m, ?_, hquote⟩
  rw [← List.append_assoc, hmark hq, List.getLast?_concat]

/-- A settled segment stays as it is before a text that cannot go on with it. -/
theorem Segment.Leads.append_calm {segment : Segment} {s t : Text} (h : Leads segment s)
    (hset : segment.isSettled = true) (ht : Calm t) : Leads segment (s ++ t) := by
  cases s with
  -- Nothing stands behind the segment, and a calm text starts with neither slash.
  | cons c s => exact h.of_follows (.inr (.inl rfl))
  | nil =>
    rw [List.nil_append]
    cases segment with
    | char c =>
      cases h with
      | char hq hc =>
        exact .char hq fun _ => ⟨fun hs => (ht _ hs).2.1 rfl, fun hs => (ht _ hs).2.2 rfl⟩
    | literal x =>
      obtain ⟨q, body, rfl, -, hopen, -, hz⟩ := h.closed hset
      -- The mark opens the same literal with more text behind it.
      have hopen' : Quote.opening? (q.mark ++ (body ++ [])) = some q := by rwa [List.append_nil]
      refine .literal (Quote.opening?_of_finish hopen' (hz t) fun hs => ?_) (hz t)
      exact absurd (ht _ hs).1 (by decide)
    | doc => cases hset
    | comment => cases hset

namespace Settled

variable {s t : Text}

/-- An empty text is settled. -/
@[simp] theorem nil : Settled [] := by simp [Settled]

/-- A text is settled when its first segment and what follows it are. -/
theorem append_iff {segment : Segment} {after : Text} (h : Leads segment after) :
    Settled (segment.text ++ after) ↔ segment.isSettled = true ∧ Settled after := by
  rw [Settled, segments_append h, List.forall_mem_cons, Settled]

/-- A text is settled when both sides of a boundary in it are. -/
theorem of_joint (h : Joint s t) : Settled (s ++ t) ↔ Settled s ∧ Settled t := by
  rw [Settled, h, List.forall_mem_append, Settled, Settled]

/-- The segment that a settled text consists of is settled. -/
theorem of_leads {segment : Segment} {after : Text} (h : Leads segment after)
    (hset : Settled segment.text) : segment.isSettled = true := by
  have hnil : Leads segment [] := h.of_follows (.inl rfl)
  rw [← List.append_nil segment.text] at hset
  exact ((append_iff hnil).1 hset).1

/-- A settled text is cleaned already. -/
theorem clean_eq (h : Settled s) : clean s = s := by
  induction s using segments_induction with
  | nil => exact clean_nil
  | append segment after hlead ih =>
    obtain ⟨hset, hafter⟩ := (append_iff hlead).1 h
    have hclean : segment.cleaned = segment.text := by
      cases segment with
      | comment => cases hset
      | _ => rfl
    rw [hlead.joint.clean_append, clean_of_leads hlead, hclean, ih hafter]

/-- **A settled text ends at a boundary** before a text that cannot go on with it. -/
theorem joint (h : Settled s) (ht : Calm t) : Joint s t := by
  induction s using segments_induction with
  | nil => exact Joint.nil_left t
  | append segment after hlead ih =>
    obtain ⟨hset, hafter⟩ := (append_iff hlead).1 h
    rw [Joint, List.append_assoc, segments_append (hlead.append_calm hset ht),
      segments_append hlead, ih hafter, List.cons_append]

/-- Texts that are settled make a settled text where the second one starts calmly. -/
theorem append (hs : Settled s) (ht : Settled t) (hc : Calm t) : Settled (s ++ t) :=
  (of_joint (hs.joint hc)).2 ⟨hs, ht⟩

/-- Without quotes a text falls apart anywhere. -/
theorem of_no_quote (h : Settled (s ++ t)) (hs : ∀ c ∈ s, isQuoteChar c = false) :
    Joint s t ∧ Settled s ∧ Settled t := by
  induction s with
  | nil => exact ⟨Joint.nil_left t, nil, h⟩
  | cons c s ih =>
    have hlead := Segment.leads_first c (s ++ t)
    have happ := Segment.first_append c (s ++ t)
    have hset : (Segment.first c (s ++ t)).1.isSettled = true :=
      h _ (by rw [List.cons_append, segments_cons]; exact List.mem_cons_self ..)
    -- No literal starts here, and the text holds no comment.
    cases hseg : (Segment.first c (s ++ t)).1 with
    | literal x =>
      rw [hseg] at hlead hset happ
      obtain ⟨q, body, -, -, hopen, -⟩ := hlead.closed hset
      obtain ⟨d, x, rfl⟩ := List.exists_cons_of_ne_nil (l := x) hlead.text_ne_nil
      obtain ⟨rfl, -⟩ := List.cons.inj happ
      rw [Quote.opening?_eq_none_iff.2 (hs d (List.mem_cons_self ..))] at hopen
      cases hopen
    | doc x => rw [hseg] at hset; cases hset
    | comment x => rw [hseg] at hset; cases hset
    | char d =>
      rw [hseg] at hlead happ
      obtain ⟨rfl, hrest⟩ := List.cons.inj happ
      change (Segment.first d (s ++ t)).2 = s ++ t at hrest
      rw [hrest] at hlead
      obtain ⟨-, hst⟩ := (append_iff hlead).1 h
      obtain ⟨hjoint, hs', ht⟩ := ih hst fun e he => hs e (List.mem_cons_of_mem _ he)
      have hlead' : Leads (.char d) s := hlead.of_follows (.of_append s t)
      exact ⟨Joint.trans (s := [d]) hlead.joint hjoint, (append_iff hlead').2 ⟨rfl, hs'⟩, ht⟩

end Settled

/-! ## Tokens of settled texts -/

/-- The tokens of a settled text are those of its sides at a boundary. -/
theorem tokenize_append {s t : Text} (h : Joint s t) (hs : Settled s) (ht : Settled t)
    (hsev : Severs t) :
    tokenize (s ++ t)
      = tokenize s ++ (tokenize t).map (Token.move s.length (s.count '\n')) := by
  have htok := tokensFrom_clean_append h hsev 0 1
  rw [((Settled.of_joint h).2 ⟨hs, ht⟩).clean_eq, hs.clean_eq, ht.clean_eq, tokensFrom_move] at htok
  exact htok

/-- Tokens that nest on both sides of a boundary. -/
theorem nesting_tokenize_append {s t : Text} (h : Joint s t) (hs : Settled s) (ht : Settled t)
    (hsev : Severs t) (commas : Bool) (owed : List TokenKind) :
    nesting commas owed (tokenize (s ++ t))
      = (nesting commas owed (tokenize s)).bind (nesting commas · (tokenize t)) := by
  rw [tokenize_append h hs ht hsev, nesting_append]
  congr 1
  funext owed'
  exact nesting_map (Keeps.move _ _) commas owed' (tokenize t)

/-- The closing brackets that are owed behind a piece. -/
def owedBehindPiece (commas : Bool) (owed : List TokenKind) :
    Option TokenKind → Option (List TokenKind)
  | none => some owed
  | some k => owedBehind commas owed k

namespace Piece

variable {kind : Option TokenKind} {x after : Text}

/-- The segment that a piece of a settled text starts with is settled. -/
theorem settled_iff (h : Piece kind x after) :
    Settled (x ++ after) ↔ Settled x ∧ Settled after := Settled.of_joint h.joint

/-- The brackets that are owed behind a settled piece are told by its kind. -/
theorem nesting_eq (h : Piece kind x after) (hset : Settled x) (commas : Bool)
    (owed : List TokenKind) (o l : Nat) :
    nesting commas owed (tokensFrom o l x) = owedBehindPiece commas owed kind := by
  cases kind with
  | some k =>
    have htok := h.tokensFrom_eq o l
    rw [hset.clean_eq] at htok
    rw [htok, nesting_cons]
    exact Option.bind_fun_some _
  -- Outside tokens only blanks are settled, and these owe nothing.
  | none =>
    cases h with
    | comment h => cases Settled.of_leads h hset
    | @blank c _ hb hn =>
      rw [tokensFrom_blank hb hn, tokensFrom_nil]
      rfl

/-- The tokens of a settled text are read piece by piece. -/
theorem tokenize_eq {k : TokenKind} (h : Piece (some k) x after) (hset : Settled (x ++ after)) :
    tokenize (x ++ after)
      = pieceToken k x 0 1 :: (tokenize after).map (Token.move x.length (x.count '\n')) := by
  have htok := h.tokensFrom_append 0 1
  rw [hset.clean_eq, (h.settled_iff.1 hset).2.clean_eq, tokensFrom_move, h.tokensFrom_eq] at htok
  exact htok

/-- The tokens of a settled text nest piece by piece. -/
theorem nesting_append (h : Piece kind x after) (hset : Settled (x ++ after)) (commas : Bool)
    (owed : List TokenKind) :
    nesting commas owed (tokenize (x ++ after))
      = (owedBehindPiece commas owed kind).bind (nesting commas · (tokenize after)) := by
  obtain ⟨hx, hafter⟩ := h.settled_iff.1 hset
  have htok := h.tokensFrom_append 0 1
  rw [hset.clean_eq, hx.clean_eq, hafter.clean_eq, tokensFrom_move] at htok
  rw [tokenize, htok, SchemaDiagram.nesting_append, h.nesting_eq hx]
  congr 1
  funext owed'
  exact nesting_map (Keeps.move _ _) commas owed' (tokenize after)

end Piece

/-! ## Lists and parts -/

/-- A well-formed settings list: it is settled, and its brackets and parentheses nest. -/
structure IsList (s : Text) : Prop where
  /-- It holds no comment, no literal in three quotes and no open literal. -/
  settled : Settled s
  /-- Its brackets and parentheses nest, and it holds no braces. -/
  nested : nesting true [] (tokenize s) = some []

/-- A part of a well-formed settings list: no comma stands in it outside brackets. -/
structure IsPart (s : Text) : Prop where
  /-- It holds no comment, no literal in three quotes and no open literal. -/
  settled : Settled s
  /-- Its brackets and parentheses nest, and its commas stand in them. -/
  nested : nesting false [] (tokenize s) = some []

instance (s : Text) : Decidable (IsList s) :=
  decidable_of_iff (Settled s ∧ nesting true [] (tokenize s) = some [])
    ⟨fun h => ⟨h.1, h.2⟩, fun h => ⟨h.1, h.2⟩⟩

instance (s : Text) : Decidable (IsPart s) :=
  decidable_of_iff (Settled s ∧ nesting false [] (tokenize s) = some [])
    ⟨fun h => ⟨h.1, h.2⟩, fun h => ⟨h.1, h.2⟩⟩

/-- A part is a list of its own. -/
theorem IsPart.isList {p : Text} (h : IsPart p) : IsList p := ⟨h.settled, nesting_commas h.nested⟩

/-- An empty text is a part. -/
theorem IsPart.nil : IsPart [] := ⟨Settled.nil, by simp [tokenize]⟩

/-- A comma may follow every segment. -/
theorem calm_comma (t : Text) : Calm (',' :: t) := by
  intro c hc
  cases hc
  decide

/-- A comma goes on with no word and no arrow. -/
theorem severs_comma (t : Text) : Severs (',' :: t) := by
  intro c hc
  cases hc
  decide

/-- A comma is a token of its own. -/
theorem piece_comma (t : Text) : Piece (some .comma) [','] t :=
  Piece.of_char (c := ',') (by decide) (by decide) (by decide) (by decide) t

/-- A text is settled behind a comma as it is by itself. -/
theorem settled_comma_iff {t : Text} : Settled (',' :: t) ↔ Settled t := by
  have h := (piece_comma t).settled_iff
  rw [List.singleton_append] at h
  rw [h, and_iff_right]
  decide +kernel

/-- Behind a part and a comma a list nests as it does by itself. -/
theorem nesting_comma {p t : Text} (hp : IsPart p) (ht : Settled t) :
    nesting true [] (tokenize (p ++ ',' :: t)) = nesting true [] (tokenize t) := by
  have ht' : Settled (',' :: t) := settled_comma_iff.2 ht
  rw [nesting_tokenize_append (hp.settled.joint (calm_comma t)) hp.settled ht' (severs_comma t),
    nesting_commas hp.nested, Option.bind_some]
  exact (piece_comma t).nesting_append ht' true []

/-- **Parts with commas between them make a list.** -/
theorem isList_join {ps : List Text} (h : ∀ p ∈ ps, IsPart p) : IsList (Text.join [','] ps) := by
  induction ps with
  | nil => exact IsPart.nil.isList
  | cons p ps ih =>
    cases ps with
    | nil => exact (h p (List.mem_cons_self ..)).isList
    | cons q ps =>
      have hp := h p (List.mem_cons_self ..)
      have hq := ih fun r hr => h r (List.mem_cons_of_mem _ hr)
      rw [Text.join_cons_cons, List.append_assoc, List.singleton_append]
      refine ⟨hp.settled.append (settled_comma_iff.2 hq.settled) (calm_comma _), ?_⟩
      rw [nesting_comma hp hq.settled, hq.nested]

/-- **A list is quiet when its parts are.** -/
theorem isQuiet_join {ps : List Text} (h : ∀ p ∈ ps, IsPart p) :
    isQuiet (tokenize (Text.join [','] ps)) = ps.all fun p => isQuiet (tokenize p) := by
  induction ps with
  | nil =>
    rw [Text.join_nil, tokenize, tokensFrom_nil]
    rfl
  | cons p ps ih =>
    cases ps with
    | nil => exact (Bool.and_true _).symm
    | cons q ps =>
      have hp := h p (List.mem_cons_self ..)
      have hps : ∀ r ∈ q :: ps, IsPart r := fun r hr => h r (List.mem_cons_of_mem _ hr)
      have hq := (isList_join hps).settled
      have hq' := settled_comma_iff.2 hq
      -- The comma between the first part and the rest is a token of its own.
      have hcomma := (piece_comma (Text.join [','] (q :: ps))).tokenize_eq hq'
      rw [List.singleton_append] at hcomma
      rw [List.all_cons, ← ih hps, Text.join_cons_cons, List.append_assoc, List.singleton_append,
        tokenize_append (hp.settled.joint (calm_comma _)) hp.settled hq' (severs_comma _), hcomma,
        List.map_cons, isQuiet_append (Closes.cons _ (by rw [Token.move_kind]; decide)), isQuiet,
        isQuiet_map (Keeps.move _ _), isQuiet_map (Keeps.move _ _)]
      rfl

/-- The characters that are the only ones of their kinds. -/
def loneChars : Text := ",[]\x7b\x7d"

/-- Such a character is told by its kind. -/
theorem eq_of_ofChar {c d : Char} (hc : c ∈ loneChars)
    (h : TokenKind.ofChar d = TokenKind.ofChar c) :
    d = c := by
  have hcases : c = ',' ∨ c = '[' ∨ c = ']' ∨ c = '\x7b' ∨ c = '\x7d' := by
    simpa [loneChars] using hc
  rcases hcases with rfl | rfl | rfl | rfl | rfl <;>
    (unfold TokenKind.ofChar at h; split at h <;> first | rfl | cases h)

/-- The kind of such a character is no kind of a longer lexeme. -/
theorem ofChar_of_mem_loneChars {c : Char} (hc : c ∈ loneChars) :
    TokenKind.ofChar c ∉ [.newline, .doc, .string, .word, .operator] := by
  have hall : loneChars.all fun c =>
      decide (TokenKind.ofChar c ∉ [.newline, .doc, .string, .word, .operator]) := by decide
  exact of_decide_eq_true (List.all_eq_true.1 hall c hc)

/-- A piece of the kind of such a character is that character. -/
theorem Piece.eq_char {c : Char} (hc : c ∈ loneChars) {x after : Text}
    (h : Piece (some (.ofChar c)) x after) : x = [c] := by
  have hkind := ofChar_of_mem_loneChars hc
  generalize hk : some (TokenKind.ofChar c) = kind at h
  cases h with
  | @char d => rw [eq_of_ofChar hc (Option.some.inj hk).symm]
  | comment | blank => cases hk
  | newline | literal | doc | word | arrow =>
    rw [Option.some.inj hk] at hkind
    exact absurd (by decide) hkind

/-- Only a comma outside brackets is told apart by whether commas count. -/
theorem owedBehindPiece_eq {kind : Option TokenKind} {owed : List TokenKind}
    (h : ¬(kind = some .comma ∧ owed = [])) :
    owedBehindPiece false owed kind = owedBehindPiece true owed kind := by
  cases kind with
  | none => rfl
  | some k =>
    unfold owedBehindPiece owedBehind
    cases k <;> simp_all

/-- A list is a part, or it has a first comma outside brackets. -/
theorem exists_cut {s : Text} {owed : List TokenKind} (hset : Settled s)
    (h : nesting true owed (tokenize s) = some []) :
    nesting false owed (tokenize s) = some [] ∨
      ∃ p t, s = p ++ ',' :: t ∧ Settled p ∧ nesting false owed (tokenize p) = some [] ∧
      IsList t := by
  induction s using pieces_induction generalizing owed with
  | nil =>
    rw [tokenize, tokensFrom_nil, nesting_nil] at h ⊢
    exact .inl h
  | append kind x after hpiece ih =>
    obtain ⟨hx, hafter⟩ := hpiece.settled_iff.1 hset
    rw [hpiece.nesting_append hset, Option.bind_eq_some_iff] at h ⊢
    obtain ⟨mid, hmid, hnest⟩ := h
    -- A comma where nothing is owed cuts the list here, ahead of the rest.
    by_cases hcut : kind = some .comma ∧ owed = []
    · obtain ⟨rfl, rfl⟩ := hcut
      obtain rfl : mid = [] := (Option.some.inj hmid).symm
      refine .inr ⟨[], after, by rw [hpiece.eq_char (c := ',') (by decide)]; rfl, Settled.nil, ?_,
        hafter, hnest⟩
      rw [tokenize, tokensFrom_nil, nesting_nil]
    · -- Any other piece stays in the first part, and the cut is looked for behind it.
      rw [← owedBehindPiece_eq hcut] at hmid
      rcases ih hafter hnest with hpart | ⟨p, t, rfl, hp, hpart, ht⟩
      · exact .inl ⟨mid, hmid, hpart⟩
      · have hpiece' : Piece kind x p := hpiece.of_append
        have hset' : Settled (x ++ p) := hpiece'.settled_iff.2 ⟨hx, hp⟩
        refine .inr ⟨x ++ p, t, (List.append_assoc ..).symm, hset', ?_, ht⟩
        rw [hpiece'.nesting_append hset', hmid, Option.bind_some]
        exact hpart

/-- **A list is its parts with commas between them.** -/
theorem IsList.exists_parts {s : Text} (h : IsList s) :
    ∃ ps, ps ≠ [] ∧ s = Text.join [','] ps ∧ ∀ p ∈ ps, IsPart p := by
  induction hn : s.length using Nat.strongRecOn generalizing s with
  | ind n ih =>
    -- The rest behind the first comma is shorter, and it has parts itself.
    rcases exists_cut h.settled h.nested with hpart | ⟨p, t, rfl, hp, hpart, ht⟩
    · refine ⟨[s], List.cons_ne_nil _ _, rfl, fun p hp => ?_⟩
      rw [List.mem_singleton.1 hp]
      exact ⟨h.settled, hpart⟩
    · have hlt : t.length < n := by
        rw [← hn, List.length_append, List.length_cons]
        omega
      obtain ⟨ps, hne, rfl, hps⟩ := ih t.length hlt ht rfl
      obtain ⟨q, ps, rfl⟩ := List.exists_cons_of_ne_nil hne
      refine ⟨p :: q :: ps, List.cons_ne_nil _ _, ?_, fun r hr => ?_⟩
      · rw [Text.join_cons_cons, List.append_assoc, List.singleton_append]
      · rcases List.mem_cons.1 hr with rfl | hr
        · exact ⟨hp, hpart⟩
        · exact hps r hr

/-! ## Blanks behind a part -/

/-- Every character is blank. -/
def AllBlank (s : Text) : Prop := ∀ c ∈ s, isBlank c = true

/-- Two blank texts are blank together. -/
theorem AllBlank.append {s t : Text} (hs : AllBlank s) (ht : AllBlank t) : AllBlank (s ++ t) :=
  fun c hc => (List.mem_append.1 hc).elim (hs c) (ht c)

/-- No segment of a settled text runs into the blanks at its end. -/
theorem Settled.of_blanks {s b : Text} (h : Settled (s ++ b)) (hb : AllBlank b) :
    Joint s b ∧ Settled s ∧ Settled b := by
  generalize htext : s ++ b = text at h
  induction text using segments_induction generalizing s with
  | nil =>
    obtain ⟨rfl, rfl⟩ := List.append_eq_nil_iff.1 htext
    exact ⟨Joint.nil_left _, nil, nil⟩
  | append segment after hlead ih =>
    obtain ⟨hset, hafter⟩ := (append_iff hlead).1 h
    rcases List.append_eq_append_iff.1 htext with ⟨mid, hseg, hb'⟩ | ⟨mid, rfl, hmid⟩
    · cases s with
      | nil =>
        rw [List.nil_append] at htext
        exact ⟨Joint.nil_left b, nil, htext ▸ h⟩
      | cons c s =>
        cases mid with
        | nil =>
          rw [List.append_nil] at hseg
          rw [List.nil_append] at hb'
          rw [← hseg, hb']
          exact ⟨hlead.joint, (of_joint hlead.joint).1 h⟩
        | cons d mid =>
          -- The last character of the segment is a blank, so it is the only one.
          have hlast : ∃ e ∈ b, segment.text.getLast? = some e := by
            refine ⟨(d :: mid).getLast (List.cons_ne_nil _ _), ?_, ?_⟩
            · rw [hb']
              exact List.mem_append_left _ (List.getLast_mem _)
            · rw [hseg, List.getLast?_append, List.getLast?_eq_some_getLast (List.cons_ne_nil _ _),
                Option.some_or]
          obtain ⟨e, heb, he⟩ := hlast
          cases segment with
          | char => simp [Segment.text] at hseg
          | doc => cases hset
          | comment => cases hset
          | literal x =>
            obtain ⟨m, hm, hquote⟩ := hlead.getLast?_closed hset
            obtain rfl := Option.some.inj (hm.symm.trans he)
            rw [isQuoteChar_of_isBlank (hb m heb)] at hquote
            cases hquote
    · obtain ⟨hjoint, hs, hbset⟩ := ih hmid.symm hafter
      subst hmid
      have hlead' : Leads segment mid := hlead.of_follows (.of_append mid b)
      exact ⟨hlead.joint.trans hjoint, (append_iff hlead').2 ⟨hset, hs⟩, hbset⟩

/-- Blanks are no tokens but line ends. -/
theorem kind_of_mem_blanks {b : Text} (hb : AllBlank b) {o l : Nat} {t : Token}
    (ht : t ∈ tokensFrom o l b) : t.kind = .newline := by
  induction b generalizing o l with
  | nil => simp at ht
  | cons c b ih =>
    have hc := hb c (List.mem_cons_self ..)
    have hb' : AllBlank b := fun d hd => hb d (List.mem_cons_of_mem _ hd)
    -- A line end is a token of the kind that is claimed.
    by_cases hn : c = '\n'
    · rw [hn, tokensFrom_lexeme (.inr rfl), Lexeme.first_newline, List.mem_cons] at ht
      rcases ht with rfl | ht
      · rfl
      · exact ih hb' ht
    · rw [tokensFrom_blank hc hn] at ht
      exact ih hb' ht

/-- Nothing is owed for line ends. -/
theorem nesting_newlines {tokens : List Token} (h : ∀ t ∈ tokens, t.kind = .newline) (commas : Bool)
    (owed : List TokenKind) : nesting commas owed tokens = some owed := by
  induction tokens with
  | nil => rfl
  | cons t tokens ih =>
    rw [nesting_cons, h t (List.mem_cons_self ..)]
    exact ih fun u hu => h u (List.mem_cons_of_mem _ hu)

/-- Line ends go on with no statement. -/
theorem Closes.newlines {tokens : List Token} (h : ∀ t ∈ tokens, t.kind = .newline) :
    Closes tokens := by
  refine ⟨?_, ?_⟩
  · induction tokens with
    | nil => rfl
    | cons t tokens ih =>
      rw [startsBlock_cons, if_pos (.inl (h t (List.mem_cons_self ..)))]
      exact ih fun u hu => h u (List.mem_cons_of_mem _ hu)
  · cases tokens with
    | nil => simp
    | cons t tokens => simp [h t (List.mem_cons_self ..)]

/-- No word and no arrow goes on with blanks. -/
theorem severs_blanks {b : Text} (hb : AllBlank b) : Severs b := by
  intro c hc
  have hblank := hb c (List.mem_of_mem_head? hc)
  exact ⟨isWordChar_of_isBlank hblank, ne_of_isBlank hblank (by decide)⟩

/-- The tokens of a settled text with blanks behind it are its own ones and line ends. -/
theorem exists_tokenize_blanks {p b : Text} (hset : Settled (p ++ b))
    (hb : AllBlank b) :
    ∃ ends, tokenize (p ++ b) = tokenize p ++ ends ∧ ∀ t ∈ ends, t.kind = .newline := by
  obtain ⟨hjoint, hp, hbset⟩ := hset.of_blanks hb
  refine ⟨_, tokenize_append hjoint hp hbset (severs_blanks hb), fun t ht => ?_⟩
  obtain ⟨u, hu, rfl⟩ := List.mem_map.1 ht
  exact (Token.move_kind ..).trans (kind_of_mem_blanks hb hu)

/-- A part without the blanks at its end is a part. -/
theorem IsPart.of_blanks {p b : Text} (h : IsPart (p ++ b)) (hb : AllBlank b) :
    IsPart p := by
  obtain ⟨ends, htok, hends⟩ := exists_tokenize_blanks h.settled hb
  have hnest := h.nested
  rw [htok, nesting_append, Option.bind_eq_some_iff] at hnest
  obtain ⟨owed, howed, hrest⟩ := hnest
  rw [nesting_newlines hends, Option.some.injEq] at hrest
  exact ⟨(h.settled.of_blanks hb).2.1, by rw [howed, hrest]⟩

/-- Blanks at the end do not count for quiet. -/
theorem isQuiet_blanks {p b : Text} (hset : Settled (p ++ b)) (hb : AllBlank b) :
    isQuiet (tokenize (p ++ b)) = isQuiet (tokenize p) := by
  obtain ⟨ends, htok, hends⟩ := exists_tokenize_blanks hset hb
  have hquiet : isQuiet ends = true := by
    clear htok
    induction ends with
    | nil => rfl
    | cons t ends ih =>
      have hends' : ∀ u ∈ ends, u.kind = .newline := fun u hu => hends u (List.mem_cons_of_mem _ hu)
      rw [isQuiet, ih hends', (Closes.newlines hends').starts]
      simp
  rw [htok, isQuiet_append (Closes.newlines hends), hquiet, Bool.and_true]

/-! ## Chunks -/

/-- The characters of a literal do not split, up to its closing mark. -/
theorem pass?_literal {q : Quote} {m : Char} (hm : q.mark = [m]) {body : Text}
    (hf : q.finish (body ++ [' ']) = (body, [' '])) (depth : Nat) :
    SplitState.pass? ⟨some m, false, depth⟩ body = some ⟨none, false, depth⟩ := by
  -- Only a backtick literal has no escapes.
  have hesc : q.escapes = true ↔ m ≠ '\x60' := by
    cases q <;> simp_all [Quote.mark, Quote.escapes] <;> subst hm <;> decide
  induction hn : body.length using Nat.strongRecOn generalizing body with
  | ind n ih =>
    cases body with
    -- An open literal would have to be closed by the blank behind it.
    | nil =>
      rw [List.nil_append, Quote.finish_cons (by simp) ?_ (by simp)] at hf
      · simp at hf
      · rw [hm]
        rintro ⟨_, hmark⟩
        obtain ⟨rfl, -⟩ := List.cons.inj hmark
        cases q <;> simp [Quote.mark] at hm
    | cons c body =>
      rw [List.cons_append] at hf
      rw [SplitState.pass?_quoted]
      -- A backslash takes the next character with it on both sides.
      by_cases hc : c = '\\' ∧ q.escapes = true
      · obtain ⟨rfl, hq⟩ := hc
        cases body with
        | nil =>
          rw [List.nil_append, Quote.finish_backslash hq] at hf
          simp at hf
        | cons d body =>
          rw [List.cons_append, Quote.finish_backslash hq] at hf
          simp only [Prod.mk.injEq, List.cons.injEq, true_and] at hf
          simp only [List.length_cons] at hn
          rw [SplitState.behind_backslash (hesc.1 hq), SplitState.pass?_quoted,
            SplitState.behind_escaped]
          exact ih body.length (by omega) (Prod.ext hf.1 hf.2) rfl
      · have hc' : ¬(c = '\\' ∧ m ≠ '\x60') := fun h => hc ⟨h.1, hesc.2 h.2⟩
        rw [SplitState.behind_quoted hc']
        -- The closing mark is the last character, and the state leaves the quotes.
        by_cases hcm : c = m
        · have hmark := Quote.finish_mark q (body ++ [' '])
          rw [hm, List.singleton_append, ← hcm, hf] at hmark
          have hbody : body = [] := by simpa using congrArg Prod.fst hmark
          rw [if_pos hcm, hbody]
          rfl
        · -- Any other character keeps the state in the quotes, as the scanner goes on.
          have hmark : ¬ q.mark <+: c :: (body ++ [' ']) := by
            rw [hm]
            rintro ⟨_, hmark⟩
            exact hcm (List.cons.inj hmark).1.symm
          by_cases hline : c = '\n' ∧ q.endsAtLine = true
          · rw [hline.1, Quote.finish_newline hline.2] at hf
            simp at hf
          · rw [Quote.finish_cons hc hmark hline] at hf
            simp only [Prod.mk.injEq, List.cons.injEq, true_and] at hf
            rw [if_neg hcm]
            exact ih body.length (by rw [← hn]; exact Nat.lt_succ_self _) (Prod.ext hf.1 hf.2) rfl

/-- The characters of words are bland. -/
theorem isBland_of_isWordChar {c : Char} (h : isWordChar c = true) : isBland c = true :=
  isBland_iff.2 ⟨isQuoteChar_of_isWordChar h, ne_of_isWordChar h (by decide),
    ne_of_isWordChar h (by decide), ne_of_isWordChar h (by decide), ne_of_isWordChar h (by decide),
    ne_of_isWordChar h (by decide)⟩

/-- Blanks are bland. -/
theorem isBland_of_isBlank {c : Char} (h : isBlank c = true) : isBland c = true :=
  isBland_iff.2 ⟨isQuoteChar_of_isBlank h, ne_of_isBlank h (by decide), ne_of_isBlank h (by decide),
    ne_of_isBlank h (by decide), ne_of_isBlank h (by decide), ne_of_isBlank h (by decide)⟩

/-- Blanks are a chunk. -/
theorem AllBlank.isChunk {b : Text} (hb : AllBlank b) : IsChunk b :=
  .of_bland fun c hc => isBland_of_isBlank (hb c hc)

/-- Blanks open and close nothing. -/
theorem AllBlank.pass? {b : Text} (hb : AllBlank b) {st st' : SplitState} (hst : st.Valid)
    (h : st.pass? b = some st') : st'.quote = st.quote ∧ st'.depth = st.depth := by
  induction b generalizing st with
  | nil =>
    obtain rfl := Option.some.inj h
    exact ⟨rfl, rfl⟩
  | cons c b ih =>
    have hc := hb c (List.mem_cons_self ..)
    rw [SplitState.pass?_cons _ (ne_of_isBlank hc (by decide))] at h
    obtain ⟨hquote, hdepth⟩ := ih (fun d hd => hb d (List.mem_cons_of_mem _ hd)) (hst.behind c) h
    rw [hst.behind_bland (isBland_of_isBlank hc) (ne_of_isBlank hc (by decide))] at hquote hdepth
    exact ⟨hquote, hdepth⟩

/-- A chunk without the blanks at its end is a chunk. -/
theorem IsChunk.of_blanks {p b : Text} (h : IsChunk (p ++ b)) (hb : AllBlank b) : IsChunk p := by
  rw [IsChunk, SplitState.pass?_append, Option.bind_eq_some_iff] at h
  obtain ⟨⟨quote, escaped, depth⟩, hp, hblanks⟩ := h
  have hst := SplitState.valid_outside.pass? hp
  obtain ⟨hquote, hdepth⟩ := hb.pass? hst hblanks
  obtain rfl : quote = none := hquote.symm
  obtain rfl : depth = 0 := hdepth.symm
  cases escaped with
  | true => exact absurd rfl (hst.escaped rfl)
  | false => exact hp

/-- **The brackets that a character opens or closes** outside quotes are counted. -/
theorem pass?_char {c : Char} (hq : isQuoteChar c = false) {owed owed' : List TokenKind}
    (h : owedBehind false owed (.ofChar c) = some owed') :
    SplitState.pass? ⟨none, false, owed.length⟩ [c] = some ⟨none, false, owed'.length⟩ := by
  -- A bland character changes neither the count nor what is owed.
  by_cases hbland : isBland c = true
  · have howed : owed' = owed := by
      obtain ⟨-, h₁, h₂, h₃, h₄, h₅⟩ := isBland_iff.1 hbland
      unfold TokenKind.ofChar at h
      split at h <;> simp_all [owedBehind]
    rw [howed]
    exact SplitState.pass?_bland (by simpa using hbland) _
  · -- What is not bland is a bracket, a parenthesis or a comma.
    have hcase : c = '[' ∨ c = ']' ∨ c = '(' ∨ c = ')' ∨ c = ',' := by
      rw [isBland_iff] at hbland
      tauto
    rcases hcase with rfl | rfl | rfl | rfl | rfl
    all_goals simp only [TokenKind.ofChar, owedBehind] at h
    · rw [← Option.some.inj h, SplitState.pass?_cons _ (by decide),
        SplitState.behind_opens (.inl rfl)]
      rfl
    · obtain ⟨-, heq⟩ := Option.ite_none_right_eq_some.1 h
      rw [← Option.some.inj heq, List.length_tail, SplitState.pass?_cons _ (by decide),
        SplitState.behind_closes (.inl rfl)]
      rfl
    · rw [← Option.some.inj h, SplitState.pass?_cons _ (by decide),
        SplitState.behind_opens (.inr rfl)]
      rfl
    · obtain ⟨-, heq⟩ := Option.ite_none_right_eq_some.1 h
      rw [← Option.some.inj heq, List.length_tail, SplitState.pass?_cons _ (by decide),
        SplitState.behind_closes (.inr rfl)]
      rfl
    · obtain ⟨howed, heq⟩ := Option.ite_none_right_eq_some.1 h
      rw [← Option.some.inj heq]
      exact SplitState.pass?_comma (by simpa using howed)

/-- **Nothing in a part splits**, and as many brackets are counted behind it as are owed. -/
theorem pass?_part {p : Text} {owed owed' : List TokenKind} (hset : Settled p)
    (h : nesting false owed (tokenize p) = some owed') :
    SplitState.pass? ⟨none, false, owed.length⟩ p = some ⟨none, false, owed'.length⟩ := by
  induction p using pieces_induction generalizing owed with
  | nil =>
    rw [tokenize, tokensFrom_nil, nesting_nil, Option.some.injEq] at h
    rw [h]
    rfl
  | append kind x after hpiece ih =>
    obtain ⟨hx, hafter⟩ := hpiece.settled_iff.1 hset
    rw [hpiece.nesting_append hset, Option.bind_eq_some_iff] at h
    obtain ⟨mid, hmid, hnest⟩ := h
    have hfirst : SplitState.pass? ⟨none, false, owed.length⟩ x
        = some ⟨none, false, mid.length⟩ := by
      -- Each kind of piece is passed with the brackets that it owes.
      cases hpiece with
      | comment h => cases Settled.of_leads h hx
      | doc h => cases Settled.of_leads h hx
      | blank hb =>
        obtain rfl := Option.some.inj hmid
        exact SplitState.pass?_bland (by simpa using isBland_of_isBlank hb) _
      | newline =>
        obtain rfl := Option.some.inj hmid
        exact SplitState.pass?_bland (List.forall_mem_singleton.2 (by decide)) _
      | word hne hword =>
        obtain rfl := Option.some.inj hmid
        exact SplitState.pass?_bland (fun c hc => isBland_of_isWordChar (hword c hc)) _
      | arrow =>
        obtain rfl := Option.some.inj hmid
        refine SplitState.pass?_bland (List.forall_mem_cons.2 ⟨by decide, ?_⟩) _
        exact List.forall_mem_singleton.2 (by decide)
      | char h =>
        cases h with
        | char hq => exact pass?_char hq hmid
      | literal h =>
        obtain rfl := Option.some.inj hmid
        -- A settled literal is a closed one, so the state is outside quotes behind it.
        obtain ⟨q, body, rfl, hq, -, -, hz⟩ := h.closed (Settled.of_leads h hx)
        obtain ⟨m, hquote, -, hmark⟩ := q.exists_char
        have hcomma : m ≠ ',' := by
          rintro rfl
          exact absurd hquote (by decide)
        rw [hmark hq, List.singleton_append, SplitState.pass?_cons _ hcomma,
          SplitState.behind_quote hquote, pass?_literal (hmark hq) (hz [' '])]
    rw [SplitState.pass?_append_of hfirst, ih hafter hnest]

/-- **A part is a chunk.** -/
theorem IsPart.isChunk {p : Text} (h : IsPart p) : IsChunk p := pass?_part h.settled h.nested

end SchemaDiagram
