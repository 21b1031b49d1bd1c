import SchemaDiagram.Proofs.PartItems

/-! # Entries that can be written

A key and a value are written into a settings list as they are. They are read back when the key is
in small letters with single spaces and holds no character with a meaning, and when the value is a
part of a list by itself.

* **`IsSettingKey k`**, **`IsSettingValue v`** — what the splitting gives back as it is written.
* **`PlainKey k`**, **`PlainValue v`** — such keys and values for which the tokens can be told, too.
* **`isKeyChar_of_normalizeKey`** — a key that is normalized to a plain one holds no character with
  a meaning either.
* **`isPart_keyed`**, **`isQuiet_keyed`** — a plain value in a part makes a part. -/

namespace SchemaDiagram

/-! ## Words -/

namespace Text

/-- A word is not empty and has no blanks in it. -/
theorem of_mem_wordsFrom {current s w : Text} (hcur : ∀ c ∈ current, isBlank c = false)
    (h : w ∈ wordsFrom current s) : w ≠ [] ∧ ∀ c ∈ w, isBlank c = false := by
  induction s generalizing current with
  | nil =>
    rw [wordsFrom] at h
    split at h
    next => cases h
    next hne =>
      rw [List.mem_singleton.1 h]
      exact ⟨by simpa using hne, hcur⟩
  | cons c s ih =>
    rw [wordsFrom] at h
    -- A blank ends the word that is being read.
    split at h
    next =>
      split at h
      next => exact ih (by simp) h
      next hne =>
        rcases List.mem_cons.1 h with rfl | h
        · exact ⟨by simpa using hne, hcur⟩
        · exact ih (by simp) h
    -- Any other character goes on with it, and is no blank.
    next hc =>
      refine ih (fun d hd => ?_) h
      rcases List.mem_append.1 hd with hd | hd
      · exact hcur d hd
      · rw [List.mem_singleton.1 hd]
        simpa using hc

/-- Every character that is not blank stands in a word. -/
theorem exists_mem_wordsFrom {current s : Text} {c : Char}
    (h : c ∈ current ∨ c ∈ s ∧ isBlank c = false) : ∃ w ∈ wordsFrom current s, c ∈ w := by
  induction s generalizing current with
  | nil =>
    rcases h with h | ⟨h, -⟩
    · have hne : current.isEmpty = false := by
        cases current with
        | nil => cases h
        | cons => rfl
      refine ⟨current, ?_, h⟩
      rw [wordsFrom, hne]
      exact List.mem_singleton_self _
    · cases h
  | cons d s ih =>
    rw [wordsFrom]
    split
    next hd =>
      -- The blank ends the word, and `c` stood in it or stands behind the blank.
      have hrest : c ∈ current ∨ ∃ w ∈ wordsFrom [] s, c ∈ w := by
        rcases h with h | ⟨h, hc⟩
        · exact .inl h
        · rcases List.mem_cons.1 h with rfl | h
          · rw [hd] at hc
            cases hc
          · exact .inr (ih (.inr ⟨h, hc⟩))
      split
      next hnil =>
        rcases hrest with hcur | hrest
        · rw [List.isEmpty_iff.1 hnil] at hcur
          cases hcur
        · exact hrest
      next =>
        rcases hrest with hcur | ⟨w, hw, hcw⟩
        · exact ⟨current, List.mem_cons_self .., hcur⟩
        · exact ⟨w, List.mem_cons_of_mem _ hw, hcw⟩
    next =>
      refine ih ?_
      rcases h with h | ⟨h, hc⟩
      · exact .inl (List.mem_append_left _ h)
      · rcases List.mem_cons.1 h with rfl | h
        · exact .inl (by simp)
        · exact .inr ⟨h, hc⟩

/-- A character stands in a join when it stands in one of its parts. -/
theorem mem_join {sep : Text} {parts : List Text} {c : Char} {w : Text} (hw : w ∈ parts)
    (hc : c ∈ w) : c ∈ join sep parts := by
  induction parts with
  | nil => cases hw
  | cons part parts ih =>
    cases parts with
    | nil =>
      rw [List.mem_singleton.1 hw] at hc
      exact hc
    | cons next parts =>
      rw [join_cons_cons]
      rcases List.mem_cons.1 hw with rfl | hw
      · exact List.mem_append_left _ (List.mem_append_left _ hc)
      · exact List.mem_append_right _ (ih hw)

/-- Collapsing keeps every character that is not blank. -/
theorem mem_collapse {s : Text} {c : Char} (h : c ∈ s) (hc : isBlank c = false) :
    c ∈ collapse s := by
  obtain ⟨w, hw, hcw⟩ := exists_mem_wordsFrom (.inr ⟨h, hc⟩ : c ∈ [] ∨ c ∈ s ∧ isBlank c = false)
  exact mem_join hw hcw

/-- The join of words with single spaces starts and ends with words, and its blanks are the
spaces. -/
theorem trimmed_join {parts : List Text} (h : ∀ w ∈ parts, w ≠ [] ∧ ∀ c ∈ w, isBlank c = false) :
    Trimmed (join [' '] parts) ∧ ∀ c ∈ join [' '] parts, isBlank c = true → c = ' ' := by
  induction parts with
  | nil => exact ⟨⟨by simp, by simp⟩, by simp⟩
  | cons w parts ih =>
    obtain ⟨hne, hw⟩ := h w (List.mem_cons_self ..)
    cases parts with
    | nil =>
      rw [join_singleton]
      refine ⟨⟨fun c hc => hw c (List.mem_of_mem_head? hc),
        fun c hc => hw c (List.mem_of_getLast? hc)⟩, fun c hc hb => ?_⟩
      rw [hw c hc] at hb
      cases hb
    | cons next parts =>
      obtain ⟨htrim, hblank⟩ := ih fun v hv => h v (List.mem_cons_of_mem _ hv)
      -- The parts behind the first are not empty, so the last character is one of theirs.
      have hnext : join [' '] (next :: parts) ≠ [] := by
        obtain ⟨c, hc⟩ := List.exists_mem_of_ne_nil _
          (h next (List.mem_cons_of_mem _ (List.mem_cons_self ..))).1
        intro hnil
        have hmem : c ∈ join [' '] (next :: parts) := mem_join (List.mem_cons_self ..) hc
        rw [hnil] at hmem
        cases hmem
      rw [join_cons_cons]
      refine ⟨⟨fun c hc => ?_, fun c hc => ?_⟩, fun c hc hb => ?_⟩
      · -- The first character is that of the first word.
        rw [List.append_assoc, List.head?_append, Option.or_of_isSome (by simpa using hne)] at hc
        exact hw c (List.mem_of_mem_head? hc)
      · rw [List.getLast?_append, Option.or_of_isSome (by simpa using hnext)] at hc
        exact htrim.last c hc
      · -- A blank stands in the first word, between the words, or in what follows; only the
        -- separator may be one.
        rcases List.mem_append.1 hc with hc | hc
        · rcases List.mem_append.1 hc with hc | hc
          · rw [hw c hc] at hb
            cases hb
          · exact List.mem_singleton.1 hc
        · exact hblank c hc hb

/-- A collapsed text starts and ends with words, and its blanks are the spaces between them. -/
theorem trimmed_collapse (s : Text) :
    Trimmed (collapse s) ∧ ∀ c ∈ collapse s, isBlank c = true → c = ' ' :=
  trimmed_join fun _ hw => of_mem_wordsFrom (by simp) hw

/-- Small letters are made of letters only. -/
theorem mem_lower {s : Text} {c : Char} (h : c ∈ s) (hc : c.toNat < 128 ∧ c.toLower = c) :
    c ∈ s.lower := by
  have hfrom : ∀ afterCased, c ∈ lowerFrom afterCased s := by
    -- The letter may stand behind any other one.
    induction s with
    | nil => cases h
    | cons d s ih =>
      intro afterCased
      rw [lowerFrom]
      rcases List.mem_cons.1 h with rfl | h
      · -- An ASCII letter is none of the two that are changed in a way of their own.
        have h₁ : c ≠ '\u0130' := by
          rintro rfl
          exact absurd hc.1 (by decide)
        have h₂ : c ≠ '\u03a3' := by
          rintro rfl
          exact absurd hc.1 (by decide)
        rw [if_neg h₁, if_neg h₂, lowerChar_of_ascii hc.1, hc.2]
        exact List.mem_cons_self ..
      · split
        next => exact List.mem_cons_of_mem _ (List.mem_cons_of_mem _ (ih h _))
        next => split <;> exact List.mem_cons_of_mem _ (ih h _)
  exact hfrom false

end Text

/-! ## Keys and values -/

/-- A key that the splitting gives back as it is written. -/
structure IsSettingKey (k : Text) : Prop where
  /-- It is in small letters, with single spaces between its words. -/
  normal : normalizeKey k = k
  /-- It holds no quote, no bracket, no parenthesis, no comma and no colon. -/
  chars : ∀ c ∈ k, isBland c = true ∧ c ≠ ':'

instance (k : Text) : Decidable (IsSettingKey k) :=
  decidable_of_iff (normalizeKey k = k ∧ k.all (fun c => isBland c && c != ':') = true)
    ⟨fun h => ⟨h.1, by simpa using h.2⟩, fun h => ⟨h.1, by simpa using h.2⟩⟩

/-- A value that the splitting gives back as it is written. -/
structure IsSettingValue (v : Text) : Prop where
  /-- Nothing in it splits, and nothing is open at its end. -/
  chunk : IsChunk v
  /-- It has no blanks at its ends. -/
  trimmed : Trimmed v
  /-- It is not empty. -/
  ne_nil : v ≠ []

/-- Signs that are small letters to themselves and no blanks do not go away in a normalized key. -/
theorem notMem_of_normalizeKey {signs s : Text}
    (hsigns : signs.all (fun d => decide (d.toNat < 128 ∧ d.toLower = d) && !isBlank d) = true)
    (h : ∀ c ∈ normalizeKey s, c ∉ signs) : ∀ c ∈ s, c ∉ signs := by
  intro c hc hmem
  have hplain := List.all_eq_true.1 hsigns c hmem
  rw [Bool.and_eq_true, decide_eq_true_eq, Bool.not_eq_true'] at hplain
  obtain ⟨hlow, hblank⟩ := hplain
  exact h c (Text.mem_collapse (Text.mem_lower hc hlow) hblank) hmem

/-- A normalized key has no blanks at its ends. -/
theorem trimmed_of_normal {k : Text} (h : normalizeKey k = k) : Trimmed k := by
  rw [← h]
  exact (Text.trimmed_collapse _).1

/-- A key is bland and has no colon when its normalized form is so. -/
theorem isBland_of_normalizeKey {s : Text} (h : ∀ c ∈ normalizeKey s, isBland c = true ∧ c ≠ ':') :
    ∀ c ∈ s, isBland c = true ∧ c ≠ ':' := by
  have hiff : ∀ c, isBland c = true ∧ c ≠ ':' ↔
      c ∉ (['\x27', '"', '\x60', '[', ']', '(', ')', ',', ':'] : Text) := by
    intro c
    simp [isBland_iff, isQuoteChar]
    tauto
  intro c hc
  exact (hiff c).2 (notMem_of_normalizeKey (by decide) (fun d hd => (hiff d).1 (h d hd)) c hc)

/-- The first colon stands behind characters without a meaning. -/
theorem firstColon?_of_bland {key : Text} (h : ∀ c ∈ key, isBland c = true ∧ c ≠ ':') (t : Text) :
    firstColon? none (key ++ ':' :: t) = some key.length := by
  induction key with
  | nil => rw [List.nil_append, firstColon?_cons, if_pos ⟨rfl, rfl⟩]; rfl
  | cons c key ih =>
    obtain ⟨⟨hbland, hcolon⟩, hkey⟩ := List.forall_mem_cons.1 h
    have hquote : quoteBehind none c = none := by
      simp [quoteBehind, (isBland_iff.1 hbland).1]
    rw [List.cons_append, firstColon?_cons, if_neg fun hc => hcolon hc.2, hquote, ih hkey]
    rfl

section

variable {lead key gap v trail : Text}

/-- Such a key and such a value, with blanks around them, are a key and a value. -/
theorem IsSettingKey.keyed (hk : IsSettingKey key) (hv : IsSettingValue v) (hl : AllBlank lead)
    (hg : AllBlank gap) (ht : AllBlank trail) : Keyed lead key gap v trail :=
  ⟨hl, hg, ht, firstColon?_of_bland hk.chars [], (trimmed_of_normal hk.normal).head, hv.trimmed,
    fun hnil => absurd hnil hv.ne_nil⟩

/-- **A value behind a key makes a chunk.** -/
theorem isChunk_keyed (hl : AllBlank lead) (hk : ∀ c ∈ key, isBland c = true) (hg : AllBlank gap)
    (hv : IsChunk v) (ht : AllBlank trail) : IsChunk (keyedText lead key gap v trail) := by
  have hcolon : IsChunk (':' :: (gap ++ v)) :=
    .append (p := [':']) (by decide) (hg.isChunk.append hv)
  exact hl.isChunk.append (((IsChunk.of_bland hk).append hcolon).append ht.isChunk)

end

/-! ## Plain keys -/

/-- The characters that have a meaning in a settings list. -/
def markChars : Text :=
  ['\x27', '"', '\x60', '[', ']', '(', ')', ',', '/', ':', '\x7b', '\x7d']

/-- Whether a character has no meaning in a settings list. -/
def isKeyChar (c : Char) : Bool := !markChars.contains c

/-- A key that is read back as it is written. -/
structure PlainKey (k : Text) : Prop where
  /-- It is not empty. -/
  ne_nil : k ≠ []
  /-- It is in small letters, with single spaces between its words. -/
  normal : normalizeKey k = k
  /-- No character in it has a meaning of its own. -/
  chars : ∀ c ∈ k, isKeyChar c = true
  /-- It is no start of a block. -/
  starts : startsBlock (tokenize (k ++ [':'])) = false

/-- **A key that is normalized to a plain one** holds no character with a meaning. -/
theorem isKeyChar_of_normalizeKey {s : Text} (h : ∀ c ∈ normalizeKey s, isKeyChar c = true) :
    ∀ c ∈ s, isKeyChar c = true := by
  have hiff : ∀ c, isKeyChar c = true ↔ c ∉ markChars := by simp [isKeyChar]
  intro c hc
  exact (hiff c).2 (notMem_of_normalizeKey (by decide) (fun d hd => (hiff d).1 (h d hd)) c hc)

/-- The characters of a key are the bland ones, without slashes, colons and braces. -/
theorem isKeyChar_iff {c : Char} :
    isKeyChar c = true ↔ isBland c = true ∧ c ≠ '/' ∧ c ≠ ':' ∧ c ≠ '\x7b' ∧ c ≠ '\x7d' := by
  simp [isKeyChar, isBland_iff, markChars, isQuoteChar]
  tauto

/-- A plain key can be written. -/
theorem PlainKey.isSettingKey {k : Text} (h : PlainKey k) : IsSettingKey k :=
  ⟨h.normal, fun c hc => by
    obtain ⟨hbland, -, hcolon, -⟩ := isKeyChar_iff.1 (h.chars c hc)
    exact ⟨hbland, hcolon⟩⟩

/-- A key stands on one line. -/
theorem PlainKey.newline {k : Text} (h : PlainKey k) : '\n' ∉ k := by
  rw [← h.normal]
  intro hmem
  exact absurd ((Text.trimmed_collapse _).2 _ hmem (by decide)) (by decide)

/-- A blank may stand in a key. -/
theorem isKeyChar_of_isBlank {c : Char} (h : isBlank c = true) : isKeyChar c = true :=
  isKeyChar_iff.2 ⟨isBland_of_isBlank h, ne_of_isBlank h (by decide), ne_of_isBlank h (by decide),
    ne_of_isBlank h (by decide), ne_of_isBlank h (by decide)⟩

/-- Characters without a meaning are settled. -/
theorem settled_of_keyChars {s : Text} (h : ∀ c ∈ s, isKeyChar c = true) : Settled s := by
  induction s with
  | nil => exact Settled.nil
  | cons c s ih =>
    obtain ⟨hbland, hslash, -⟩ := isKeyChar_iff.1 (h c (List.mem_cons_self ..))
    have hseg := segments_cons_char (isBland_iff.1 hbland).1 hslash s
    rw [Settled, hseg, List.forall_mem_cons]
    exact ⟨rfl, ih fun d hd => h d (List.mem_cons_of_mem _ hd)⟩

/-- Nothing is owed for characters without a meaning. -/
theorem nesting_of_keyChars {s : Text} (h : ∀ c ∈ s, isKeyChar c = true) (commas : Bool)
    (owed : List TokenKind) : nesting commas owed (tokenize s) = some owed := by
  induction s using pieces_induction with
  | nil => rw [tokenize, tokensFrom_nil, nesting_nil]
  | append kind x after hpiece ih =>
    have hx : ∀ c ∈ x, isKeyChar c = true := fun c hc => h c (List.mem_append_left _ hc)
    have hset := settled_of_keyChars hx
    -- A piece that owes something holds a character with a meaning.
    have howed : owedBehindPiece commas owed kind = some owed := by
      cases hpiece with
      | comment h => cases Settled.of_leads h hset
      | doc h => cases Settled.of_leads h hset
      -- A literal ends with its quote, which has a meaning.
      | literal h =>
        obtain ⟨m, hm, hquote⟩ := h.getLast?_closed (Settled.of_leads h hset)
        have hbland := (isKeyChar_iff.1 (hx m (List.mem_of_getLast? hm))).1
        rw [(isBland_iff.1 hbland).1] at hquote
        cases hquote
      -- None of the characters with a meaning of their own is among them.
      | @char c =>
        obtain ⟨hbland, -, h₁, h₂, h₃⟩ := isKeyChar_iff.1 (hx c (List.mem_singleton_self c))
        obtain ⟨-, h₄, h₅, h₆, h₇, h₈⟩ := isBland_iff.1 hbland
        change owedBehind commas owed (.ofChar c) = some owed
        unfold TokenKind.ofChar
        split <;> simp_all [owedBehind]
      | _ => rfl
    rw [hpiece.nesting_append (settled_of_keyChars h), howed, Option.bind_some]
    exact ih fun c hc => h c (List.mem_append_right _ hc)

/-! ## Blanks before a text -/

/-- The tokens of a text with blanks before it are line ends and its own ones. -/
theorem exists_tokenize_lead {b : Text} (hb : AllBlank b) (t : Text) :
    ∃ ends n m, tokenize (b ++ t) = ends ++ (tokenize t).map (Token.move n m) ∧
      ∀ u ∈ ends, u.kind = .newline := by
  have hfrom : ∀ o l, ∃ ends n m, tokensFrom o l (b ++ t)
      = ends ++ tokensFrom (o + n) (l + m) t ∧ ∀ u ∈ ends, u.kind = .newline := by
    -- A line end is a token of its own, and any other blank is none.
    induction b with
    | nil => exact fun o l => ⟨[], 0, 0, rfl, by simp⟩
    | cons c b ih =>
      intro o l
      have hc := hb c (List.mem_cons_self ..)
      have hb' : AllBlank b := fun d hd => hb d (List.mem_cons_of_mem _ hd)
      by_cases hn : c = '\n'
      · obtain ⟨ends, n, m, heq, hends⟩ := ih hb' (o + 1) (l + 1)
        refine ⟨pieceToken .newline ['\n'] o l :: ends, 1 + n, 1 + m, ?_, ?_⟩
        · rw [hn, List.cons_append, tokensFrom_lexeme (.inr rfl), Lexeme.first_newline,
            ← Nat.add_assoc, ← Nat.add_assoc, List.cons_append, ← heq]
          rfl
        · exact List.forall_mem_cons.2 ⟨rfl, hends⟩
      · obtain ⟨ends, n, m, heq, hends⟩ := ih hb' (o + 1) l
        refine ⟨ends, 1 + n, m, ?_, hends⟩
        rw [List.cons_append, tokensFrom_blank hc hn, heq, Nat.add_assoc]
  obtain ⟨ends, n, m, heq, hends⟩ := hfrom 0 1
  exact ⟨ends, n, m, by rw [tokenize, heq, tokensFrom_move]; rfl, hends⟩

/-- Line ends in front do not matter to what starts a block. -/
theorem startsBlock_newlines {ends : List Token} (h : ∀ u ∈ ends, u.kind = .newline)
    (tokens : List Token) : startsBlock (ends ++ tokens) = startsBlock tokens := by
  induction ends with
  | nil => rfl
  | cons u ends ih =>
    rw [List.cons_append, startsBlock_cons, if_pos (.inl (h u (List.mem_cons_self ..)))]
    exact ih fun v hv => h v (List.mem_cons_of_mem _ hv)

/-- Line ends before a text are quiet when the text is and starts no block. -/
theorem isQuiet_newlines {ends tokens : List Token} (h : ∀ u ∈ ends, u.kind = .newline)
    (hq : isQuiet tokens = true) (hs : startsBlock tokens = false) :
    isQuiet (ends ++ tokens) = true := by
  induction ends with
  | nil => exact hq
  | cons u ends ih =>
    have hends : ∀ v ∈ ends, v.kind = .newline := fun v hv => h v (List.mem_cons_of_mem _ hv)
    rw [List.cons_append, isQuiet, startsBlock_newlines hends, hs, ih hends]
    simp

/-- Blanks before a text are settled when the text is. -/
theorem Settled.lead {b t : Text} (hb : AllBlank b) (ht : Settled t) : Settled (b ++ t) := by
  induction b with
  | nil => exact ht
  | cons c b ih =>
    have hc := hb c (List.mem_cons_self ..)
    have hseg := segments_cons_char (isQuoteChar_of_isBlank hc) (ne_of_isBlank hc (by decide))
      (b ++ t)
    rw [List.cons_append, Settled, hseg, List.forall_mem_cons]
    exact ⟨rfl, ih fun d hd => hb d (List.mem_cons_of_mem _ hd)⟩

/-- Blanks go on with no segment. -/
theorem calm_blanks {b : Text} (hb : AllBlank b) : Calm b := by
  intro c hc
  have hblank := hb c (List.mem_of_mem_head? hc)
  exact ⟨isQuoteChar_of_isBlank hblank, ne_of_isBlank hblank (by decide),
    ne_of_isBlank hblank (by decide)⟩

/-- Line ends are read off line ends. -/
theorem mem_of_kind_newline {o l : Nat} {s : Text} {t : Token} (h : t ∈ tokensFrom o l s)
    (ht : t.kind = .newline) : '\n' ∈ s := by
  obtain ⟨front, c, rest, line, rfl, rfl⟩ := exists_lexeme_of_token h
  rw [← Lexeme.eq_newline_of_kind ht]
  exact List.mem_append_right _ (List.mem_cons_self ..)

/-- Blanks are settled. -/
theorem AllBlank.settled {b : Text} (hb : AllBlank b) : Settled b := by
  have h := Settled.lead hb Settled.nil
  rwa [List.append_nil] at h

/-! ## Colons -/

/-- A colon goes on with no segment. -/
theorem calm_colon (t : Text) : Calm (':' :: t) := by
  intro c hc
  cases hc
  decide

/-- A colon goes on with no word and no arrow. -/
theorem severs_colon (t : Text) : Severs (':' :: t) := by
  intro c hc
  cases hc
  decide

/-- A colon is a token of its own. -/
theorem piece_colon (t : Text) : Piece (some .colon) [':'] t :=
  Piece.of_char (c := ':') (by decide) (by decide) (by decide) (by decide) t

/-- A colon in front does not matter to whether a text is settled. -/
theorem settled_colon_iff {t : Text} : Settled (':' :: t) ↔ Settled t := by
  have h := (piece_colon t).settled_iff
  rw [List.singleton_append] at h
  rw [h, and_iff_right]
  decide +kernel

/-- The tokens on both sides of a colon are those of the texts there. -/
theorem exists_tokenize_colon {s r : Text} (hs : Settled s) (hr : Settled r) :
    Settled (s ++ ':' :: r) ∧ ∃ c n m, c.kind = .colon ∧
      tokenize (s ++ ':' :: r) = tokenize s ++ c :: (tokenize r).map (Token.move n m) := by
  have hr' := settled_colon_iff.2 hr
  refine ⟨hs.append hr' (calm_colon r), ?_⟩
  have hcolon := (piece_colon r).tokenize_eq hr'
  rw [List.singleton_append] at hcolon
  rw [tokenize_append (hs.joint (calm_colon r)) hs hr' (severs_colon r), hcolon, List.map_cons,
    List.map_map]
  exact ⟨_, 1 + s.length, 0 + s.count '\n', rfl, by
    congr 2
    refine List.map_congr_left fun t _ => ?_
    simp [Token.move, Span.shift, Nat.add_assoc]⟩

/-! ## Plain values -/

/-- A value that is read back as it is written. -/
structure PlainValue (v : Text) : Prop where
  /-- It is a part of a settings list. -/
  part : IsPart v
  /-- It has no blanks at its ends. -/
  trimmed : Trimmed v
  /-- It is not empty. -/
  ne_nil : v ≠ []
  /-- No line end in it is followed by the start of a block. -/
  quiet : isQuiet (tokenize v) = true
  /-- It does not start a block itself. -/
  starts : startsBlock (tokenize v) = false

/-- A plain value can be written. -/
theorem PlainValue.isSettingValue {v : Text} (h : PlainValue v) : IsSettingValue v :=
  ⟨h.part.isChunk, h.trimmed, h.ne_nil⟩

section Keyed

variable {lead key gap v trail : Text}

/-- A plain value between blanks is a part, is quiet and starts no block. -/
theorem PlainValue.between (hv : PlainValue v) (hg : AllBlank gap) (ht : AllBlank trail) :
    IsPart (gap ++ (v ++ trail)) ∧ isQuiet (tokenize (gap ++ (v ++ trail))) = true := by
  have hset : Settled (v ++ trail) := hv.part.settled.append ht.settled (calm_blanks ht)
  -- The blanks in front and behind leave only line ends.
  obtain ⟨ends, n, m, htok, hends⟩ := exists_tokenize_lead hg (v ++ trail)
  obtain ⟨ends', htok', hends'⟩ := exists_tokenize_blanks hset ht
  refine ⟨⟨Settled.lead hg hset, ?_⟩, ?_⟩
  · rw [htok, nesting_append, nesting_newlines hends, Option.bind_some,
      nesting_map (Keeps.move n m), htok', nesting_append, hv.part.nested, Option.bind_some,
      nesting_newlines hends']
  · -- What starts a block would have to start the value.
    have hstarts : startsBlock (tokenize (v ++ trail)) = false := by
      rw [htok', startsBlock_append (Closes.newlines hends'), hv.starts]
    rw [htok]
    refine isQuiet_newlines hends ?_ ?_
    · rw [isQuiet_map (Keeps.move n m), isQuiet_blanks hset ht, hv.quiet]
    · rw [startsBlock_map (Keeps.move n m), hstarts]

/-- **A plain value behind a key makes a part.** -/
theorem isPart_keyed (hl : AllBlank lead) (hk : ∀ c ∈ key, isKeyChar c = true)
    (hg : AllBlank gap) (hv : PlainValue v) (ht : AllBlank trail) :
    IsPart (keyedText lead key gap v trail) := by
  have hfront : Settled (lead ++ key) := Settled.lead hl (settled_of_keyChars hk)
  obtain ⟨hback, -⟩ := hv.between hg ht
  -- The colon stands between two settled texts, so it is a token of its own.
  obtain ⟨hset, c, n, m, hc, htok⟩ := exists_tokenize_colon hfront hback.settled
  obtain ⟨ends, n', m', htok', hends⟩ := exists_tokenize_lead hl key
  have htext : keyedText lead key gap v trail = (lead ++ key) ++ ':' :: (gap ++ (v ++ trail)) := by
    simp [keyedText]
  rw [htext]
  refine ⟨hset, ?_⟩
  rw [htok, nesting_append, htok', nesting_append, nesting_newlines hends, Option.bind_some,
    nesting_map (Keeps.move n' m'), nesting_of_keyChars hk, Option.bind_some, nesting_cons, hc]
  exact (nesting_map (Keeps.move n m) false [] _).trans hback.nested

/-- **A plain value behind a key is quiet** when the key is. -/
theorem isQuiet_keyed (hl : AllBlank lead) (hk : ∀ c ∈ key, isKeyChar c = true)
    (hg : AllBlank gap) (hv : PlainValue v) (ht : AllBlank trail) {r : Text} (hr : Settled r)
    (hq : isQuiet (tokenize ((lead ++ key) ++ ':' :: r)) = true) :
    isQuiet (tokenize (keyedText lead key gap v trail)) = true := by
  have hfront : Settled (lead ++ key) := Settled.lead hl (settled_of_keyChars hk)
  obtain ⟨hback, hquiet⟩ := hv.between hg ht
  obtain ⟨-, c, n, m, hc, htok⟩ := exists_tokenize_colon hfront hback.settled
  obtain ⟨-, c', n', m', hc', htok'⟩ := exists_tokenize_colon hfront hr
  have htext : keyedText lead key gap v trail = (lead ++ key) ++ ':' :: (gap ++ (v ++ trail)) := by
    simp [keyedText]
  rw [htext, htok]
  rw [htok'] at hq
  exact isQuiet_colon hc' hc hq (by rw [isQuiet_map (Keeps.move n m), hquiet])

/-- A plain key behind blanks is quiet, with its colon. -/
theorem PlainKey.isQuiet_colon {k : Text} (h : PlainKey k) (hl : AllBlank lead) :
    isQuiet (tokenize ((lead ++ k) ++ [':'])) = true := by
  obtain ⟨ends, n, m, htok, hends⟩ := exists_tokenize_lead hl (k ++ [':'])
  rw [List.append_assoc, htok]
  refine isQuiet_newlines hends ?_ ?_
  · rw [isQuiet_map (Keeps.move n m)]
    refine isQuiet_of_no_newline fun t ht hkind => ?_
    have hmem := mem_of_kind_newline ht hkind
    rcases List.mem_append.1 hmem with hmem | hmem
    · exact h.newline hmem
    · exact absurd hmem (by decide)
  · rw [startsBlock_map (Keeps.move n m), h.starts]

end Keyed

end SchemaDiagram
