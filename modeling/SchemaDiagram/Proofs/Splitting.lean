import SchemaDiagram.Settings.Item

/-! # Splitting a settings list

A settings list is split in one pass over its characters. The pass remembers which quote is open,
whether a backslash has just been read in it, and how many brackets and parentheses are open; it
cuts at the commas that it meets while nothing is open.

* **`SplitState.behind st c`** — what is remembered behind a character.
* **`chunksFrom_eq`** — the splitting is this pass.
* **`st.pass? s`** — what is remembered behind a text in which nothing is cut off.
* **`IsChunk p`** — a text that is passed with nothing open at its start and at its end.
* **`CutsInto s ps`** — the parts of a text between the commas that cut; every text has them
  (`exists_cutsInto`), and the splitting finds them (`CutsInto.chunks_eq`).
* **`ReadsOut s`**, **`exists_chunks`** — a text at whose end nothing is open is its chunks with
  commas between them. -/

namespace SchemaDiagram

/-- What the splitting of a settings list remembers. -/
structure SplitState where
  /-- The quote that is open. -/
  quote : Option Char
  /-- Whether a backslash takes the next character with it. -/
  escaped : Bool
  /-- How many brackets and parentheses are open outside quotes. -/
  depth : Nat
deriving DecidableEq

namespace SplitState

/-- Nothing is open. -/
def outside : SplitState := ⟨none, false, 0⟩

/-- What is remembered behind a character. -/
def behind (st : SplitState) (c : Char) : SplitState :=
  if st.escaped then { st with escaped := false }
  else match st.quote with
    | some q =>
      if c = '\\' ∧ q ≠ '\x60' then { st with escaped := true }
      else if c = q then { st with quote := none }
      else st
    | none =>
      if isQuoteChar c then { st with quote := some c }
      else if c = '[' ∨ c = '(' then { st with depth := st.depth + 1 }
      else if c = ']' ∨ c = ')' then { st with depth := st.depth - 1 }
      else st

/-- What is remembered behind a text in which no comma cuts; none where one does. -/
def pass? (st : SplitState) : Text → Option SplitState
  | [] => some st
  | c :: s => if st = outside ∧ c = ',' then none else (st.behind c).pass? s

/-- The spans between the commas that cut, in a text that starts at offset `pos`, where the current
span started at `start`. -/
def chunks (st : SplitState) (start pos : Nat) : Text → List Span
  | [] => [⟨start, pos⟩]
  | c :: s =>
    if st = outside ∧ c = ',' then ⟨start, pos⟩ :: st.chunks (pos + 1) (pos + 1) s
    else (st.behind c).chunks start (pos + 1) s

/-- A quote that is open is one of the three, and a backslash counts inside quotes only. -/
structure Valid (st : SplitState) : Prop where
  /-- The open quote is a quote. -/
  quote : ∀ q ∈ st.quote, isQuoteChar q = true
  /-- No backslash counts outside quotes. -/
  escaped : st.escaped = true → st.quote ≠ none

/-- Outside quotes nothing can be wrong. -/
theorem valid_unquoted (depth : Nat) : Valid ⟨none, false, depth⟩ := ⟨by simp, by simp⟩

/-- A splitter begins in a valid state. -/
theorem valid_outside : Valid outside := valid_unquoted 0

/-- Every character leaves the memory valid. -/
theorem Valid.behind {st : SplitState} (h : st.Valid) (c : Char) : (st.behind c).Valid := by
  obtain ⟨quote, escaped, depth⟩ := st
  obtain ⟨hquote, hescaped⟩ := h
  -- Behind a backslash any character is passed.
  cases escaped with
  | true => exact ⟨hquote, fun h => nomatch h⟩
  | false =>
    cases quote with
    -- Between quotes the mark is kept or dropped.
    | some q =>
      simp only [SplitState.behind, Bool.false_eq_true, if_false]
      split
      · exact ⟨hquote, by simp⟩
      · split
        · exact valid_unquoted _
        · exact ⟨hquote, by simp⟩
    -- Outside quotes only a quotation mark is remembered.
    | none =>
      simp only [SplitState.behind, Bool.false_eq_true, if_false]
      split
      next hc => exact ⟨by simp [hc], by simp⟩
      next =>
        split
        · exact valid_unquoted _
        · split
          · exact valid_unquoted _
          · exact valid_unquoted _

variable {st st' : SplitState} {s t : Text}

/-- A character behind a backslash stands for itself. -/
theorem behind_escaped (quote : Option Char) (depth : Nat) (c : Char) :
    behind ⟨quote, true, depth⟩ c = ⟨quote, false, depth⟩ := rfl

/-- A backslash escapes the next character in any quotes but backticks. -/
theorem behind_backslash {q : Char} (h : q ≠ '\x60') (depth : Nat) :
    behind ⟨some q, false, depth⟩ '\\' = ⟨some q, true, depth⟩ := by
  simp [behind, h]

/-- The character behind which a quote ends is the quote. -/
theorem behind_quoted {q c : Char} (h : ¬(c = '\\' ∧ q ≠ '\x60')) (depth : Nat) :
    behind ⟨some q, false, depth⟩ c = ⟨if c = q then none else some q, false, depth⟩ := by
  simp only [behind, Bool.false_eq_true, if_false, h]
  split <;> rfl

/-- A quote opens a literal. -/
theorem behind_quote {c : Char} (h : isQuoteChar c = true) (depth : Nat) :
    behind ⟨none, false, depth⟩ c = ⟨some c, false, depth⟩ := by
  simp [behind, h]

/-- An opening bracket is counted. -/
theorem behind_opens {c : Char} (h : c = '[' ∨ c = '(') (depth : Nat) :
    behind ⟨none, false, depth⟩ c = ⟨none, false, depth + 1⟩ := by
  rcases h with rfl | rfl <;> simp [behind, isQuoteChar]

/-- A closing bracket is counted. -/
theorem behind_closes {c : Char} (h : c = ']' ∨ c = ')') (depth : Nat) :
    behind ⟨none, false, depth⟩ c = ⟨none, false, depth - 1⟩ := by
  rcases h with rfl | rfl <;> simp [behind, isQuoteChar]

/-- A comma leaves the state as it is. -/
theorem behind_comma (depth : Nat) : behind ⟨none, false, depth⟩ ',' = ⟨none, false, depth⟩ := by
  simp [behind, isQuoteChar]

/-- No comma cuts inside quotes. -/
theorem pass?_quoted (q : Char) (escaped : Bool) (depth : Nat) (c : Char) (s : Text) :
    pass? ⟨some q, escaped, depth⟩ (c :: s) = (behind ⟨some q, escaped, depth⟩ c).pass? s :=
  if_neg fun h => nomatch h.1

/-- Only a comma can cut. -/
theorem pass?_cons (st : SplitState) {c : Char} (h : c ≠ ',') (s : Text) :
    st.pass? (c :: s) = (st.behind c).pass? s :=
  if_neg fun hc => h hc.2

/-- A comma does not cut in brackets and parentheses. -/
theorem pass?_comma {depth : Nat} (h : depth ≠ 0) :
    pass? ⟨none, false, depth⟩ [','] = some ⟨none, false, depth⟩ := by
  rw [pass?, if_neg fun hc => h (congrArg SplitState.depth hc.1), behind_comma]
  rfl

/-- A text is passed part by part. -/
theorem pass?_append (st : SplitState) (s t : Text) :
    st.pass? (s ++ t) = (st.pass? s).bind (·.pass? t) := by
  induction s generalizing st with
  | nil => rfl
  | cons c s ih =>
    rw [List.cons_append, pass?, pass?]
    split
    · rfl
    · exact ih _

/-- A text that is passed, and one behind it. -/
theorem pass?_append_of (h : st.pass? s = some st') : st.pass? (s ++ t) = st'.pass? t := by
  rw [pass?_append, h, Option.bind_some]

/-- The memory stays valid. -/
theorem Valid.pass? (hst : st.Valid) (h : st.pass? s = some st') : st'.Valid := by
  induction s generalizing st with
  | nil => exact Option.some.inj h ▸ hst
  | cons c s ih =>
    rw [SplitState.pass?] at h
    split at h
    · cases h
    · exact ih (hst.behind c) h

/-- What is remembered behind a text that is passed. -/
theorem foldl_of_pass? (h : st.pass? s = some st') : s.foldl behind st = st' := by
  induction s generalizing st with
  | nil => exact Option.some.inj h
  | cons c s ih =>
    rw [pass?] at h
    split at h
    · cases h
    · exact ih h

/-- A text that is passed belongs to the chunk it stands in. -/
theorem chunks_of_pass? (h : st.pass? s = some st') (start pos : Nat) (t : Text) :
    st.chunks start pos (s ++ t) = st'.chunks start (pos + s.length) t := by
  induction s generalizing st pos with
  | nil =>
    obtain rfl := Option.some.inj h
    rfl
  | cons c s ih =>
    rw [pass?] at h
    split at h
    · cases h
    next hcut =>
      rw [List.cons_append, chunks, if_neg hcut, ih h, List.length_cons, Nat.add_assoc,
        Nat.add_comm 1]

/-- The chunks of a text stand in it. -/
theorem bounds_of_mem_chunks {start pos : Nat} (h : start ≤ pos) {c : Span}
    (hc : c ∈ st.chunks start pos s) :
    start ≤ c.start ∧ c.start ≤ c.stop ∧ c.stop ≤ pos + s.length := by
  induction s generalizing st start pos with
  | nil =>
    rw [List.mem_singleton.1 hc]
    exact ⟨Nat.le_refl _, h, Nat.le_refl _⟩
  | cons d s ih =>
    rw [chunks] at hc
    rw [List.length_cons]
    split at hc
    · -- The comma ends a chunk where it stands.
      rcases List.mem_cons.1 hc with rfl | hc
      · dsimp only
        omega
      · have := ih (Nat.le_refl _) hc
        omega
    · have := ih (Nat.le_succ_of_le h) hc
      omega

/-- A text that is not passed has a first comma that cuts. -/
theorem exists_cut (h : st.pass? s = none) :
    ∃ p t, s = p ++ ',' :: t ∧ st.pass? p = some outside := by
  induction s generalizing st with
  | nil => cases h
  | cons c s ih =>
    by_cases hcut : st = outside ∧ c = ','
    · obtain ⟨rfl, rfl⟩ := hcut
      exact ⟨[], s, rfl, rfl⟩
    · rw [pass?, if_neg hcut] at h
      obtain ⟨p, t, rfl, hp⟩ := ih h
      exact ⟨c :: p, t, rfl, by rw [pass?, if_neg hcut, hp]⟩

end SplitState

/-- A character that neither quotes nor nests nor splits. -/
def isBland (c : Char) : Bool := !isQuoteChar c && !(['[', ']', '(', ')', ','] : Text).contains c

/-- The bland characters are those that are neither quotes nor brackets nor commas. -/
theorem isBland_iff {c : Char} : isBland c = true ↔
    isQuoteChar c = false ∧ c ≠ '[' ∧ c ≠ ']' ∧ c ≠ '(' ∧ c ≠ ')' ∧ c ≠ ',' := by
  simp [isBland]

/-- Bland characters change nothing outside quotes. -/
theorem SplitState.behind_bland {c : Char} (h : isBland c = true) (depth : Nat) :
    behind ⟨none, false, depth⟩ c = ⟨none, false, depth⟩ := by
  obtain ⟨hq, h₁, h₂, h₃, h₄, -⟩ := isBland_iff.1 h
  simp [behind, hq, h₁, h₂, h₃, h₄]

/-- Bland characters leave the state as it is. -/
theorem SplitState.pass?_bland {x : Text} (h : ∀ c ∈ x, isBland c = true) (depth : Nat) :
    pass? ⟨none, false, depth⟩ x = some ⟨none, false, depth⟩ := by
  induction x with
  | nil => rfl
  | cons c x ih =>
    obtain ⟨hc, hx⟩ := List.forall_mem_cons.1 h
    rw [pass?_cons _ (isBland_iff.1 hc).2.2.2.2.2, behind_bland hc, ih hx]

/-- A bland character ends no quote; a backslash could take the next character with it. -/
theorem SplitState.Valid.behind_bland {st : SplitState} (hst : st.Valid) {c : Char}
    (h : isBland c = true) (hc : c ≠ '\\') : st.behind c = { st with escaped := false } := by
  obtain ⟨quote, escaped, depth⟩ := st
  cases escaped with
  | true => rfl
  | false =>
    cases quote with
    | none => exact SplitState.behind_bland h depth
    | some q =>
      have hne : c ≠ q := by
        rintro rfl
        exact absurd (hst.quote _ rfl) (by simp [(isBland_iff.1 h).1])
      rw [behind_quoted (fun h => hc h.1), if_neg hne]

open SplitState (outside)

/-- **The splitting is a pass over the characters.** -/
theorem chunksFrom_eq (quote : Option Char) (depth start pos : Nat) (s : Text) :
    chunksFrom quote depth start pos s = (SplitState.mk quote false depth).chunks start pos s := by
  fun_induction chunksFrom quote depth start pos s with
  | case1 => rfl
  | case2 depth start pos c q hc =>
    simp [SplitState.chunks, outside, hc]
  -- A backslash takes the next character with it.
  | case3 depth start pos c q hc d rest ih =>
    rw [ih]
    simp [SplitState.chunks, outside, SplitState.behind, hc]
  -- Another character between quotes may be the closing mark.
  | case4 depth start pos c rest q hc ih =>
    rw [ih]
    simp only [SplitState.chunks, outside, SplitState.behind, hc]
    by_cases hcq : c = q <;> simp [hcq]
  | case5 depth start pos c rest hc ih =>
    have hcomma : c ≠ ',' := by
      rintro rfl
      exact absurd hc (by decide)
    rw [ih]
    simp [SplitState.chunks, SplitState.behind, hc, hcomma]
  | case6 depth start pos c rest hq hc ih =>
    have hcomma : c ≠ ',' := by
      rintro rfl
      exact absurd hc (by decide)
    rw [ih]
    simp [SplitState.chunks, SplitState.behind, hq, hc, hcomma]
  | case7 depth start pos c rest hq ho hc ih =>
    have hcomma : c ≠ ',' := by
      rintro rfl
      exact absurd hc (by decide)
    rw [ih]
    simp [SplitState.chunks, SplitState.behind, hq, ho, hc, hcomma]
  | case8 depth start pos c rest hq ho hcl hc ih =>
    rw [ih]
    simp [SplitState.chunks, outside, hc]
  -- Any other character, with brackets open if it is a comma.
  | case9 depth start pos c rest hq ho hcl hc ih =>
    have hcut : ¬(SplitState.mk none false depth = outside ∧ c = ',') := by
      rintro ⟨hst, rfl⟩
      exact hc ⟨rfl, congrArg SplitState.depth hst⟩
    rw [ih, SplitState.chunks, if_neg hcut]
    simp [SplitState.behind, hq, ho, hcl]

/-! ## Chunks -/

/-- A text without a comma that cuts, at whose end nothing is open. -/
def IsChunk (p : Text) : Prop := outside.pass? p = some outside

/-- A text at whose end nothing is open: outside quotes, brackets and parentheses. -/
def ReadsOut (s : Text) : Prop := s.foldl SplitState.behind outside = outside

instance (p : Text) : Decidable (IsChunk p) := decEq _ _

instance (s : Text) : Decidable (ReadsOut s) := decEq _ _

namespace IsChunk

variable {p q : Text}

/-- The empty text is a chunk. -/
theorem nil : IsChunk [] := rfl

/-- Bland characters are a chunk. -/
theorem of_bland (h : ∀ c ∈ p, isBland c = true) : IsChunk p := SplitState.pass?_bland h 0

/-- Two chunks are a chunk together. -/
theorem append (hp : IsChunk p) (hq : IsChunk q) : IsChunk (p ++ q) :=
  (SplitState.pass?_append_of hp).trans hq

/-- A chunk is passed outside quotes and brackets. -/
theorem readsOut (h : IsChunk p) : ReadsOut p := SplitState.foldl_of_pass? h

/-- No chunk ends with a comma: the comma would cut, or something would be open behind it. -/
theorem getLast?_ne (h : IsChunk p) : p.getLast? ≠ some ',' := by
  intro hlast
  obtain ⟨front, rfl⟩ := List.getLast?_eq_some_iff.1 hlast
  rw [IsChunk, SplitState.pass?_append, Option.bind_eq_some_iff] at h
  obtain ⟨⟨quote, escaped, depth⟩, hfront, hcomma⟩ := h
  obtain ⟨hquote, hescaped⟩ := SplitState.valid_outside.pass? hfront
  rw [SplitState.pass?, SplitState.pass?] at hcomma
  -- The comma would have to leave the state outside.
  obtain ⟨hcut, hout⟩ := Option.ite_none_left_eq_some.1 hcomma
  have hout := Option.some.inj hout
  -- Between quotes it does not, escaped or not.
  cases escaped with
  | true =>
    obtain ⟨q, hq⟩ := Option.ne_none_iff_exists'.1 (hescaped rfl)
    obtain rfl : quote = none := congrArg SplitState.quote hout
    cases hq
  | false =>
    cases quote with
    | some q =>
      have hne : ',' ≠ q := by
        rintro rfl
        exact absurd (hquote _ rfl) (by decide)
      have hsame : (SplitState.mk (some q) false depth).behind ',' = ⟨some q, false, depth⟩ := by
        simp [SplitState.behind, hne]
      rw [hsame] at hout
      cases hout
    -- Outside quotes it stays at the depth, and at depth zero it cuts.
    | none =>
      rw [SplitState.behind_comma] at hout
      exact hcut ⟨hout, rfl⟩

end IsChunk

/-- Nothing is open behind a comma between two texts at whose ends nothing is open. -/
theorem ReadsOut.comma {s t : Text} (hs : ReadsOut s) (ht : ReadsOut t) :
    ReadsOut (s ++ ',' :: t) := by
  rw [ReadsOut, List.foldl_append, hs]
  exact ht

/-- Nothing is open at the end of chunks with commas between them. -/
theorem readsOut_join {ps : List Text} (h : ∀ p ∈ ps, IsChunk p) :
    ReadsOut (Text.join [','] ps) := by
  induction ps with
  | nil => exact IsChunk.nil.readsOut
  | cons p ps ih =>
    obtain ⟨hp, hps⟩ := List.forall_mem_cons.1 h
    cases ps with
    | nil => exact hp.readsOut
    | cons q ps =>
      rw [Text.join_cons_cons, List.append_assoc, List.singleton_append]
      exact hp.readsOut.comma (ih hps)

/-- The spans of chunks with commas between them, from offset `o` on. -/
def spansFrom (o : Nat) : List Text → List Span
  | [] => []
  | p :: ps => ⟨o, o + p.length⟩ :: spansFrom (o + p.length + 1) ps

/-- The text is its parts with the commas that cut between them; what is open at its end is open in
the last part. -/
inductive CutsInto : Text → List Text → Prop
  | last {p : Text} {st : SplitState} (h : outside.pass? p = some st) : CutsInto p [p]
  | comma {p s : Text} {ps : List Text} (hp : IsChunk p) (hs : CutsInto s ps) :
      CutsInto (p ++ ',' :: s) (p :: ps)

/-- **Every text has its parts.** -/
theorem exists_cutsInto (s : Text) : ∃ ps, CutsInto s ps := by
  induction hn : s.length using Nat.strongRecOn generalizing s with
  | ind n ih =>
    cases hpass : outside.pass? s with
    | some st => exact ⟨[s], .last hpass⟩
    | none =>
      obtain ⟨p, t, rfl, hp⟩ := SplitState.exists_cut hpass
      have hlt : t.length < n := by
        rw [← hn, List.length_append, List.length_cons]
        omega
      obtain ⟨ps, hps⟩ := ih t.length hlt t rfl
      exact ⟨p :: ps, .comma hp hps⟩

/-- Chunks are the parts of what they make with commas between them. -/
theorem cutsInto_join {ps : List Text} (hne : ps ≠ []) (h : ∀ p ∈ ps, IsChunk p) :
    CutsInto (Text.join [','] ps) ps := by
  induction ps with
  | nil => exact absurd rfl hne
  | cons p ps ih =>
    obtain ⟨hp, hps⟩ := List.forall_mem_cons.1 h
    cases ps with
    | nil => exact .last hp
    | cons q ps =>
      rw [Text.join_cons_cons, List.append_assoc, List.singleton_append]
      exact .comma hp (ih (List.cons_ne_nil _ _) hps)

namespace CutsInto

variable {s : Text} {ps : List Text}

/-- A text is cut into one chunk at least. -/
theorem ne_nil (h : CutsInto s ps) : ps ≠ [] := by
  cases h <;> exact List.cons_ne_nil _ _

/-- Chunks with commas between them make up the text that is cut. -/
theorem eq_join (h : CutsInto s ps) : s = Text.join [','] ps := by
  induction h with
  | last => rfl
  | @comma p s ps _ hs ih =>
    obtain ⟨q, ps, rfl⟩ := List.exists_cons_of_ne_nil hs.ne_nil
    rw [Text.join_cons_cons, ← ih, List.append_assoc, List.singleton_append]

/-- Where nothing is open at the end, the last part is a chunk, too. -/
theorem isChunk (h : CutsInto s ps) (hread : ReadsOut s) : ∀ p ∈ ps, IsChunk p := by
  induction h with
  | last h =>
    obtain rfl := (SplitState.foldl_of_pass? h).symm.trans hread
    exact List.forall_mem_singleton.2 h
  | comma hp _ ih =>
    rw [ReadsOut, List.foldl_append, hp.readsOut] at hread
    exact List.forall_mem_cons.2 ⟨hp, ih hread⟩

/-- **The chunks of a text stand where its parts do.** -/
theorem chunks_eq (h : CutsInto s ps) (o : Nat) : chunksFrom none 0 o o s = spansFrom o ps := by
  rw [chunksFrom_eq]
  change outside.chunks o o s = _
  induction h generalizing o with
  | @last p st h =>
    have hpass := SplitState.chunks_of_pass? h o o []
    rwa [List.append_nil] at hpass
  | comma hp _ ih =>
    rw [SplitState.chunks_of_pass? hp, SplitState.chunks, if_pos ⟨rfl, rfl⟩, ih]
    rfl

end CutsInto

/-- **A text at whose end nothing is open** is its chunks with commas between them. -/
theorem exists_chunks {s : Text} (h : ReadsOut s) :
    ∃ ps, ps ≠ [] ∧ s = Text.join [','] ps ∧ ∀ p ∈ ps, IsChunk p := by
  obtain ⟨ps, hps⟩ := exists_cutsInto s
  exact ⟨ps, hps.ne_nil, hps.eq_join, hps.isChunk h⟩

end SchemaDiagram
