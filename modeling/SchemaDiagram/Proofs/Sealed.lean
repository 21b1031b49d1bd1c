import SchemaDiagram.Proofs.Entries
import SchemaDiagram.Proofs.Rewriting

/-! # Texts that nothing runs out of

What stands in front of an edit is read as before when no segment and no token runs out of it,
whatever follows it. A text that ends with a colon or a brace is one of these, and so is what stands
between a colon and a value.

* **`Sealed s`** — nothing runs out of the text; `Joint.sealed` and `sealed_gap` say which texts are
  sealed.
* **`Loose t`** — a text that starts with a blank or a comment, so that no written value goes on in
  it.
* **`alike_ahead`**, **`alike_behind`** — tokens in a part that two texts share. -/

namespace SchemaDiagram

open Segment (Leads)

/-! ## Sealed texts -/

/-- **Nothing runs out of the text**: whatever follows it, its segments and its tokens are its
own. -/
structure Sealed (s : Text) : Prop where
  /-- No segment runs out of it. -/
  solid : Solid s
  /-- No token runs out of it. -/
  tokens : ∀ (z : Text) (o l : Nat), tokensFrom o l (clean (s ++ z))
    = tokensFrom o l (clean s) ++ tokensFrom (o + s.length) (l + s.count '\n') (clean z)

namespace Sealed

variable {s t : Text}

/-- An empty text is sealed. -/
theorem nil : Sealed [] := ⟨Solid.nil, fun z o l => by simp⟩

/-- Two sealed texts are sealed together. -/
theorem append (hs : Sealed s) (ht : Sealed t) : Sealed (s ++ t) := by
  refine ⟨hs.solid.append ht.solid, fun z o l => ?_⟩
  rw [List.append_assoc, hs.tokens, ht.tokens, hs.tokens t, List.append_assoc, List.length_append,
    List.count_append, Nat.add_assoc, Nat.add_assoc]

/-- A piece that no text behind it changes is sealed. -/
theorem of_piece {kind : Option TokenKind} {x : Text} (h : ∀ after, Piece kind x after) :
    Sealed x :=
  ⟨fun z => (h z).joint, fun z => (h z).tokensFrom_append⟩

/-- Blanks are sealed. -/
theorem of_blanks {b : Text} (hb : AllBlank b) : Sealed b := by
  induction b with
  | nil => exact nil
  | cons c b ih =>
    have hone : Sealed [c] := by
      by_cases hc : c = '\n'
      · subst hc
        exact of_piece fun _ => .newline
      · exact of_piece fun _ => .blank (hb c (List.mem_cons_self ..)) hc
    exact hone.append (ih fun d hd => hb d (List.mem_cons_of_mem _ hd))

end Sealed

section

variable {s t : Text} {c : Char} {k : TokenKind} (h : Joint s (c :: t))
  (hpiece : ∀ after, Piece (some k) [c] after) (hc : isWordChar c = false ∧ c ≠ '>')

include h hpiece hc

/-- Behind a boundary a character by itself is a token of its own. -/
theorem Joint.tokensFrom_snoc (z : Text) (o l : Nat) :
    tokensFrom o l (clean (s ++ [c] ++ z)) = tokensFrom o l (clean s) ++
      pieceToken k [c] (o + s.length) (l + s.count '\n') ::
        tokensFrom (o + (s ++ [c]).length) (l + (s ++ [c]).count '\n') (clean z) := by
  have hjoint : Joint s ([c] ++ z) := h.swap (.inr (.inl rfl))
  have hsevers : Severs ([c] ++ z) := by
    intro d hd
    obtain rfl := Option.some.inj hd
    exact hc
  rw [List.append_assoc, tokensFrom_clean_append hjoint hsevers, (hpiece z).tokensFrom_append,
    (hpiece z).tokensFrom_eq, List.length_append, List.count_append, Nat.add_assoc, Nat.add_assoc]
  rfl

/-- **Behind a boundary a character by itself seals the text.** -/
theorem Joint.sealed : Sealed (s ++ [c]) := by
  refine ⟨h.snoc (Sealed.of_piece hpiece).solid, fun z o l => ?_⟩
  have hself := h.tokensFrom_snoc hpiece hc [] o l
  rw [List.append_nil, clean_nil, tokensFrom_nil] at hself
  rw [h.tokensFrom_snoc hpiece hc, hself, List.append_assoc]
  rfl

end

/-- A line end is a token. -/
theorem exists_newline_token {s : Text} (h : s.head? = some '\n') (o l : Nat) :
    ∃ t ∈ tokensFrom o l (clean s), t.kind = .newline := by
  obtain ⟨rest, rfl⟩ := List.head?_eq_some_iff.1 h
  have hpiece : Piece (some .newline) ['\n'] rest := .newline
  have htokens := hpiece.tokensFrom_append o l
  rw [hpiece.tokensFrom_eq, List.singleton_append] at htokens
  exact ⟨_, by rw [htokens]; exact List.mem_cons_self .., rfl⟩

/-- A character by itself is no line end and no doc comment. -/
theorem ofChar_ne (c : Char) : TokenKind.ofChar c ≠ .newline ∧ TokenKind.ofChar c ≠ .doc := by
  unfold TokenKind.ofChar
  split <;> decide

/-- The piece of a doc comment is one. -/
theorem Piece.leads_doc {k : TokenKind} {x after : Text} (h : Piece (some k) x after)
    (hk : k = .doc) : Leads (.doc x) after := by
  cases h with
  | doc h => exact h
  | char => exact absurd hk (ofChar_ne _).2
  | _ => cases hk

/-- The piece of a line end is one. -/
theorem Piece.eq_newline {k : TokenKind} {x after : Text} (h : Piece (some k) x after)
    (hk : k = .newline) : x = ['\n'] := by
  cases h with
  | newline => rfl
  | char => exact absurd hk (ofChar_ne _).1
  | _ => cases hk

/-- **What stands between a colon and a value is sealed**: blanks, and comments that end in it. -/
theorem sealed_gap {gap z : Text} {c : Char} {o l : Nat} (hj : Joint gap (c :: z))
    (hc : isBlank c = false) (h : ∀ t ∈ tokensFrom o l (clean gap), t.kind = .doc) :
      Sealed gap := by
  induction gap using pieces_induction generalizing o l with
  | nil => exact Sealed.nil
  | append kind x after hpiece ih =>
    obtain ⟨-, hafter⟩ := hpiece.joint.split hj
    rw [hpiece.tokensFrom_append, List.forall_mem_append] at h
    refine Sealed.append ?_ (ih hafter h.2)
    -- A comment up to the line end would have the line end behind it, which is a token.
    have hline : ¬(after ++ c :: z = [] ∨ (after ++ c :: z).head? = some '\n') := by
      rintro (hnil | hhead)
      · simp at hnil
      · cases after with
        | nil =>
          obtain rfl : c = '\n' := by simpa using hhead
          exact absurd hc (by decide)
        | cons d after =>
          obtain ⟨t, ht, hk⟩ := exists_newline_token (s := d :: after) (by simpa using hhead)
            (o + x.length) (l + x.count '\n')
          rw [h.2 t ht] at hk
          cases hk
    have hlead : ∀ {segment : Segment}, Leads segment after → x = segment.text →
        Leads segment (after ++ c :: z) := by
      rintro segment hlead rfl
      exact (Joint.of_segment_append hlead hj).1
    cases kind with
    | some k =>
      have hkind : k = .doc := by
        rw [hpiece.tokensFrom_eq, List.forall_mem_singleton] at h
        exact h.1
      cases hlead (hpiece.leads_doc hkind) rfl with
      | doc hcut => exact absurd (takeLine_cases hcut).1 hline
    | none =>
      cases hpiece with
      | blank hb hn => exact .of_piece fun _ => .blank hb hn
      | comment hcomment =>
        cases hlead hcomment rfl with
        | block hcut =>
          rcases takeBlockComment_cases hcut with ⟨-, hclosed⟩ | hnil
          · exact .of_piece fun after => .comment (.block (hclosed after))
          · exact absurd (.inl hnil) hline
        | line hs hcut => exact absurd (takeLine_cases hcut).1 hline

/-! ## Loose texts -/

/-- **A text that starts with a blank or a comment**, or is empty: no value goes on in it. -/
def Loose (t : Text) : Prop := ∀ c ∈ t.head?, isBlank c = true ∨ c = '/'

namespace Loose

variable {t : Text}

/-- No literal starts with a loose text. -/
theorem quote (h : Loose t) : ∀ c ∈ t.head?, isQuoteChar c = false := by
  intro c hc
  rcases h c hc with hb | rfl
  · exact isQuoteChar_of_isBlank hb
  · decide

/-- No word and no arrow goes on in a loose text. -/
theorem severs (h : Loose t) : Severs t := by
  intro c hc
  rcases h c hc with hb | rfl
  · exact ⟨isWordChar_of_isBlank hb, ne_of_isBlank hb (by decide)⟩
  · decide

/-- A text behind blanks is loose. -/
theorem of_blanks {b : Text} (hb : AllBlank b) (hne : b ≠ []) (t : Text) : Loose (b ++ t) := by
  obtain ⟨c, b, rfl⟩ := List.exists_cons_of_ne_nil hne
  intro d hd
  obtain rfl := Option.some.inj hd
  exact .inl (hb c (List.mem_cons_self ..))

/-- Behind a value stands a doc comment or the end of the line. -/
theorem of_tokens {o l : Nat}
    (h : ∀ u ∈ (tokensFrom o l (clean t)).head?, u.kind = .doc ∨ u.kind = .newline) : Loose t := by
  cases t with
  | nil => simp [Loose]
  | cons c rest =>
    intro d hd
    obtain rfl := Option.some.inj hd
    obtain ⟨kind, x, after, htext, hpiece⟩ := Piece.exists_of_cons c rest
    -- The first piece starts with the first character.
    have hhead : x.head? = some c := by
      obtain ⟨e, x, rfl⟩ := List.exists_cons_of_ne_nil hpiece.ne_nil
      exact congrArg some (List.cons.inj htext).1.symm
    cases kind with
    | none =>
      cases hpiece with
      | comment hlead => cases hlead <;> exact .inr (Option.some.inj hhead).symm
      | blank hb => exact .inl (Option.some.inj hhead ▸ hb)
    | some k =>
      rw [htext, hpiece.tokensFrom_append, hpiece.tokensFrom_eq] at h
      rcases h _ rfl with hk | hk
      · cases hpiece.leads_doc hk
        exact .inr (Option.some.inj hhead).symm
      · rw [hpiece.eq_newline hk] at hhead
        obtain rfl := Option.some.inj hhead
        exact .inl (by decide)

end Loose

/-! ## Tokens in a part that two texts share -/

/-- A stretch of the start of a text. -/
theorem Text.slice_ahead {a : Text} {i j : Nat} (hj : j ≤ a.length) (b : Text) :
    Text.slice (a ++ b) i j = a.slice i j := by
  have happend : a ++ b = [] ++ (a ++ b) := rfl
  have hinside := Text.slice_inside happend (i := i) hj
  rwa [List.length_nil, Nat.zero_add, Nat.zero_add] at hinside

/-- **Tokens in the same start of two texts.** -/
theorem alike_ahead {a b b' : Text} {tokens : List Token}
    (h : ∀ t ∈ tokens, t.span.start ≤ a.length ∧ t.span.stop ≤ a.length) :
    Alike (a ++ b) (a ++ b') id id tokens := by
  refine ⟨Keeps.id, Keeps.id, fun t ht _ u hu _ => ?_, fun t ht _ u hu _ => ?_⟩
  · exact (Text.slice_ahead (h u hu).2 b).trans (Text.slice_ahead (h u hu).2 b').symm
  · exact (Text.slice_ahead (h u hu).1 b).trans (Text.slice_ahead (h u hu).1 b').symm

/-- **Tokens in the same part of two texts**, in different places. -/
theorem alike_behind {s s' a a' c b b' : Text} (hs : s = a ++ (c ++ b)) (hs' : s' = a' ++ (c ++ b'))
    {tokens : List Token} (h : ∀ t ∈ tokens, t.span.start ≤ c.length ∧ t.span.stop ≤ c.length)
    (m m' : Nat) : Alike s s' (Token.move a.length m) (Token.move a'.length m') tokens := by
  have hslice : ∀ {i j : Nat}, j ≤ c.length →
      s.slice (i + a.length) (j + a.length) = s'.slice (i + a'.length) (j + a'.length) := by
    intro i j hj
    rw [Nat.add_comm i, Nat.add_comm j, Nat.add_comm i, Nat.add_comm j, Text.slice_inside hs hj,
      Text.slice_inside hs' hj]
  refine ⟨Keeps.move _ _, Keeps.move _ _, fun t ht _ u hu _ => ?_, fun t ht _ u hu _ => ?_⟩
  · exact hslice (h u hu).2
  · exact hslice (h u hu).1

end SchemaDiagram
