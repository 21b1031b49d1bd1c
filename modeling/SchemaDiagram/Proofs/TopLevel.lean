import SchemaDiagram.Proofs.NameLists

/-! # Characters outside quotes and parentheses

The operator of a reference and the bracket of a settings list are looked for outside quotes and
parentheses, in one pass that knows no backslash. A text whose quotes and parentheses are closed is
passed as a whole, and only its characters outside them are seen.

* **`Outer p s`** — a text whose quotes and parentheses are closed, and whose other characters
  satisfy `p`; `exists_topLevelFrom` says that the pass sees only these.
* **`splitBracket_of_outer`**, **`splitBracket_list`** — a line without and with a settings list.
* **`findOperator?_append`** — the search for an operator goes past such a text. -/

namespace SchemaDiagram

/-! ## The last mark -/

namespace Text

variable {mark s : Text}

/-- There is a last mark when there is one. -/
theorem cutLast_eq_none_iff (hmark : mark ≠ []) : cutLast mark s = none ↔ ¬ mark <:+: s := by
  induction s with
  | nil => simpa [cutLast] using hmark
  | cons c s ih =>
    rw [cutLast, List.infix_cons_iff, not_or, ← ih, ← List.isPrefixOf_iff_prefix]
    cases cutLast mark s with
    | some cut => simp
    | none => simp

/-- What stands ahead of a text does not move its last mark. -/
theorem cutLast_append {head tail : Text} (h : cutLast mark s = some (head, tail)) (ahead : Text) :
    cutLast mark (ahead ++ s) = some (ahead ++ head, tail) := by
  induction ahead with
  | nil => exact h
  | cons c ahead ih => rw [List.cons_append, cutLast, ih]; rfl

/-- A mark at the end of a text is the last one. -/
theorem cutLast_concat (s : Text) (c : Char) : cutLast [c] (s ++ [c]) = some (s, []) := by
  have hend : cutLast [c] [c] = some ([], []) := by simp [cutLast]
  have hcut := cutLast_append hend s
  rwa [List.append_nil] at hcut

end Text

/-! ## The pass over a line -/

/-- A text whose quotes and parentheses are closed, and whose characters outside them satisfy
`p`. -/
inductive Outer : (Char → Prop) → Text → Prop
  | nil {p : Char → Prop} : Outer p []
  | plain {p : Char → Prop} {c : Char} {s : Text} (hc : p c) (hquote : isQuoteChar c = false)
      (hopen : c ≠ '(') (hclose : c ≠ ')') (hs : Outer p s) : Outer p (c :: s)
  | quoted {p : Char → Prop} {m : Char} {t s : Text} (hm : isQuoteChar m = true) (ht : m ∉ t)
      (hs : Outer p s) : Outer p (inQuotes m t ++ s)
  | group {p q : Char → Prop} {t s : Text} (ht : Outer q t) (hs : Outer p s) :
      Outer p ('(' :: (t ++ ')' :: s))

/-- An open quote is closed by the next one of its kind. -/
theorem topLevelFrom_inside {m : Char} {t : Text} (ht : m ∉ t) (depth pos : Nat) (w : Text) :
    topLevelFrom (some m) depth pos (t ++ m :: w)
      = topLevelFrom none depth (pos + (t.length + 1)) w := by
  induction t generalizing pos with
  | nil => rw [List.nil_append, topLevelFrom, if_pos rfl]; rfl
  | cons c t ih =>
    obtain ⟨hc, ht⟩ := not_or.1 (mt List.mem_cons.2 ht)
    rw [List.cons_append, topLevelFrom, if_neg (Ne.symm hc), ih ht, List.length_cons, Nat.add_assoc,
      Nat.add_comm 1]

/-- Nothing is seen between quotes. -/
theorem topLevelFrom_inQuotes {m : Char} {t : Text} (hm : isQuoteChar m = true) (ht : m ∉ t)
    (depth pos : Nat) (w : Text) :
    topLevelFrom none depth pos (inQuotes m t ++ w)
      = topLevelFrom none depth (pos + (inQuotes m t).length) w := by
  have htext : inQuotes m t ++ w = m :: (t ++ m :: w) := by simp [inQuotes]
  have hlen : pos + (inQuotes m t).length = pos + 1 + (t.length + 1) := by
    simp only [inQuotes, List.length_cons, List.length_append, List.length_nil]
    omega
  rw [htext, topLevelFrom, if_pos hm, topLevelFrom_inside ht, hlen]

namespace Outer

variable {p : Char → Prop} {s t : Text}

/-- Two texts whose quotes and parentheses are closed may stand one behind the other. -/
theorem append (hs : Outer p s) (ht : Outer p t) : Outer p (s ++ t) := by
  induction hs with
  | nil => exact ht
  | plain hc hquote hopen hclose _ ih => exact .plain hc hquote hopen hclose (ih ht)
  | quoted hm hq _ ih => rw [List.append_assoc]; exact .quoted hm hq (ih ht)
  | group hq _ _ ih =>
    rw [List.cons_append, List.append_assoc, List.cons_append]
    exact .group hq (ih ht)

/-- A weaker condition holds of the characters outside as well. -/
theorem mono {q : Char → Prop} (h : Outer p s) (hq : ∀ c, p c → q c) : Outer q s := by
  induction h with
  | nil => exact nil
  | plain hc hquote hopen hclose _ ih => exact .plain (hq _ hc) hquote hopen hclose (ih hq)
  | quoted hm ht _ ih => exact .quoted hm ht (ih hq)
  | group ht _ _ ih => exact .group ht (ih hq)

/-- A quoted text has its quotes closed. -/
theorem inQuotes {m : Char} (hm : isQuoteChar m = true) (ht : m ∉ t) : Outer p (inQuotes m t) := by
  have h := quoted (p := p) hm ht nil
  rwa [List.append_nil] at h

/-- A text without quotes and parentheses. -/
theorem of_forall (h : ∀ c ∈ s, p c ∧ isQuoteChar c = false ∧ c ≠ '(' ∧ c ≠ ')') : Outer p s := by
  induction s with
  | nil => exact nil
  | cons c s ih =>
    obtain ⟨⟨hc, hquote, hopen, hclose⟩, hs⟩ := List.forall_mem_cons.1 h
    exact plain hc hquote hopen hclose (ih hs)

/-- Blanks have no quotes and parentheses to close. -/
theorem of_allBlank (h : AllBlank s) (hp : ∀ c, isBlank c = true → p c) : Outer p s :=
  of_forall fun c hc => ⟨hp c (h c hc), isQuoteChar_of_isBlank (h c hc),
    ne_of_isBlank (h c hc) (by decide), ne_of_isBlank (h c hc) (by decide)⟩

/-- Texts whose quotes and parentheses are closed may be joined by such a separator. -/
theorem join {sep : Text} {parts : List Text} (hsep : Outer p sep)
    (h : ∀ part ∈ parts, Outer p part) :
    Outer p (Text.join sep parts) := by
  induction parts with
  | nil => exact nil
  | cons part parts ih =>
    obtain ⟨hpart, hparts⟩ := List.forall_mem_cons.1 h
    cases parts with
    | nil => exact hpart
    | cons next parts =>
      rw [Text.join_cons_cons]
      exact (hpart.append hsep).append (ih hparts)

/-- The gap between listed names has no quotes and parentheses to close. -/
theorem listGap : Outer (fun _ => True) listGap :=
  of_forall (by simp [SchemaDiagram.listGap, isQuoteChar])

/-- **Only the characters outside quotes and parentheses are seen**, and nothing inside a
parenthesis that is still open. -/
theorem exists_topLevelFrom (h : Outer p s) (depth pos : Nat) (w : Text) :
    ∃ chars, (∀ a ∈ chars, depth = 0 ∧ p a.2) ∧
      topLevelFrom none depth pos (s ++ w)
        = chars ++ topLevelFrom none depth (pos + s.length) w := by
  induction h generalizing depth pos w with
  | nil => exact ⟨[], by simp, rfl⟩
  | @plain _ c s hc hquote hopen hclose _ ih =>
    obtain ⟨chars, hchars, heq⟩ := ih depth (pos + 1) w
    rw [List.cons_append, topLevelFrom, List.length_cons, Nat.add_comm s.length, ← Nat.add_assoc]
    simp only [hquote, hopen, hclose, Bool.false_eq_true, if_false, heq]
    by_cases hdepth : depth = 0
    · exact ⟨(pos, c) :: chars, List.forall_mem_cons.2 ⟨⟨hdepth, hc⟩, hchars⟩, if_pos hdepth⟩
    · exact ⟨chars, hchars, if_neg hdepth⟩
  | @quoted _ m t s hm ht _ ih =>
    obtain ⟨chars, hchars, heq⟩ := ih depth (pos + (SchemaDiagram.inQuotes m t).length) w
    refine ⟨chars, hchars, ?_⟩
    rw [List.append_assoc, topLevelFrom_inQuotes hm ht, heq, List.length_append, Nat.add_assoc]
  | @group _ _ t s _ _ iht ihs =>
    -- The text in the parentheses stands one level deeper, where nothing is seen.
    obtain ⟨inner, hinner, hgroup⟩ := iht (depth + 1) (pos + 1) (')' :: (s ++ w))
    obtain rfl : inner = [] := List.eq_nil_iff_forall_not_mem.2 fun a ha => by
      cases (hinner a ha).1
    obtain ⟨chars, hchars, heq⟩ := ihs depth (pos + 1 + t.length + 1) w
    refine ⟨chars, hchars, ?_⟩
    have hopen : isQuoteChar '(' = false := rfl
    have hclose : isQuoteChar ')' = false := rfl
    rw [List.cons_append, List.append_assoc, List.cons_append, topLevelFrom]
    simp only [hopen, Bool.false_eq_true, if_false, if_true]
    rw [hgroup, List.nil_append, topLevelFrom]
    simp only [hclose, Bool.false_eq_true, if_false, if_true, Nat.add_one_sub_one]
    rw [if_neg (by decide), heq]
    congr 2
    simp only [List.length_cons, List.length_append]
    omega

/-- A whole text shows its characters outside quotes and parentheses. -/
theorem topLevelChars (h : Outer p s) : ∀ a ∈ topLevelChars s, p a.2 := by
  obtain ⟨chars, hchars, heq⟩ := h.exists_topLevelFrom 0 0 []
  rw [List.append_nil, topLevelFrom, List.append_nil] at heq
  rw [SchemaDiagram.topLevelChars, heq]
  exact fun a ha => (hchars a ha).2

end Outer

/-! ## The settings list of a line -/

section

variable {p : Char → Prop} {s : Text}

/-- A line without a bracket outside quotes and parentheses has no settings list. -/
theorem splitBracket_of_outer (h : Outer p s) (hp : ¬ p '[') : splitBracket s = (s, none) := by
  have hnone : (topLevelChars s).find? (·.2 = '[') = none := by
    rw [List.find?_eq_none]
    intro a ha hbracket
    exact hp (of_decide_eq_true hbracket ▸ h.topLevelChars a ha)
  rw [splitBracket, hnone]

/-- **The settings list of a line** stands between its first bracket outside quotes and parentheses
and the bracket at its end. -/
theorem splitBracket_list (h : Outer p s) (hp : ¬ p '[') (content : Text) :
    splitBracket (s ++ '[' :: (content ++ [']'])) = (Text.trimRight s, some content) := by
  obtain ⟨chars, hchars, heq⟩ := h.exists_topLevelFrom 0 0 ('[' :: (content ++ [']']))
  have hbracket : topLevelFrom none 0 (0 + s.length) ('[' :: (content ++ [']']))
      = (s.length, '[') :: topLevelFrom none 0 (s.length + 1) (content ++ [']']) := by
    rw [topLevelFrom, Nat.zero_add]
    simp [isQuoteChar]
  have hfind : (topLevelChars (s ++ '[' :: (content ++ [']']))).find? (·.2 = '[')
      = some (s.length, '[') := by
    have hnone : chars.find? (·.2 = '[') = none := by
      rw [List.find?_eq_none]
      intro a ha hbracket
      exact hp (of_decide_eq_true hbracket ▸ (hchars a ha).2)
    rw [topLevelChars, heq, List.find?_append, hnone, Option.none_or, hbracket]
    rfl
  -- The bracket that closes the list is the last one, whatever brackets stand in it.
  have hinner : (s ++ '[' :: (content ++ [']'])).drop (s.length + 1) = content ++ [']'] := by
    rw [← List.drop_drop, List.drop_left]
    rfl
  rw [splitBracket, hfind]
  simp only [hinner, Text.cutLast_concat, List.take_left]

end

/-! ## The operator of a line -/

/-- The characters that operators are made of. -/
def operatorChars : List Char := ['<', '>', '-', '=']

/-- An operator is looked for behind the characters that are part of none. -/
theorem operatorIn?_append {chars : List (Nat × Char)} (h : ∀ a ∈ chars, a.2 ∉ operatorChars)
    (rest : List (Nat × Char)) : operatorIn? (chars ++ rest) = operatorIn? rest := by
  induction chars with
  | nil => rfl
  | cons a chars ih =>
    obtain ⟨ha, hchars⟩ := List.forall_mem_cons.1 h
    obtain ⟨pos, c⟩ := a
    simp only [operatorChars, List.mem_cons, List.not_mem_nil, or_false, not_or] at ha
    rw [List.cons_append, operatorIn?]
    simp only [ha, or_self, if_false]
    exact ih hchars

/-- **The search for an operator goes past a text** that has none outside quotes and parentheses. -/
theorem findOperator?_append {p : Char → Prop} {s : Text} (h : Outer p s)
    (hp : ∀ c, p c → c ∉ operatorChars) (w : Text) :
    findOperator? (s ++ w) = operatorIn? (topLevelFrom none 0 s.length w) := by
  obtain ⟨chars, hchars, heq⟩ := h.exists_topLevelFrom 0 0 w
  rw [findOperator?, topLevelChars, heq, operatorIn?_append fun a ha => hp _ (hchars a ha).2,
    Nat.zero_add]

end SchemaDiagram
