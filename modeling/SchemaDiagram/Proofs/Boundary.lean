import Mathlib.Data.List.TakeWhile
import SchemaDiagram.Source.Segment

/-! # Boundaries between segments

An edit replaces a stretch of a source text. Whether the text around it is still read as before is
decided at the two ends of the stretch: a place in a text is a *boundary* when no segment runs over
it, and then the two sides of it are cut into segments each by itself.

* **`Segment.Leads seg after`** — the text `after` behind the segment leaves it as it is;
  `segments_induction` is induction on the segments of a text.
* **`isInert c`** — a character that is a segment by itself and continues none.
* **`Segment.Leads.of_follows`** — a segment is decided by its own characters and by the one that
  follows it.
* **`Joint s t`** — the place between `s` and `t` is a boundary of `s ++ t`; `Joint.of_segments`,
  `Joint.swap` and `Joint.clean_append` say where boundaries come from, that they outlive a change
  of the text behind them, and that cleaning keeps them. -/

namespace SchemaDiagram

/-! ## Where literals end -/

namespace Quote

/-- A backslash inside a literal takes the next character with it. -/
theorem finish_backslash {q : Quote} (h : q.escapes = true) (d : Char) (rest : Text) :
    q.finish ('\\' :: d :: rest) = ('\\' :: d :: (q.finish rest).1, (q.finish rest).2) := by
  rw [finish.eq_def]
  simp [h]

/-- The closing mark ends a literal. -/
theorem finish_mark (q : Quote) (s : Text) : q.finish (q.mark ++ s) = (q.mark, s) := by
  rw [finish.eq_def]
  cases q <;> simp [mark]

/-- The line end ends a literal that ends at line ends, and stays behind. -/
theorem finish_newline {q : Quote} (h : q.endsAtLine = true) (rest : Text) :
    q.finish ('\n' :: rest) = ([], '\n' :: rest) := by
  rw [finish.eq_def]
  cases q <;> simp_all [mark, endsAtLine]

/-- Every other character belongs to the literal. -/
theorem finish_cons {q : Quote} {c : Char} {rest : Text} (hc : ¬(c = '\\' ∧ q.escapes = true))
    (hmark : ¬ q.mark <+: c :: rest) (hline : ¬(c = '\n' ∧ q.endsAtLine = true)) :
    q.finish (c :: rest) = (c :: (q.finish rest).1, (q.finish rest).2) := by
  rw [finish.eq_def]
  simp only [hc, if_false, List.isPrefixOf_iff_prefix, hmark, hline]

/-- The mark of a literal that ends at line ends is one character. -/
theorem mark_prefix_congr {q : Quote} (h : q.endsAtLine = true) {c : Char} {s t : Text} :
    q.mark <+: c :: s ↔ q.mark <+: c :: t := by
  cases q <;> simp_all [mark, endsAtLine]

/-- **A literal ends for one of three reasons.** Its closing mark has been read, and then whatever
follows is no part of it; or the text ends; or the line ends. -/
theorem finish_cases {q : Quote} {x y : Text} (h : q.finish (x ++ y) = (x, y)) :
    (q.mark <:+ x ∧ ∀ z, q.finish (x ++ z) = (x, z)) ∨ y = [] ∨
      (q.endsAtLine = true ∧ y.head? = some '\n' ∧ ∀ z : Text, z = [] ∨ z.head? = some '\n' →
        q.finish (x ++ z) = (x, z)) := by
  induction hn : x.length using Nat.strongRecOn generalizing x with
  | ind n ih =>
    cases x with
    | nil =>
      rw [List.nil_append] at h
      cases y with
      | nil => exact .inr (.inl rfl)
      | cons c rest =>
        -- A literal that ends before its first character ends at a line end.
        by_cases hline : c = '\n' ∧ q.endsAtLine = true
        · refine .inr (.inr ⟨hline.2, by rw [hline.1]; rfl, ?_⟩)
          rintro (_ | ⟨d, z⟩) hz
          · rfl
          · obtain rfl : d = '\n' := by simpa using hz
            exact finish_newline hline.2 z
        · by_cases hc : c = '\\' ∧ q.escapes = true
          · rw [hc.1] at h
            cases rest with
            | nil => rw [finish.eq_def] at h; simp [hc.2] at h
            | cons d rest => rw [finish_backslash hc.2] at h; simp at h
          · by_cases hmark : q.mark <+: c :: rest
            · obtain ⟨tail, htail⟩ := hmark
              rw [← htail, finish_mark] at h
              exact absurd (congrArg Prod.fst h) q.mark_ne_nil
            · rw [finish_cons hc hmark hline] at h
              simp at h
    | cons c x =>
      rw [List.cons_append] at h
      by_cases hc : c = '\\' ∧ q.escapes = true
      · obtain ⟨rfl, hq⟩ := hc
        cases x with
        | nil =>
          cases y with
          | nil => exact .inr (.inl rfl)
          | cons d y => rw [List.nil_append, finish_backslash hq] at h; simp at h
        | cons d x =>
          rw [List.cons_append, finish_backslash hq] at h
          have hx : q.finish (x ++ y) = (x, y) := by
            simp only [Prod.mk.injEq, List.cons.injEq, true_and] at h
            exact Prod.ext h.1 h.2
          simp only [List.length_cons] at hn
          rcases ih x.length (by omega) hx rfl with ⟨hmark, hz⟩ | hy | ⟨hq', hy, hz⟩
          · refine .inl ⟨(hmark.trans (List.suffix_cons ..)).trans (List.suffix_cons ..),
              fun z => ?_⟩
            rw [List.cons_append, List.cons_append, finish_backslash hq, hz]
          · exact .inr (.inl hy)
          · refine .inr (.inr ⟨hq', hy, fun z hz' => ?_⟩)
            rw [List.cons_append, List.cons_append, finish_backslash hq, hz z hz']
      · by_cases hmark : q.mark <+: c :: (x ++ y)
        · obtain ⟨tail, htail⟩ := hmark
          rw [← htail, finish_mark] at h
          obtain ⟨hx, rfl⟩ := Prod.mk.inj h
          refine .inl ⟨hx ▸ List.suffix_refl _, fun z => ?_⟩
          rw [← hx, finish_mark]
        · by_cases hline : c = '\n' ∧ q.endsAtLine = true
          · rw [hline.1, finish_newline hline.2] at h
            simp at h
          · rw [finish_cons hc hmark hline] at h
            have hx : q.finish (x ++ y) = (x, y) := by
              simp only [Prod.mk.injEq, List.cons.injEq, true_and] at h
              exact Prod.ext h.1 h.2
            simp only [List.length_cons] at hn
            rcases ih x.length (by omega) hx rfl with ⟨hsuffix, hz⟩ | hy | ⟨hq', hy, hz⟩
            · have hlen := hsuffix.length_le
              refine .inl ⟨hsuffix.trans (List.suffix_cons ..), fun z => ?_⟩
              -- The mark is no longer than what has been read, so what follows cannot make one.
              have hmark' : ¬ q.mark <+: c :: (x ++ z) := by
                intro hp
                refine hmark ?_
                rw [← List.cons_append] at hp ⊢
                exact (List.prefix_of_prefix_length_le hp (List.prefix_append _ _)
                  (by simp only [List.length_cons]; omega)).trans (List.prefix_append _ _)
              rw [List.cons_append, finish_cons hc hmark' hline, hz]
            · exact .inr (.inl hy)
            · refine .inr (.inr ⟨hq', hy, fun z hz' => ?_⟩)
              have hmark' : ¬ q.mark <+: c :: (x ++ z) := by
                rwa [mark_prefix_congr hq' (t := x ++ y)]
              rw [List.cons_append, finish_cons hc hmark' hline, hz z hz']

/-- **The kind of a literal is told by its first character**, and of the two kinds that start with
a single quote by the two characters behind it. -/
theorem opening?_cons (c : Char) (rest : Text) :
    opening? (c :: rest)
      = if c = '\x27' then if ['\x27', '\x27'] <+: rest then some triple else some single
        else if c = '"' then some double
        else if c = '\x60' then some backtick
        else none := by
  have hne : ∀ {d : Char}, ¬ c = d → (d == c) = false := fun h => beq_eq_false_iff_ne.2 (Ne.symm h)
  simp only [opening?, all, mark, List.find?_cons, List.find?_nil, List.isPrefixOf_cons_cons,
    List.isPrefixOf_nil_left, Bool.and_true]
  -- Only a single quote is looked at together with what follows it.
  by_cases h₁ : c = '\x27'
  · subst h₁
    by_cases h : ['\x27', '\x27'] <+: rest
    · simp [h, List.isPrefixOf_iff_prefix.2 h]
    · have hp : ['\x27', '\x27'].isPrefixOf rest = false := by
        rwa [← Bool.not_eq_true, List.isPrefixOf_iff_prefix]
      simp [h, hp]
  · by_cases h₂ : c = '"'
    · simp [h₂]
    · by_cases h₃ : c = '\x60'
      · simp [h₃]
      · simp [h₁, h₂, h₃, hne h₁, hne h₂, hne h₃]

/-- No literal starts with a character that is no quote. -/
theorem opening?_eq_none_iff {c : Char} {rest : Text} :
    opening? (c :: rest) = none ↔ isQuoteChar c = false := by
  rw [opening?_cons, isQuoteChar]
  by_cases h₁ : c = '\x27'
  · by_cases h : ['\x27', '\x27'] <+: rest <;> simp [h₁, h]
  · by_cases h₂ : c = '"'
    · simp [h₂]
    · by_cases h₃ : c = '\x60' <;> simp [h₁, h₂, h₃]

/-- **A literal keeps its kind** when what follows it starts with no more quotes than before. -/
theorem opening?_of_finish {q : Quote} {body after after' : Text}
    (ho : opening? (q.mark ++ (body ++ after)) = some q)
    (hf : q.finish (body ++ after') = (body, after'))
    (hq : after'.head? = some '\x27' → after.head? = some '\x27') :
    opening? (q.mark ++ (body ++ after')) = some q := by
  cases q with
  | triple => rw [mark, List.cons_append, opening?_cons, if_pos rfl, if_pos ⟨_, rfl⟩]
  | single =>
    have hsplit : ¬ ['\x27', '\x27'] <+: body ++ after := by
      intro hp
      rw [mark, List.cons_append, List.nil_append, opening?_cons, if_pos rfl, if_pos hp] at ho
      cases ho
    have hnew : ¬ ['\x27', '\x27'] <+: body ++ after' := by
      rintro ⟨tail, htail⟩
      -- The body is the closing mark alone, and a quote follows it in both texts.
      have hm := finish_mark single ('\x27' :: tail)
      have hbody : single.mark ++ '\x27' :: tail = body ++ after' := htail
      rw [hbody, hf] at hm
      obtain ⟨rfl, rfl⟩ := Prod.mk.inj hm
      obtain ⟨r, rfl⟩ := List.head?_eq_some_iff.1 (hq rfl)
      exact hsplit ⟨r, rfl⟩
    rw [mark, List.cons_append, List.nil_append, opening?_cons, if_pos rfl, if_neg hnew]
  | double => rw [mark, List.cons_append, opening?_cons, if_neg (by decide), if_pos rfl]
  | backtick =>
    rw [mark, List.cons_append, opening?_cons, if_neg (by decide), if_neg (by decide), if_pos rfl]

end Quote

/-! ## Where comments end -/

/-- The end mark ends a block comment. -/
theorem takeBlockComment_mark (s : Text) :
    takeBlockComment ('*' :: '/' :: s) = (['*', '/'], s) := by
  rw [takeBlockComment]

/-- Every character that does not start the end mark belongs to the comment. -/
theorem takeBlockComment_cons {c : Char} {rest : Text} (h : ¬(c = '*' ∧ rest.head? = some '/')) :
    takeBlockComment (c :: rest)
      = (c :: (takeBlockComment rest).1, (takeBlockComment rest).2) := by
  rw [takeBlockComment.eq_def]
  split <;> simp_all

/-- A block comment is closed, and then what follows is no part of it, or the text ends with it. -/
theorem takeBlockComment_cases {x y : Text} (h : takeBlockComment (x ++ y) = (x, y)) :
    (2 ≤ x.length ∧ ∀ z, takeBlockComment (x ++ z) = (x, z)) ∨ y = [] := by
  induction x with
  | nil =>
    cases y with
    | nil => exact .inr rfl
    | cons c rest =>
      rw [List.nil_append, takeBlockComment.eq_def] at h
      split at h <;> simp_all
  | cons c x ih =>
    rw [List.cons_append] at h
    by_cases hc : c = '*' ∧ (x ++ y).head? = some '/'
    · obtain ⟨rest, hrest⟩ : ∃ rest, x ++ y = '/' :: rest := List.head?_eq_some_iff.1 hc.2
      rw [hc.1, hrest, takeBlockComment_mark] at h
      obtain ⟨hx, rfl⟩ := Prod.mk.inj h
      rw [hc.1, ← hx]
      exact .inl ⟨by simp, takeBlockComment_mark⟩
    · rw [takeBlockComment_cons hc] at h
      have hx : takeBlockComment (x ++ y) = (x, y) := by
        simp only [Prod.mk.injEq, List.cons.injEq, true_and] at h
        exact Prod.ext h.1 h.2
      -- The comment goes on: whether it is closed is told behind this character.
      rcases ih hx with ⟨hlen, hz⟩ | hy
      · refine .inl ⟨by simp only [List.length_cons]; omega, fun z => ?_⟩
        -- Its next two characters belong to the comment, so they are no mark with any other rest
        -- either.
        have hc' : ¬(c = '*' ∧ (x ++ z).head? = some '/') := by
          cases x with
          | nil => simp at hlen
          | cons d x => simpa using hc
        rw [List.cons_append, takeBlockComment_cons hc', hz]
      · exact .inr hy

/-- **A stretch ends where its characters end.** -/
theorem takeWhile_of_head {p : Char → Bool} {x z : Text} (hx : ∀ c ∈ x, p c = true)
    (hz : ∀ c ∈ z.head?, p c = false) :
    (x ++ z).takeWhile p = x ∧ (x ++ z).dropWhile p = z := by
  rw [List.takeWhile_append_of_pos hx, List.dropWhile_append_of_pos hx]
  cases z with
  | nil => simp
  | cons c z =>
    have hc : p c = false := hz c rfl
    simp [hc]

/-- A line runs up to a line end or to the end of the text. -/
theorem takeLine_cases {x y : Text} (h : takeLine (x ++ y) = (x, y)) :
    (y = [] ∨ y.head? = some '\n') ∧
      ∀ z : Text, z = [] ∨ z.head? = some '\n' → takeLine (x ++ z) = (x, z) := by
  obtain ⟨hx, hy⟩ := Prod.mk.inj h
  -- No line end stands in the line.
  have hall : ∀ c ∈ x, (c != '\n') = true := by
    intro c hc
    rw [← hx] at hc
    exact List.mem_takeWhile_imp (p := (· != '\n')) hc
  refine ⟨?_, fun z hz => ?_⟩
  · cases y with
    | nil => exact .inl rfl
    | cons d y =>
      have := List.head?_dropWhile_not (· != '\n') (x ++ d :: y)
      rw [hy] at this
      simpa using this
  · -- What follows is a line end or nothing, so the line stops there.
    have hz' : ∀ c ∈ z.head?, (c != '\n') = false := by
      intro c hc
      rcases hz with rfl | hz
      · cases hc
      · rw [hz] at hc
        cases hc
        rfl
    obtain ⟨htake, hdrop⟩ := takeWhile_of_head hall hz'
    exact Prod.ext htake hdrop

/-! ## Segments at the start of a text -/

/-- Whether a character is a segment by itself and continues no segment before it. -/
def isInert (c : Char) : Bool := !isQuoteChar c && c != '/' && c != '*' && c != '\n'

/-- The text `after'` may stand behind a segment in place of `after`: there is none, or it starts
with the same character, or it starts with a character that continues no segment and no line ended
there before. -/
def Follows (after after' : Text) : Prop :=
  after' = [] ∨ after'.head? = after.head? ∨
    ∃ c d, after.head? = some c ∧ after'.head? = some d ∧ c ≠ '\n' ∧ isInert d = true

namespace Follows

variable {after after' : Text}

/-- A text follows whatever the start of it follows. -/
theorem of_append (s t : Text) : Follows (s ++ t) s := by
  cases s with
  | nil => exact .inl rfl
  | cons c s => exact .inr (.inl rfl)

/-- Behind the end of a text stands nothing. -/
theorem eq_nil (h : Follows after after') (ha : after = []) : after' = [] := by
  rcases h with h | h | ⟨c, d, hc, -⟩
  · exact h
  · rw [ha] at h
    simpa using h
  · rw [ha] at hc
    cases hc

/-- A line end stays a line end, or the end of the text. -/
theorem newline (h : Follows after after') (ha : after.head? = some '\n') :
    after' = [] ∨ after'.head? = some '\n' := by
  rcases h with h | h | ⟨c, d, hc, -, hne, -⟩
  · exact .inl h
  · exact .inr (h.trans ha)
  · rw [ha] at hc
    cases hc
    exact absurd rfl hne

/-- A character that could continue a segment stood there before. -/
theorem head? (h : Follows after after') {c : Char} (hc : isInert c = false)
    (ha : after'.head? = some c) : after.head? = some c := by
  rcases h with h | h | ⟨-, d, -, hd, -, hi⟩
  · rw [h] at ha
    cases ha
  · exact h ▸ ha
  · rw [ha] at hd
    cases hd
    exact absurd hi (by simp [hc])

end Follows

namespace Segment

/-- **The text `after` behind a segment leaves it as it is**: the segment is the first one of the
text that both make. -/
inductive Leads : Segment → Text → Prop
  | literal {q : Quote} {body after : Text}
    (ho : Quote.opening? (q.mark ++ (body ++ after)) = some q)
      (hf : q.finish (body ++ after) = (body, after)) : Leads (.literal (q.mark ++ body)) after
  | block {body after : Text} (h : takeBlockComment (body ++ after) = (body, after)) :
      Leads (.comment ('/' :: '*' :: body)) after
  | doc {body after : Text} (h : takeLine (body ++ after) = (body, after)) :
      Leads (.doc ('/' :: '/' :: '/' :: body)) after
  | line {body after : Text} (hs : (body ++ after).head? ≠ some '/')
      (h : takeLine (body ++ after) = (body, after)) : Leads (.comment ('/' :: '/' :: body)) after
  | char {c : Char} {after : Text} (hq : isQuoteChar c = false)
      (hc : c = '/' → after.head? ≠ some '/' ∧ after.head? ≠ some '*') : Leads (.char c) after

/-- A slash and a character behind it start no literal. -/
theorem opening?_slash (rest : Text) : Quote.opening? ('/' :: rest) = none :=
  Quote.opening?_eq_none_iff.2 (by decide)

/-- The line that starts with slashes has the slashes in it. -/
theorem takeLine_slash (s : Text) :
    takeLine ('/' :: s) = ('/' :: (takeLine s).1, (takeLine s).2) := by
  simp [takeLine]

/-- An opening mark starts a literal. -/
theorem first_literal {c : Char} {rest : Text} {q : Quote}
    (h : Quote.opening? (c :: rest) = some q) :
    first c rest = (.literal (q.literal (c :: rest)).1, (q.literal (c :: rest)).2) := by
  unfold first
  simp only [h]

/-- A slash and a star start a comment up to the closing mark. -/
theorem first_block (s : Text) :
    first '/' ('*' :: s)
      = (.comment ('/' :: '*' :: (takeBlockComment s).1), (takeBlockComment s).2) := by
  simp [first, opening?_slash]

/-- Three slashes start a doc comment up to the end of the line. -/
theorem first_doc (s : Text) :
    first '/' ('/' :: '/' :: s)
      = (.doc ('/' :: '/' :: '/' :: (takeLine s).1), (takeLine s).2) := by
  simp [first, opening?_slash, takeLine_slash]

/-- Two slashes start a comment up to the end of the line, unless a third one stands behind them.
-/
theorem first_line {s : Text} (h : s.head? ≠ some '/') :
    first '/' ('/' :: s) = (.comment ('/' :: '/' :: (takeLine s).1), (takeLine s).2) := by
  cases s with
  | nil => simp [first, opening?_slash, takeLine_slash]
  | cons d s =>
    have hd : ¬ '/' = d := fun hd => h (by rw [hd]; rfl)
    simp [first, opening?_slash, takeLine_slash, hd]

/-- Any other character stands for itself. -/
theorem first_char {c : Char} {rest : Text} (hq : isQuoteChar c = false)
    (hc : c = '/' → rest.head? ≠ some '/' ∧ rest.head? ≠ some '*') :
    first c rest = (.char c, rest) := by
  have hnone : Quote.opening? (c :: rest) = none := Quote.opening?_eq_none_iff.2 hq
  by_cases hslash : c = '/'
  · -- A slash that starts no comment.
    obtain ⟨h₁, h₂⟩ := hc hslash
    subst hslash
    cases rest with
    | nil => simp [first, hnone]
    | cons d rest =>
      have hd₁ : ¬ '/' = d := fun hd => h₁ (by rw [hd]; rfl)
      have hd₂ : ¬ '*' = d := fun hd => h₂ (by rw [hd]; rfl)
      simp [first, hnone, hd₁, hd₂]
  · have hs : ¬ '/' = c := fun h => hslash h.symm
    simp [first, hnone, hs]

/-- **The first segment of a text is led by what follows it.** -/
theorem leads_first (c : Char) (rest : Text) : Leads (first c rest).1 (first c rest).2 := by
  -- A literal goes before a comment, and a comment before a character.
  cases hq : Quote.opening? (c :: rest) with
  | some q =>
    obtain ⟨body, hbody⟩ := Quote.isPrefix_of_opening? hq
    have hdrop : (c :: rest).drop q.mark.length = body := by rw [← hbody, List.drop_left]
    have happ := q.finish_append body
    rw [first_literal hq, Quote.literal, hdrop]
    refine .literal ?_ (by rw [happ])
    rw [happ, hbody]
    exact hq
  | none =>
    have hquote : isQuoteChar c = false := Quote.opening?_eq_none_iff.1 hq
    by_cases hslash : c = '/'
    · subst hslash
      -- A slash starts a comment or a doc comment, or stands for itself.
      by_cases hstar : rest.head? = some '*'
      · obtain ⟨s, rfl⟩ := List.head?_eq_some_iff.1 hstar
        rw [first_block]
        exact .block (by rw [takeBlockComment_append])
      · by_cases hline : rest.head? = some '/'
        · obtain ⟨s, rfl⟩ := List.head?_eq_some_iff.1 hline
          by_cases hdoc : s.head? = some '/'
          · obtain ⟨s, rfl⟩ := List.head?_eq_some_iff.1 hdoc
            rw [first_doc]
            exact .doc (by rw [takeLine_append])
          · rw [first_line hdoc]
            exact .line (by rwa [takeLine_append]) (by rw [takeLine_append])
        · have hc : '/' = '/' → rest.head? ≠ some '/' ∧ rest.head? ≠ some '*' :=
            fun _ => ⟨hline, hstar⟩
          rw [first_char hquote hc]
          exact .char hquote hc
    · have hc : c = '/' → rest.head? ≠ some '/' ∧ rest.head? ≠ some '*' :=
        fun h => absurd h hslash
      rw [first_char hquote hc]
      exact .char hquote hc

/-- The segment that leads a text is its first one. -/
theorem Leads.first_eq {segment : Segment} {after : Text} (h : Leads segment after) {c : Char}
    {rest : Text} (hs : segment.text ++ after = c :: rest) : first c rest = (segment, after) := by
  cases h with
  | @literal q body after ho hfin =>
    have hs' : q.mark ++ (body ++ after) = c :: rest := by rw [← List.append_assoc]; exact hs
    rw [hs'] at ho
    rw [first_literal ho, Quote.literal, ← hs', List.drop_left, hfin]
  | @block body after h =>
    obtain ⟨rfl, rfl⟩ := List.cons.inj hs
    exact (first_block (body ++ after)).trans (by rw [h])
  | @doc body after h =>
    obtain ⟨rfl, rfl⟩ := List.cons.inj hs
    exact (first_doc (body ++ after)).trans (by rw [h])
  | @line body after hd h =>
    obtain ⟨rfl, rfl⟩ := List.cons.inj hs
    exact (first_line hd).trans (by rw [h])
  | @char d after hq hc =>
    obtain ⟨rfl, rfl⟩ := List.cons.inj hs
    exact first_char hq hc

/-- **A segment is decided by its own characters and by the one that follows it.** -/
theorem Leads.of_follows {segment : Segment} {after after' : Text} (h : Leads segment after)
    (hf : Follows after after') : Leads segment after' := by
  cases h with
  | @literal q body after ho hfin =>
    -- The literal ends with its mark, with the text or before a line end, and only the last two
    -- depend on what follows.
    have hfin' : q.finish (body ++ after') = (body, after') := by
      rcases Quote.finish_cases hfin with ⟨-, hz⟩ | hnil | ⟨-, hline, hz⟩
      · exact hz after'
      · rw [hf.eq_nil hnil]
        rw [hnil] at hfin
        exact hfin
      · exact hz after' (hf.newline hline)
    exact .literal (Quote.opening?_of_finish ho hfin' (hf.head? (by decide))) hfin'
  | @block body after h =>
    refine .block ?_
    -- A block comment is closed, or the text ends with it.
    rcases takeBlockComment_cases h with ⟨-, hz⟩ | hnil
    · exact hz after'
    · rw [hf.eq_nil hnil]
      rw [hnil] at h
      exact h
  | @doc body after h =>
    obtain ⟨hend, hz⟩ := takeLine_cases h
    refine .doc (hz after' ?_)
    rcases hend with hnil | hline
    · exact .inl (hf.eq_nil hnil)
    · exact hf.newline hline
  | @line body after hs h =>
    obtain ⟨hend, hz⟩ := takeLine_cases h
    -- The line goes up to a line end or to the end of the text, as before.
    have hend' : after' = [] ∨ after'.head? = some '\n' := by
      rcases hend with hnil | hline
      · exact .inl (hf.eq_nil hnil)
      · exact hf.newline hline
    refine .line ?_ (hz after' hend')
    -- An empty comment is followed by what the line ends with, which is no slash.
    cases body with
    | nil =>
      rcases hend' with hnil | hline
      · simp [hnil]
      · simp [hline]
    | cons c body => exact hs
  | @char c after hq hc =>
    refine .char hq fun hslash => ?_
    exact ⟨fun ha => (hc hslash).1 (hf.head? (by decide) ha),
      fun ha => (hc hslash).2 (hf.head? (by decide) ha)⟩

/-- A segment has at least one character. -/
theorem Leads.text_ne_nil {segment : Segment} {after : Text} (h : Leads segment after) :
    segment.text ≠ [] := by
  cases h with
  | literal => exact List.append_ne_nil_of_left_ne_nil (Quote.mark_ne_nil _) _
  | _ => exact List.cons_ne_nil _ _

end Segment

open Segment (Leads)

/-- A segment in front of a text it is led by is cut off the text. -/
theorem segments_append {segment : Segment} {after : Text} (h : Leads segment after) :
    segments (segment.text ++ after) = segment :: segments after := by
  obtain ⟨c, rest, hs⟩ := List.exists_cons_of_ne_nil
    (List.append_ne_nil_of_left_ne_nil h.text_ne_nil after)
  rw [hs, segments_cons, h.first_eq hs]

/-- **Induction on the segments of a text.** -/
@[elab_as_elim]
theorem segments_induction {P : Text → Prop} (nil : P [])
    (append : ∀ segment after, Leads segment after → P after → P (segment.text ++ after))
    (s : Text) : P s := by
  induction hn : s.length using Nat.strongRecOn generalizing s with
  | ind n ih =>
    cases s with
    | nil => exact nil
    | cons c rest =>
      have hlt := Segment.length_first_lt c rest
      rw [← Segment.first_append c rest]
      exact append _ _ (Segment.leads_first c rest) (ih _ (hn ▸ hlt) _ rfl)

/-- The first of the segments of a text leads the others. -/
theorem eq_of_segments {s : Text} {segment : Segment} {others : List Segment}
    (h : segments s = segment :: others) :
    ∃ after, s = segment.text ++ after ∧ Leads segment after ∧ segments after = others := by
  cases s with
  | nil => simp at h
  | cons c rest =>
    rw [segments_cons] at h
    obtain ⟨rfl, rfl⟩ := List.cons.inj h
    exact ⟨_, (Segment.first_append c rest).symm, Segment.leads_first c rest, rfl⟩

/-! ## Boundaries -/

/-- **A boundary**: both sides of the place between `s` and `t` are cut by themselves. -/
def Joint (s t : Text) : Prop := segments (s ++ t) = segments s ++ segments t

namespace Joint

variable {s t u : Text}

@[simp] theorem nil_left (t : Text) : Joint [] t := by simp [Joint]

@[simp] theorem nil_right (s : Text) : Joint s [] := by simp [Joint]

/-- **The segments in front of a place show a boundary** when they end there. -/
theorem of_segments {front back : List Segment} (h : segments (s ++ t) = front ++ back)
    (hs : front.flatMap Segment.text = s) : Joint s t := by
  -- The segments are taken away one by one: each is led by the rest of them.
  induction front generalizing s with
  | nil =>
    rw [← hs]
    exact nil_left t
  | cons segment front ih =>
    obtain ⟨after, hafter, hlead, hsegs⟩ := eq_of_segments (h.trans (List.cons_append ..))
    rw [List.flatMap_cons] at hs
    rw [← hs, List.append_assoc, List.append_cancel_left_eq] at hafter
    have hjoint : Joint (front.flatMap Segment.text) t := ih (by rw [hafter, hsegs]) rfl
    have hlead' : Leads segment (front.flatMap Segment.text) :=
      hlead.of_follows (hafter ▸ Follows.of_append _ _)
    rw [Joint, ← hs, segments_append hlead', List.append_assoc, hafter, segments_append hlead,
      ← hafter, hjoint, List.cons_append]

/-- A boundary behind the first segment of a text is a boundary of what follows the segment. -/
theorem of_segment_append {segment : Segment} (hlead : Leads segment s)
    (h : Joint (segment.text ++ s) t) : Leads segment (s ++ t) ∧ Joint s t := by
  rw [Joint, segments_append hlead, List.append_assoc, List.cons_append] at h
  obtain ⟨after, hafter, hlead', hsegs⟩ := eq_of_segments h
  rw [List.append_cancel_left_eq] at hafter
  rw [hafter]
  exact ⟨hlead', by rw [Joint, hafter, hsegs]⟩

/-- **A boundary outlives a change of the text behind it**, as long as that text starts alike. -/
theorem swap {t' : Text} (h : Joint s t) (hf : Follows t t') : Joint s t' := by
  induction s using segments_induction with
  | nil => exact nil_left t'
  | append segment after hlead ih =>
    obtain ⟨hlead', hjoint⟩ := h.of_segment_append hlead
    have hfollows : Follows (after ++ t) (after ++ t') := by
      cases after with
      | nil => exact hf
      | cons c after => exact .inr (.inl rfl)
    rw [Joint, List.append_assoc, segments_append (hlead'.of_follows hfollows), ih hjoint,
      segments_append hlead, List.cons_append]

/-- Of two boundaries the first one is a boundary of the whole text, and the second one of what
stands behind the first. -/
theorem split (h₁ : Joint s t) (h₂ : Joint (s ++ t) u) : Joint s (t ++ u) ∧ Joint t u := by
  have hsegs : segments (s ++ (t ++ u)) = segments s ++ (segments t ++ segments u) := by
    rw [← List.append_assoc, h₂, h₁, List.append_assoc]
  have hs : Joint s (t ++ u) := of_segments hsegs (flatMap_text_segments s)
  refine ⟨hs, ?_⟩
  rw [hs, List.append_cancel_left_eq] at hsegs
  exact hsegs

/-- A boundary behind a boundary is a boundary of the whole text. -/
theorem trans (h₁ : Joint s (t ++ u)) (h₂ : Joint t u) : Joint (s ++ t) u := by
  have hsegs : segments (s ++ t ++ u) = (segments s ++ segments t) ++ segments u := by
    rw [List.append_assoc, h₁, h₂, List.append_assoc]
  refine of_segments hsegs ?_
  rw [List.flatMap_append, flatMap_text_segments, flatMap_text_segments]

/-- Cleaning keeps boundaries. -/
theorem clean_append (h : Joint s t) : clean (s ++ t) = clean s ++ clean t := by
  rw [clean, h, List.flatMap_append, clean, clean]

end Joint

/-- Cleaning changes the first character only where a comment starts. -/
theorem head?_clean (s : Text) :
    (clean s).head? = s.head? ∨ s.head? = some '/' ∧ (clean s).head? = some ' ' := by
  -- The first segment tells the first character, and only a comment is cleaned.
  cases hs : segments s with
  | nil =>
    have hnil := flatMap_text_segments s
    rw [hs] at hnil
    rw [← hnil]
    exact .inl (by simp [clean])
  | cons segment others =>
    obtain ⟨after, rfl, hlead, -⟩ := eq_of_segments hs
    have hclean : clean (segment.text ++ after) = segment.cleaned ++ clean after := by
      rw [clean, segments_append hlead, List.flatMap_cons, clean]
    rw [hclean]
    cases hlead with
    | @literal q => exact .inl (by cases q <;> rfl)
    | block => exact .inr ⟨rfl, rfl⟩
    | doc => exact .inl rfl
    | line => exact .inr ⟨rfl, rfl⟩
    | char => exact .inl rfl

/-- The cleaned text may stand behind a segment in place of the text. -/
theorem follows_clean (s : Text) : Follows s (clean s) := by
  rcases head?_clean s with h | ⟨hs, hc⟩
  · exact .inr (.inl h)
  · exact .inr (.inr ⟨'/', ' ', hs, hc, by decide, by decide⟩)

/-! ## Solid texts -/

/-- A text that no segment runs out of, whatever follows it. -/
def Solid (s : Text) : Prop := ∀ t, Joint s t

namespace Solid

variable {s t : Text}

/-- An empty text ends nowhere inside a segment. -/
@[simp] theorem nil : Solid [] := Joint.nil_left

/-- Two solid texts are solid together. -/
theorem append (hs : Solid s) (ht : Solid t) : Solid (s ++ t) := fun u => (hs (t ++ u)).trans (ht u)

/-- A segment that leads every text is solid. -/
theorem of_leads {segment : Segment} (h : ∀ after, Leads segment after) : Solid segment.text := by
  intro t
  have hnil := segments_append (h [])
  rw [List.append_nil, segments_nil] at hnil
  rw [Joint, segments_append (h t), hnil, List.singleton_append]

/-- A character that is no quote and no slash is solid. -/
theorem singleton {c : Char} (hq : isQuoteChar c = false) (hc : c ≠ '/') : Solid [c] :=
  @of_leads (.char c) fun _ => .char hq fun h => absurd h hc

end Solid

/-- **Behind a character that is solid starts a new segment**, when one starts with it. -/
theorem Joint.snoc {s t : Text} {c : Char} (h : Joint s (c :: t)) (hc : Solid [c]) :
    Solid (s ++ [c]) := by
  intro u
  have hs : Joint s ([c] ++ u) := h.swap (.inr (.inl rfl))
  exact hs.trans (hc u)

end SchemaDiagram
