import Mathlib.Algebra.Group.Nat.Even
import SchemaDiagram.Declaration.Endpoint
import SchemaDiagram.Proofs.PartItems

/-! # Lists of names

The columns of a reference or of an index stand between commas, and each may stand between quotes.
The list is cut at all its commas, those between quotes among them. So a list is read back when no
name holds a comma. Where one does, the cut goes through its quotes: some piece of the list has an
odd number of them, and the name that is read from it keeps one.

* **`inQuotes m t`** — a text between two quotes; `unquote_inQuotes` takes them off.
* **`even_count_of_unquote`** — taking quotes off leaves none only where they come in pairs.
* **`listedNames_join`** — names without commas are read back.
* **`even_count_of_comma`**, **`not_mem_comma_of_listedNames`** — names are read without quotes only
  when every comma stands outside quotes. -/

namespace SchemaDiagram

namespace Text

/-! ## Parts and separators -/

/-- A text that is cut at a separator. -/
theorem splitOn_append (sep : Char) (s t : Text) :
    splitOn sep (s ++ sep :: t) = splitOn sep s ++ splitOn sep t := by
  induction s with
  | nil => simp [splitOn]
  | cons c s ih =>
    rw [List.cons_append, splitOn, splitOn, ih]
    split
    next => rfl
    next =>
      cases hs : splitOn sep s with
      | nil => exact absurd hs (splitOn_ne_nil sep s)
      | cons part parts => rfl

/-- A text without the separator is one part. -/
theorem splitOn_of_not_mem {sep : Char} {s : Text} (h : sep ∉ s) : splitOn sep s = [s] := by
  induction s with
  | nil => rfl
  | cons c s ih =>
    obtain ⟨hc, hs⟩ := not_or.1 (mt List.mem_cons.2 h)
    rw [splitOn, if_neg (Ne.symm hc), ih hs]

/-- A part stands in the join. -/
theorem infix_join {sep part : Text} {parts : List Text} (h : part ∈ parts) :
    part <:+: join sep parts := by
  induction parts with
  | nil => cases h
  | cons p ps ih =>
    cases ps with
    | nil => rw [List.mem_singleton.1 h]; exact List.infix_refl p
    | cons q ps =>
      rw [join_cons_cons]
      rcases List.mem_cons.1 h with rfl | h
      · exact ⟨[], sep ++ join sep (q :: ps), by simp⟩
      · exact (ih h).trans (List.suffix_append _ _).isInfix

section

variable {m : Char} {sep : Text} {parts : List Text}

/-- A character that comes in pairs in each part comes in pairs in the join. -/
theorem even_count_join (hsep : m ∉ sep) (h : ∀ part ∈ parts, Even (part.count m)) :
    Even ((join sep parts).count m) := by
  induction parts with
  | nil => exact Even.zero
  | cons p ps ih =>
    obtain ⟨hp, hps⟩ := List.forall_mem_cons.1 h
    cases ps with
    | nil => exact hp
    | cons q ps =>
      rw [join_cons_cons, List.count_append, List.count_append, List.count_eq_zero.2 hsep,
        Nat.add_zero]
      exact hp.add (ih hps)

/-- Ahead of a part in a join the character comes in pairs, too. -/
theorem exists_join_of_mem (hsep : m ∉ sep) (h : ∀ part ∈ parts, Even (part.count m)) {part : Text}
    (hmem : part ∈ parts) :
    ∃ ahead behind, join sep parts = ahead ++ (part ++ behind) ∧ Even (ahead.count m) := by
  induction parts with
  | nil => cases hmem
  | cons p ps ih =>
    obtain ⟨hp, hps⟩ := List.forall_mem_cons.1 h
    cases ps with
    | nil =>
      rw [List.mem_singleton.1 hmem]
      exact ⟨[], [], by simp, Even.zero⟩
    | cons q ps =>
      rcases List.mem_cons.1 hmem with rfl | hmem
      · -- The part stands first, and nothing is ahead of it.
        exact ⟨[], sep ++ join sep (q :: ps), by simp [join_cons_cons], Even.zero⟩
      · obtain ⟨ahead, behind, hjoin, heven⟩ := ih hps hmem
        refine ⟨p ++ sep ++ ahead, behind, by simp [join_cons_cons, hjoin], ?_⟩
        -- The gap between the parts does not hold the character, so the two counts ahead add up.
        rw [List.count_append, List.count_append, List.count_eq_zero.2 hsep, Nat.add_zero]
        exact hp.add heven

end

/-- Blanks at the ends hold no other character. -/
theorem count_trim {m : Char} (hm : isBlank m = false) (s : Text) :
    (trim s).count m = s.count m := by
  obtain ⟨lead, trail, hs, hlead, htrail⟩ := exists_eq_trim s
  have hnot : ∀ {b : Text}, AllBlank b → b.count m = 0 := fun hb =>
    List.count_eq_zero.2 fun hmem => by rw [hb m hmem] at hm; cases hm
  conv_rhs => rw [hs, List.count_append, List.count_append, hnot hlead, hnot htrail]
  rw [Nat.zero_add, Nat.add_zero]

end Text

/-! ## Texts between quotes -/

/-- The text between two quotes. -/
def inQuotes (m : Char) (t : Text) : Text := m :: (t ++ [m])

/-- A quoted text starts and ends with its quotes. -/
theorem trimmed_inQuotes {m : Char} (hm : isQuoteChar m = true) (t : Text) :
    Trimmed (inQuotes m t) :=
  have hmark : Trimmed [m] := .singleton (isBlank_of_isQuoteChar hm)
  hmark.around (List.cons_ne_nil _ _) hmark (List.cons_ne_nil _ _) t

/-- A text in quotes has its mark twice. -/
theorem even_count_inQuotes {m : Char} {t : Text} (ht : m ∉ t) : Even ((inQuotes m t).count m) := by
  rw [inQuotes, List.count_cons_self, List.count_append, List.count_eq_zero.2 ht,
    List.count_singleton_self]
  exact ⟨1, rfl⟩

/-- What is enclosed stands between two marks. -/
theorem Quote.exists_of_encloses {q : Quote} {s : Text} (h : q.encloses s = true) :
    ∃ t, s = q.mark ++ (t ++ q.mark) := by
  rw [encloses, Bool.and_eq_true, Bool.and_eq_true, decide_eq_true_eq] at h
  obtain ⟨⟨hlen, hprefix⟩, hsuffix⟩ := h
  obtain ⟨r, rfl⟩ := List.isPrefixOf_iff_prefix.1 hprefix
  rw [List.length_append] at hlen
  obtain ⟨t, rfl⟩ := List.suffix_of_suffix_length_le (List.isSuffixOf_iff_suffix.1 hsuffix)
    (List.suffix_append q.mark r) (by omega)
  exact ⟨t, rfl⟩

/-- What stands between two marks is cut out. -/
theorem slice_between (mark t : Text) :
    (mark ++ (t ++ mark)).slice mark.length ((mark ++ (t ++ mark)).length - mark.length) = t := by
  have hlen : (mark ++ (t ++ mark)).length - mark.length - mark.length = t.length := by
    simp only [List.length_append]
    omega
  rw [Text.slice, hlen, List.drop_left, List.take_left]

/-- A text has no quotes around it, or it is taken out from between two marks. -/
theorem unquote_cases (s : Text) :
    unquote s = s ∨ ∃ q : Quote, ∃ t, s = q.mark ++ (t ++ q.mark) ∧ unquote s = t := by
  rw [unquote]
  split
  next q hq =>
    have hencloses := List.find?_some (p := fun r : Quote => r.encloses s) hq
    obtain ⟨t, rfl⟩ := Quote.exists_of_encloses hencloses
    exact .inr ⟨q, t, rfl, slice_between q.mark t⟩
  next => exact .inl rfl

/-- **Taking quotes off leaves none** only where they come in pairs. -/
theorem even_count_of_unquote {m : Char} {s : Text} (h : m ∉ unquote s) : Even (s.count m) := by
  rcases unquote_cases s with heq | ⟨q, t, hs, heq⟩
  · rw [heq] at h
    rw [List.count_eq_zero.2 h]
    exact Even.zero
  · rw [heq] at h
    rw [hs, List.count_append, List.count_append, List.count_eq_zero.2 h, Nat.zero_add]
    exact Even.add_self _

/-- A mark of one character encloses the texts between that character. -/
theorem Quote.encloses_inQuotes {q : Quote} {d : Char} (hq : q.mark = [d]) (m : Char) (t : Text) :
    q.encloses (inQuotes m t) = decide (d = m) := by
  have hlen : 2 * q.mark.length ≤ (inQuotes m t).length := by
    simp only [hq, inQuotes, List.length_cons, List.length_append, List.length_nil]
    omega
  rw [encloses, decide_eq_true hlen, Bool.true_and, hq]
  by_cases hd : d = m
  · subst hd
    have hsuffix : [d] <:+ inQuotes d t := ⟨d :: t, rfl⟩
    rw [List.isSuffixOf_iff_suffix.2 hsuffix]
    simp [inQuotes]
  · simp [inQuotes, hd]

/-- **The quotes of a quoted text are taken off**, unless they belong to a longer mark. -/
theorem unquote_inQuotes {m : Char} {t : Text} (hm : isQuoteChar m = true)
    (ht : ¬ Quote.triple.mark <+: inQuotes m t) : unquote (inQuotes m t) = t := by
  -- The longest mark is tried first, and by assumption it does not enclose the text.
  have htriple : Quote.triple.encloses (inQuotes m t) = false := by
    rw [Quote.encloses, Bool.and_assoc, Bool.and_eq_false_iff, Bool.and_eq_false_iff]
    exact .inr (.inl (Bool.eq_false_iff.2 (mt List.isPrefixOf_iff_prefix.1 ht)))
  have hsingle := Quote.encloses_inQuotes (q := .single) rfl m t
  have hdouble := Quote.encloses_inQuotes (q := .double) rfl m t
  have hbacktick := Quote.encloses_inQuotes (q := .backtick) rfl m t
  -- Of the three short marks the one that encloses the text is the one it was written with.
  have hfind : ∃ q : Quote, Quote.all.find? (·.encloses (inQuotes m t)) = some q ∧
      q.mark = [m] := by
    simp only [isQuoteChar, Bool.or_eq_true, decide_eq_true_eq] at hm
    simp only [Quote.all, List.find?_cons, htriple, hsingle, hdouble, hbacktick]
    rcases hm with (rfl | rfl) | rfl
    · exact ⟨.single, rfl, rfl⟩
    · exact ⟨.double, rfl, rfl⟩
    · exact ⟨.backtick, rfl, rfl⟩
  obtain ⟨q, hq, hmark⟩ := hfind
  rw [unquote, hq]
  dsimp only
  rw [hmark]
  exact slice_between [m] t

/-! ## Lists -/

/-- What stands between the parts of a list that is written. -/
def listGap : Text := ", "

/-- A list that is cut at a comma. -/
theorem listedNames_append (s t : Text) :
    listedNames (s ++ ',' :: t) = listedNames s ++ listedNames t := by
  simp only [listedNames, Text.splitOn_append, List.map_append, List.filter_append]

/-- A blank at the start of a list does not count. -/
theorem listedNames_space (s : Text) : listedNames (' ' :: s) = listedNames s := by
  have hsplit : (Text.splitOn ',' (' ' :: s)).map Text.trim
      = (Text.splitOn ',' s).map Text.trim := by
    rw [Text.splitOn, if_neg (by decide)]
    cases hs : Text.splitOn ',' s with
    | nil => exact absurd hs (Text.splitOn_ne_nil ',' s)
    | cons part parts => rfl
  rw [listedNames, listedNames, hsplit]

/-- **Names without commas are read back**, in their order. -/
theorem listedNames_join {parts : List Text} (h : ∀ p ∈ parts, p ≠ [] ∧ Trimmed p ∧ ',' ∉ p) :
    listedNames (Text.join listGap parts) = parts.map unquote := by
  -- A single name without a comma is a list of one.
  have hone : ∀ p ∈ parts, listedNames p = [unquote p] := by
    intro p hp
    obtain ⟨hne, htrim, hcomma⟩ := h p hp
    simp [listedNames, Text.splitOn_of_not_mem hcomma, Text.trim_eq_self htrim, hne]
  clear h
  induction parts with
  | nil => rfl
  | cons p ps ih =>
    obtain ⟨hp, hps⟩ := List.forall_mem_cons.1 hone
    cases ps with
    | nil => exact hp
    | cons q ps =>
      -- The gap is a comma and a blank, and the blank is trimmed off the next name.
      have hjoin : Text.join listGap (p :: q :: ps)
          = p ++ ',' :: ' ' :: Text.join listGap (q :: ps) := by
        rw [Text.join_cons_cons, listGap, List.append_assoc]
        rfl
      rw [hjoin, listedNames_append, listedNames_space, hp, ih hps]
      rfl

section

variable {m : Char} {s : Text}

/-- Names are read without quotes only from pieces that hold pairs of them. -/
theorem even_count_of_mem_splitOn (hm : isQuoteChar m = true) (h : ∀ name ∈ listedNames s, m ∉ name)
    {p : Text} (hp : p ∈ Text.splitOn ',' s) : Even (p.count m) := by
  rw [← Text.count_trim (isBlank_of_isQuoteChar hm)]
  -- A piece of blanks only is left out of the names.
  by_cases hnil : p.trim = []
  · rw [hnil]
    exact Even.zero
  · refine even_count_of_unquote (h _ (List.mem_map_of_mem ?_))
    exact List.mem_filter.2 ⟨List.mem_map_of_mem hp, by simpa using hnil⟩

/-- A quote is no comma. -/
theorem not_mem_comma_of_isQuoteChar (hm : isQuoteChar m = true) : m ∉ [','] := by
  rw [List.mem_singleton]
  rintro rfl
  cases hm

/-- **Names are read without quotes** only from a list that holds pairs of them, -/
theorem even_count_of_listedNames (hm : isQuoteChar m = true)
    (h : ∀ name ∈ listedNames s, m ∉ name) :
    Even (s.count m) := by
  rw [← Text.join_splitOn ',' s]
  exact Text.even_count_join (not_mem_comma_of_isQuoteChar hm) fun p hp =>
    even_count_of_mem_splitOn hm h hp

/-- and that does so ahead of each comma. -/
theorem even_count_of_comma (hm : isQuoteChar m = true) {t : Text}
    (h : ∀ name ∈ listedNames (s ++ ',' :: t), m ∉ name) : Even (s.count m) := by
  refine even_count_of_listedNames hm fun name hname => h name ?_
  rw [listedNames_append]
  exact List.mem_append_left _ hname

/-- **A comma between quotes leaves a quote** in a name that is read. -/
theorem not_mem_comma_of_listedNames (hm : isQuoteChar m = true) {parts : List Text}
    (hparts : ∀ p ∈ parts, Even (p.count m))
    (h : ∀ name ∈ listedNames (Text.join listGap parts), m ∉ name) {t : Text} (ht : m ∉ t)
    (hmem : inQuotes m t ∈ parts) : ',' ∉ t := by
  intro hcomma
  obtain ⟨front, back, rfl⟩ := List.append_of_mem hcomma
  have hgap : m ∉ listGap := fun hgap => by
    have hall : listGap.all (!isQuoteChar ·) = true := by decide
    have hnot := List.all_eq_true.1 hall m hgap
    rw [hm] at hnot
    cases hnot
  obtain ⟨ahead, behind, hjoin, heven⟩ := Text.exists_join_of_mem hgap hparts hmem
  -- Ahead of the comma stands one quote more than in the parts before, which come in pairs.
  have hcut : Text.join listGap parts = (ahead ++ m :: front) ++ ',' :: (back ++ m :: behind) := by
    rw [hjoin, inQuotes]
    simp
  rw [hcut] at h
  have hodd := even_count_of_comma hm h
  rw [List.count_append, List.count_cons_self,
    List.count_eq_zero.2 fun hf => ht (List.mem_append_left _ hf), Nat.even_add] at hodd
  exact absurd (hodd.1 heven) (by decide)

end

end SchemaDiagram
