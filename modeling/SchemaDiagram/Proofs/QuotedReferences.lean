import SchemaDiagram.Declaration.Reference
import SchemaDiagram.Proofs.TopLevel

/-! # References between quoted names

A reference is written with every part of its two ends between double quotes: the parts of the name
of the table, and its column or columns. The bracket of a settings list, the operator and the dots
are looked for outside quotes, so that a name may hold any of their characters. The list of several
columns is not: it starts behind the last `.(` of the path, and it is cut at all its commas.

* **`NamedEnd`** — an end of a reference by its names; `NamedEnd.path` is how it is written.
* **`NamedEnd.IsListable`** — one column, or columns without commas and without `.(`.
* **`NamedEnd.read?_path`**, **`NamedEnd.isListable_of_read?`** — an end is read back when it is
  listable, and only then.
* **`readReference_namedEnds`** — and so is the reference between two ends. -/

namespace SchemaDiagram

/-! ## Dotted paths -/

/-- Unquoting takes the quotes away again. -/
theorem unquote_doubleQuoted (t : Text) : unquote (inQuotes '"' t) = t :=
  unquote_inQuotes rfl (by simp [Quote.mark, inQuotes])

/-- Dots between quotes do not cut a path. -/
theorem dottedPartsFrom_inQuotes {t w part : Text} {parts : List Text} (ht : '"' ∉ t)
    (h : dottedPartsFrom false w = part :: parts) :
    dottedPartsFrom false (inQuotes '"' t ++ w) = (inQuotes '"' t ++ part) :: parts := by
  -- Between the quotes a dot is a character as any other.
  have hinside : dottedPartsFrom true (t ++ '"' :: w) = (t ++ '"' :: part) :: parts := by
    induction t with
    | nil => simp [dottedPartsFrom, h]
    | cons c t ih =>
      obtain ⟨hc, ht⟩ := not_or.1 (mt List.mem_cons.2 ht)
      rw [List.cons_append, dottedPartsFrom]
      simp [Ne.symm hc, ih ht]
  have htext : ∀ s : Text, inQuotes '"' t ++ s = '"' :: (t ++ '"' :: s) :=
    fun s => by simp [inQuotes]
  rw [htext, htext, dottedPartsFrom]
  simp [hinside]

/-- A dot outside quotes cuts a path. -/
theorem dottedPartsFrom_dot (s : Text) :
    dottedPartsFrom false ('.' :: s) = [] :: dottedPartsFrom false s := by
  simp [dottedPartsFrom]

section

variable {names : List Text}

/-- The parts of a path of quoted names. -/
theorem dottedParts_join (hne : names ≠ []) (h : ∀ name ∈ names, '"' ∉ name) :
    dottedParts (Text.join ['.'] (names.map (inQuotes '"'))) = names.map (inQuotes '"') := by
  have hparts : dottedPartsFrom false (Text.join ['.'] (names.map (inQuotes '"')))
      = names.map (inQuotes '"') := by
    induction names with
    | nil => exact absurd rfl hne
    | cons name names ih =>
      obtain ⟨hname, hnames⟩ := List.forall_mem_cons.1 h
      cases names with
      | nil =>
        have hone := dottedPartsFrom_inQuotes (w := []) hname rfl
        rwa [List.append_nil] at hone
      | cons next names =>
        -- The dot behind the first name is outside quotes, so it cuts.
        have hdot := dottedPartsFrom_dot (Text.join ['.'] ((next :: names).map (inQuotes '"')))
        rw [ih (List.cons_ne_nil _ _) hnames] at hdot
        have hparts := dottedPartsFrom_inQuotes hname hdot
        rw [List.append_nil] at hparts
        rw [List.map_cons, List.map_cons, Text.join_cons_cons, List.append_assoc]
        exact hparts
  rw [dottedParts, hparts, List.map_map]
  exact List.map_congr_left fun name _ => Text.trim_eq_self (trimmed_inQuotes rfl name)

/-- A path of quoted names stands between double quotes itself. -/
theorem exists_join_eq_inQuotes (hne : names ≠ []) :
    ∃ inner, Text.join ['.'] (names.map (inQuotes '"')) = inQuotes '"' inner := by
  induction names with
  | nil => exact absurd rfl hne
  | cons name names ih =>
    cases names with
    | nil => exact ⟨name, rfl⟩
    | cons next names =>
      obtain ⟨inner, hinner⟩ := ih (List.cons_ne_nil _ _)
      rw [List.map_cons, List.map_cons, Text.join_cons_cons, ← List.map_cons, hinner]
      exact ⟨name ++ '"' :: '.' :: '"' :: inner, by simp [inQuotes]⟩

/-- Unquoting takes the quotes of every name away again. -/
theorem map_unquote_inQuotes (names : List Text) :
    (names.map (inQuotes '"')).map unquote = names := by
  rw [List.map_map]
  exact List.map_id'' unquote_doubleQuoted names

end

/-! ## Lists of quoted columns -/

/-- The columns of a list, each between double quotes. -/
def columnList (columns : List Text) : Text := Text.join listGap (columns.map (inQuotes '"'))

/-- Dots stand between quotes only. -/
def QuotesDots (s : Text) : Prop :=
  ∀ ahead behind, s = ahead ++ '.' :: behind → ¬ Even (ahead.count '"')

/-- The dots of two texts stand in quotes, if the quotes of the first one are closed. -/
theorem QuotesDots.append {s t : Text} (hs : QuotesDots s) (heven : Even (s.count '"'))
    (ht : QuotesDots t) : QuotesDots (s ++ t) := by
  intro ahead behind heq
  rcases List.append_eq_append_iff.1 heq with ⟨mid, rfl, hmid⟩ | ⟨mid, rfl, hmid⟩
  · rw [List.count_append, Nat.even_add]
    exact fun h => ht mid behind hmid (h.1 heven)
  · cases mid with
    | nil =>
      rw [List.append_nil] at heven
      exact absurd Even.zero (ht [] behind hmid.symm)
    | cons c mid =>
      obtain rfl : '.' = c := (List.cons.inj hmid).1
      exact hs ahead mid rfl

/-- The dots of a quoted text stand in its quotes. -/
theorem quotesDots_inQuotes {t : Text} (ht : '"' ∉ t) : QuotesDots (inQuotes '"' t) := by
  intro ahead behind heq
  cases ahead with
  | nil => exact absurd (List.cons.inj heq).1 (by decide)
  | cons c ahead =>
    obtain ⟨rfl, htail⟩ := List.cons.inj heq
    -- The quotes ahead of a dot inside are the opening one only.
    have hnot : '"' ∉ ahead := by
      rcases List.append_eq_append_iff.1 htail with ⟨mid, rfl, hmid⟩ | ⟨mid, rfl, -⟩
      · cases mid with
        | nil => simpa using ht
        | cons d mid => simp at hmid
      · exact fun hmem => ht (List.mem_append_left _ hmem)
    rw [List.count_cons_self, List.count_eq_zero.2 hnot]
    decide

section

variable {columns : List Text} (h : ∀ column ∈ columns, '"' ∉ column)

include h

/-- The quotes of a list of columns come in pairs. -/
theorem even_count_columnList : Even ((columnList columns).count '"') :=
  Text.even_count_join (by decide) (List.forall_mem_map.2 fun column hcolumn =>
    even_count_inQuotes (h column hcolumn))

/-- The dots of a list of columns stand in quotes. -/
theorem quotesDots_columnList : QuotesDots (columnList columns) := by
  -- The gap between columns has no dot at all.
  have hgap : QuotesDots listGap := by
    intro ahead behind heq
    have hmem : '.' ∈ listGap := by rw [heq]; simp
    exact absurd hmem (by decide)
  induction columns with
  | nil => intro ahead behind heq; simp [columnList] at heq
  | cons column columns ih =>
    obtain ⟨hcolumn, hcolumns⟩ := List.forall_mem_cons.1 h
    cases columns with
    | nil => exact quotesDots_inQuotes hcolumn
    | cons next columns =>
      rw [columnList, List.map_cons, List.map_cons, Text.join_cons_cons, ← List.map_cons]
      have heven := even_count_inQuotes hcolumn
      refine ((quotesDots_inQuotes hcolumn).append heven hgap).append ?_ (ih hcolumns)
      -- Behind a quoted column and a gap the quotes are even, so the next column is outside.
      rw [List.count_append]
      exact heven.add ⟨0, by decide⟩

end

/-- Two characters side by side in a text that is put together stand in one of its halves, or at the
seam. -/
theorem pair_infix_append {a b : Char} {s t : Text} (h : [a, b] <:+: s ++ t) :
    [a, b] <:+: s ∨ [a, b] <:+: t ∨ s.getLast? = some a ∧ t.head? = some b := by
  induction s with
  | nil => exact .inr (.inl h)
  | cons c s ih =>
    -- The two start at the first character, whose half decides where the second one is.
    rcases List.infix_cons_iff.1 h with hstart | hrest
    · cases s with
      | nil =>
        obtain ⟨rfl, rest, rfl⟩ := List.cons_prefix_cons.1 hstart
        exact .inr (.inr ⟨rfl, rfl⟩)
      | cons d s =>
        obtain ⟨hc, hstart⟩ := List.cons_prefix_cons.1 hstart
        obtain ⟨hd, -⟩ := List.cons_prefix_cons.1 hstart
        exact .inl ⟨[], s, by rw [hc, hd]; rfl⟩
    · -- They stand further on, and the induction says where.
      rcases ih hrest with hs | ht | ⟨hlast, hhead⟩
      · exact .inl (List.infix_cons hs)
      · exact .inr (.inl ht)
      · refine .inr (.inr ⟨?_, hhead⟩)
        rw [List.getLast?_cons, hlast, Option.getD_some]

/-- The mark that opens a list of columns. -/
def listMark : Text := ".("

/-- The mark of a list of columns in a quoted text stands in the text itself. -/
theorem listMark_infix_inQuotes {t : Text} (h : listMark <:+: inQuotes '"' t) :
    listMark <:+: t := by
  rcases List.infix_cons_iff.1 h with hstart | hrest
  · exact absurd (List.cons_prefix_cons.1 hstart).1 (by decide)
  · rcases pair_infix_append hrest with ht | hquote | ⟨-, hhead⟩
    · exact ht
    · exact absurd hquote (by decide)
    · exact absurd hhead (by decide)

/-- A list of quoted columns holds its own mark when a column does. -/
theorem listMark_infix_columnList {columns : List Text} (h : listMark <:+: columnList columns) :
    ∃ column ∈ columns, listMark <:+: column := by
  induction columns with
  | nil => exact absurd h (by decide)
  | cons column columns ih =>
    cases columns with
    | nil => exact ⟨column, List.mem_cons_self .., listMark_infix_inQuotes h⟩
    | cons next columns =>
      have hlast : (inQuotes '"' column).getLast? = some '"' := by
        rw [inQuotes, ← List.cons_append, List.getLast?_concat]
      rw [columnList, List.map_cons, List.map_cons, Text.join_cons_cons, ← List.map_cons] at h
      -- At the seams stand a quote and a blank, and no dot.
      rcases pair_infix_append h with hfront | hrest | ⟨hgap, -⟩
      · rcases pair_infix_append hfront with hcolumn | hgap | ⟨hquote, -⟩
        · exact ⟨column, List.mem_cons_self .., listMark_infix_inQuotes hcolumn⟩
        · exact absurd hgap (by decide)
        · rw [hlast] at hquote
          cases hquote
      · obtain ⟨found, hmem, hmark⟩ := ih hrest
        exact ⟨found, List.mem_cons_of_mem _ hmem, hmark⟩
      · rw [List.getLast?_append, show listGap.getLast? = some ' ' by decide] at hgap
        cases hgap

/-- Every column stands in the list of the columns. -/
theorem infix_columnList {columns : List Text} {column : Text} (h : column ∈ columns) :
    column <:+: columnList columns := by
  have hquoted : column <:+: inQuotes '"' column := ⟨['"'], ['"'], rfl⟩
  exact hquoted.trans (Text.infix_join (List.mem_map_of_mem h))

/-! ## Ends by their names -/

/-- An end of a reference by its names. -/
structure NamedEnd where
  /-- The parts of the name of the table. -/
  segments : List Text
  /-- The columns. -/
  columns : List Text
  /-- The table has a name. -/
  segments_ne_nil : segments ≠ []
  /-- There is a column. -/
  columns_ne_nil : columns ≠ []
  /-- No name is empty or holds a double quote. -/
  names : ∀ name ∈ segments ++ columns, name ≠ [] ∧ '"' ∉ name

namespace NamedEnd

/-- The name of the table. -/
def table (e : NamedEnd) : Text := Text.join ['.'] e.segments

/-- The name of the table with its parts between double quotes. -/
def tablePath (e : NamedEnd) : Text := Text.join ['.'] (e.segments.map (inQuotes '"'))

/-- The end as it is written, with every name between double quotes. -/
def path (e : NamedEnd) : Text :=
  match e.columns with
  | [column] => Text.join ['.'] ((e.segments ++ [column]).map (inQuotes '"'))
  | columns => e.tablePath ++ (listMark ++ (columnList columns ++ [')']))

/-- One column, or columns whose names hold neither a comma nor the mark of a list. -/
def IsListable (e : NamedEnd) : Prop :=
  e.columns.length = 1 ∨ ∀ column ∈ e.columns, ',' ∉ column ∧ ¬ listMark <:+: column

variable (e : NamedEnd)

/-- No quote stands in a segment of a path. -/
theorem not_mem_of_segment {name : Text} (h : name ∈ e.segments) : '"' ∉ name :=
  (e.names name (List.mem_append_left _ h)).2

/-- No quote stands in a column. -/
theorem not_mem_of_column {name : Text} (h : name ∈ e.columns) : '"' ∉ name :=
  (e.names name (List.mem_append_right _ h)).2

/-- A single column is the last segment of a path. -/
theorem path_of_single {column : Text} (h : e.columns = [column]) :
    e.path = Text.join ['.'] ((e.segments ++ [column]).map (inQuotes '"')) := by
  rw [path, h]

/-- Several columns stand in parentheses behind the table. -/
theorem path_of_several (h : e.columns.length ≠ 1) :
    e.path = e.tablePath ++ (listMark ++ (columnList e.columns ++ [')'])) := by
  rw [path]
  split
  next column heq => simp [heq] at h
  next => rfl

/-- A path starts with a quote, and ends with one or with a parenthesis. -/
theorem exists_path_eq :
    ∃ inner close, e.path = '"' :: (inner ++ [close]) ∧ isBlank close = false := by
  by_cases hone : e.columns.length = 1
  · obtain ⟨column, hcolumn⟩ := List.length_eq_one_iff.1 hone
    have hne : e.segments ++ [column] ≠ [] := by simp
    obtain ⟨inner, hinner⟩ := exists_join_eq_inQuotes hne
    rw [e.path_of_single hcolumn, hinner]
    exact ⟨inner, '"', rfl, rfl⟩
  · obtain ⟨inner, hinner⟩ := exists_join_eq_inQuotes e.segments_ne_nil
    rw [e.path_of_several hone, tablePath, hinner]
    exact ⟨inner ++ '"' :: (listMark ++ columnList e.columns), ')', by simp [inQuotes], rfl⟩

/-- A path is not empty. -/
theorem path_ne_nil : e.path ≠ [] := by
  obtain ⟨inner, close, hpath, -⟩ := e.exists_path_eq
  rw [hpath]
  exact List.cons_ne_nil _ _

/-- No blank stands at the ends of a path. -/
theorem trimmed_path : Trimmed e.path := by
  obtain ⟨inner, close, hpath, hclose⟩ := e.exists_path_eq
  rw [hpath]
  exact Trimmed.around (a := ['"']) (.singleton (by decide)) (List.cons_ne_nil _ _)
    (.singleton hclose)
    (List.cons_ne_nil _ _) inner

/-- The table of a path is not empty. -/
theorem table_ne_nil : e.table ≠ [] := by
  obtain ⟨segment, segments, hsegments⟩ := List.exists_cons_of_ne_nil e.segments_ne_nil
  have hne := (e.names segment (by simp [hsegments])).1
  intro hnil
  have hwithin : segment <:+: e.table := Text.infix_join (by simp [hsegments])
  rw [hnil] at hwithin
  exact hne (List.eq_nil_of_infix_nil hwithin)

/-! ## Reading an end -/

/-- The columns that are read from a list are those behind its last mark. -/
theorem cutColumnList?_path (h : e.columns.length ≠ 1) :
    cutColumnList? e.path
      = Text.cutLast listMark (e.tablePath ++ (listMark ++ columnList e.columns)) := by
  have hend : e.path = e.tablePath ++ (listMark ++ columnList e.columns) ++ [')'] := by
    rw [e.path_of_several h]
    simp only [List.append_assoc]
  rw [cutColumnList?, hend, List.getLast?_concat, if_pos rfl, List.dropLast_concat]
  rfl

/-- The last mark of a path with a list of columns: the one in a column, where there is one, and the
one of the list else. -/
theorem cutLast_path :
    (¬ listMark <:+: columnList e.columns ∧
        Text.cutLast listMark (e.tablePath ++ (listMark ++ columnList e.columns))
          = some (e.tablePath, columnList e.columns)) ∨
      ∃ front back ahead, columnList e.columns = front ++ listMark ++ back ∧
        Text.cutLast listMark (e.tablePath ++ (listMark ++ columnList e.columns))
          = some (ahead, back) := by
  have hmark : listMark ≠ [] := by decide
  by_cases hwithin : listMark <:+: columnList e.columns
  · obtain ⟨⟨front, back⟩, hcut⟩ := Option.ne_none_iff_exists'.1
      (mt (Text.cutLast_eq_none_iff hmark).1 (not_not_intro hwithin))
    have happ := Text.cutLast_append hcut (e.tablePath ++ listMark)
    rw [List.append_assoc] at happ
    exact .inr ⟨front, back, _, Text.eq_of_cutLast hcut, happ⟩
  · -- The mark of the list is not followed by another one.
    have hrest : Text.cutLast listMark ('(' :: columnList e.columns) = none := by
      rw [Text.cutLast_eq_none_iff hmark, List.infix_cons_iff, not_or]
      exact ⟨fun hstart => absurd (List.cons_prefix_cons.1 hstart).1 (by decide), hwithin⟩
    have hone : Text.cutLast listMark (listMark ++ columnList e.columns)
        = some ([], columnList e.columns) := by
      change Text.cutLast listMark ('.' :: '(' :: columnList e.columns) = _
      rw [Text.cutLast, hrest]
      rfl
    have happ := Text.cutLast_append hone e.tablePath
    rw [List.append_nil] at happ
    exact .inl ⟨hwithin, happ⟩

/-- An end with one column is read back. -/
theorem read?_path_of_single {column : Text} (h : e.columns = [column]) :
    Endpoint.read? e.path = some ⟨e.table, e.columns⟩ := by
  have hne : e.segments ++ [column] ≠ [] := by simp
  obtain ⟨inner, hinner⟩ := exists_join_eq_inQuotes hne
  -- The path ends with a quote, so that it is not taken for one with a list.
  have hnolist : cutColumnList? e.path = none := by
    rw [e.path_of_single h, hinner, cutColumnList?, inQuotes, ← List.cons_append,
      List.getLast?_concat]
    rfl
  have hnames : ∀ name ∈ e.segments ++ [column], '"' ∉ name := fun name hname =>
    (e.names name (by rwa [h])).2
  have hparts : dottedParts e.path = e.segments.map (inQuotes '"') ++ [inQuotes '"' column] := by
    rw [e.path_of_single h, dottedParts_join (by simp) hnames, List.map_append]
    rfl
  have hlong : ¬ (e.segments.map (inQuotes '"') ++ [inQuotes '"' column]).length < 2 := by
    have hpos := List.length_pos_iff.2 e.segments_ne_nil
    rw [List.length_append, List.length_map, List.length_singleton]
    omega
  have hfull : (e.segments.map (inQuotes '"') ++ [inQuotes '"' column]).any (·.isEmpty)
      = false := by
    rw [List.any_eq_false]
    intro part hpart
    rw [← List.map_singleton, ← List.map_append] at hpart
    obtain ⟨name, -, rfl⟩ := List.mem_map.1 hpart
    simp [inQuotes]
  rw [Endpoint.read?, Text.trim_eq_self e.trimmed_path, hnolist]
  simp only [hparts, List.getLast?_concat, decide_eq_false hlong, hfull, Bool.or_self,
    Bool.false_eq_true, if_false, List.dropLast_concat, map_unquote_inQuotes,
    unquote_doubleQuoted, h]
  rfl

/-- **An end is read back** where it is listable. -/
theorem read?_path (h : e.IsListable) : Endpoint.read? e.path = some ⟨e.table, e.columns⟩ := by
  -- A single column is the last name of the path.
  by_cases hone : e.columns.length = 1
  · obtain ⟨column, hcolumn⟩ := List.length_eq_one_iff.1 hone
    exact e.read?_path_of_single hcolumn
  have hlist := h.resolve_left hone
  -- The mark of the list is found where it was written, since no column holds it.
  have hcut : Text.cutLast listMark (e.tablePath ++ (listMark ++ columnList e.columns))
      = some (e.tablePath, columnList e.columns) := by
    rcases e.cutLast_path with ⟨-, hcut⟩ | ⟨front, back, -, hcolumns, -⟩
    · exact hcut
    · obtain ⟨column, hmem, hmark⟩ := listMark_infix_columnList ⟨front, back, hcolumns.symm⟩
      exact absurd hmark (hlist column hmem).2
  -- The table is cut at its dots, and none of its names is empty.
  have htable : (dottedParts e.tablePath).filter (· != []) = e.segments.map (inQuotes '"') := by
    rw [tablePath, dottedParts_join e.segments_ne_nil fun name hname => e.not_mem_of_segment hname,
      List.filter_eq_self]
    intro part hpart
    obtain ⟨name, -, rfl⟩ := List.mem_map.1 hpart
    rfl
  -- No column holds a comma, so they are read back one by one.
  have hcolumns : listedNames (columnList e.columns) = e.columns := by
    rw [columnList, listedNames_join, map_unquote_inQuotes]
    intro part hpart
    obtain ⟨column, hcolumn, rfl⟩ := List.mem_map.1 hpart
    refine ⟨List.cons_ne_nil _ _, trimmed_inQuotes rfl column, ?_⟩
    simpa [inQuotes] using (hlist column hcolumn).1
  rw [Endpoint.read?, Text.trim_eq_self e.trimmed_path, e.cutColumnList?_path hone, hcut]
  simp only [htable, hcolumns, map_unquote_inQuotes]
  rw [if_neg]
  · rfl
  · simpa [e.columns_ne_nil, table] using e.table_ne_nil

/-- **Only a listable end is read back**: else a column is read with a quote. -/
theorem isListable_of_read? {found : Endpoint} (h : Endpoint.read? e.path = some found)
    (hcolumns : found.columns = e.columns) : e.IsListable := by
  by_cases hone : e.columns.length = 1
  · exact .inl hone
  have hread : ∀ {ahead back}, Text.cutLast listMark
      (e.tablePath ++ (listMark ++ columnList e.columns)) = some (ahead, back) →
      ∀ name ∈ listedNames back, '"' ∉ name := by
    intro ahead back hcut name hname
    rw [Endpoint.read?, Text.trim_eq_self e.trimmed_path, e.cutColumnList?_path hone, hcut] at h
    dsimp only at h
    split at h
    next => cases h
    next =>
      obtain rfl := Option.some.inj h
      exact e.not_mem_of_column (hcolumns ▸ hname)
  have hquotes := even_count_columnList fun _ h => e.not_mem_of_column h
  rcases e.cutLast_path with ⟨hmark, hcut⟩ | ⟨front, back, ahead, hcut, hlast⟩
  · refine .inr fun column hcolumn =>
      ⟨?_, fun hwithin => hmark (hwithin.trans (infix_columnList hcolumn))⟩
    refine not_mem_comma_of_listedNames rfl ?_ (hread hcut) (e.not_mem_of_column hcolumn)
      (List.mem_map_of_mem hcolumn)
    intro part hpart
    obtain ⟨name, hname, rfl⟩ := List.mem_map.1 hpart
    exact even_count_inQuotes (e.not_mem_of_column hname)
  · -- The cut goes through the quotes of a column.
    have hdots := quotesDots_columnList fun _ h => e.not_mem_of_column h
    have hback := even_count_of_listedNames rfl (hread hlast)
    rw [hcut, List.append_assoc] at hquotes hdots
    rw [List.count_append, List.count_append, show listMark.count '"' = 0 by decide, Nat.zero_add,
      Nat.even_add] at hquotes
    exact absurd (hquotes.2 hback) (hdots front ('(' :: back) rfl)

end NamedEnd

/-! ## Lines -/

/-- The operator of a cardinality. -/
def Cardinality.operator : Cardinality → Text
  | .oneToMany => "<"
  | .manyToOne => ">"
  | .oneToOne => "-"
  | .manyToMany => "<>"

/-- A cardinality is read back from its operator. -/
theorem Cardinality.ofOperator_operator (c : Cardinality) : ofOperator c.operator = c := by
  cases c <;> rfl

/-- The characters that stand outside quotes and parentheses beside the operator of a line. -/
def IsPathGap (c : Char) : Prop := c = '.' ∨ isBlank c = true

/-- What stands between a path and an operator is no part of an operator. -/
theorem IsPathGap.not_mem_operatorChars {c : Char} (h : IsPathGap c) : c ∉ operatorChars := by
  have hall : operatorChars.all (fun d => d != '.' && !isBlank d) = true := by decide
  intro hmem
  have hop := List.all_eq_true.1 hall c hmem
  rcases h with rfl | hblank
  · exact absurd hop (by decide)
  · rw [hblank] at hop
    simp at hop

/-- A path shows its dots only. -/
theorem NamedEnd.outer_path (e : NamedEnd) : Outer IsPathGap e.path := by
  -- A quoted name shows no character outside its quotes.
  have hquoted : ∀ {p : Char → Prop} {names : List Text}, (∀ name ∈ names, '"' ∉ name) →
      ∀ part ∈ names.map (inQuotes '"'), Outer p part := by
    intro p names hnames part hpart
    obtain ⟨name, hname, rfl⟩ := List.mem_map.1 hpart
    exact .inQuotes rfl (hnames name hname)
  have hdot : ∀ {c : Char}, c = '.' → Outer IsPathGap [c] := by
    rintro c rfl
    exact .plain (.inl rfl) rfl (by decide) (by decide) .nil
  -- One column is a name of the path as the others.
  by_cases hone : e.columns.length = 1
  · obtain ⟨column, hcolumn⟩ := List.length_eq_one_iff.1 hone
    rw [e.path_of_single hcolumn]
    exact .join (hdot rfl) (hquoted fun name hname => (e.names name (by rwa [hcolumn])).2)
  · -- Several columns stand in parentheses behind the last dot.
    have htable : Outer IsPathGap e.tablePath :=
      .join (hdot rfl) (hquoted fun name hname => e.not_mem_of_segment hname)
    have hlist : Outer (fun _ => True) (columnList e.columns) :=
      .join .listGap (hquoted fun name hname => e.not_mem_of_column hname)
    have hgroup : Outer IsPathGap ('(' :: (columnList e.columns ++ [')'])) := .group hlist .nil
    rw [e.path_of_several hone]
    exact htable.append ((hdot rfl).append hgroup)

/-- The operator of a line is the first one outside quotes and parentheses. -/
theorem operatorIn?_operator (c : Cardinality) {w : Text} (hw : Outer IsPathGap w) (pos : Nat) :
    operatorIn? (topLevelFrom none 0 pos (c.operator ++ w)) = some (pos, c.operator) := by
  obtain ⟨chars, hchars, heq⟩ := hw.exists_topLevelFrom 0 (pos + 1) []
  rw [List.append_nil, topLevelFrom, List.append_nil] at heq
  -- The character behind a single `<` makes no other operator of it.
  have hnext : chars.head? ≠ some (pos + 1, '>') := fun hhead =>
    (hchars _ (List.mem_of_mem_head? hhead)).2.not_mem_operatorChars (by simp [operatorChars])
  cases c <;> simp [Cardinality.operator, topLevelFrom, isQuoteChar, operatorIn?, heq, hnext]

/-- What is read at the end of a path does not depend on the blanks around it. -/
theorem Endpoint.read?_of_trim {s t : Text} (h : s.trim = t.trim) : read? s = read? t := by
  rw [read?, read?, h]

/-- The reference goes from the first end to the second one. -/
structure Relationship.Joins (r : Relationship) (a : NamedEnd) (c : Cardinality) (b : NamedEnd) :
    Prop where
  /-- The table of the first end. -/
  fromTable : r.fromTable = a.table
  /-- The columns of the first end. -/
  fromColumns : r.fromColumns = a.columns
  /-- The cardinality of the operator. -/
  cardinality : r.cardinality = c
  /-- The table of the second end. -/
  toTable : r.toTable = b.table
  /-- The columns of the second end. -/
  toColumns : r.toColumns = b.columns

section

variable (a b : NamedEnd) (c : Cardinality) {before after : Text} (hbefore : AllBlank before)
  (hafter : AllBlank after) (line : Option Nat) (name : Option Text)

/-- The line of a reference. -/
def referenceLine (a : NamedEnd) (before : Text) (c : Cardinality) (after : Text) (b : NamedEnd) :
    Text :=
  a.path ++ (before ++ (c.operator ++ (after ++ b.path)))

include hbefore hafter

/-- A line shows no bracket outside quotes and parentheses. -/
theorem outer_referenceLine : Outer (· ≠ '[') (referenceLine a before c after b) := by
  have hgap : ∀ d, IsPathGap d → d ≠ '[' := by
    rintro d hd rfl
    rcases hd with hdot | hblank
    · exact absurd hdot (by decide)
    · exact absurd hblank (by decide)
  have hblanks : ∀ {s : Text}, AllBlank s → Outer (· ≠ '[') s := fun hs =>
    .of_allBlank hs fun d hd => hgap d (.inr hd)
  have hoperator : Outer (· ≠ '[') c.operator :=
    .of_forall (by cases c <;> simp [Cardinality.operator, isQuoteChar])
  exact (a.outer_path.mono hgap).append ((hblanks hbefore).append
    (hoperator.append ((hblanks hafter).append (b.outer_path.mono hgap))))

omit hbefore hafter in
/-- A line starts where its first end does, and ends where its second end does. -/
theorem trimmed_referenceLine : Trimmed (referenceLine a before c after b) := by
  have htext : referenceLine a before c after b
      = a.path ++ ((before ++ c.operator ++ after) ++ b.path) := by
    simp [referenceLine]
  rw [htext]
  exact a.trimmed_path.around a.path_ne_nil b.trimmed_path b.path_ne_nil _

/-- **A line is read by its two ends**: the one ahead of the operator and the one behind it. -/
theorem readReference_referenceLine :
    readReference (referenceLine a before c after b) line name
      = match Endpoint.read? a.path, Endpoint.read? b.path with
        | some left, some right =>
          (some ⟨left.table, left.columns, right.table, right.columns, c, [], name⟩, [])
        | _, _ => (none, [⟨.unreadableEndpoints (referenceLine a before c after b), line⟩]) := by
  have htrim : Text.trim (referenceLine a before c after b) = referenceLine a before c after b :=
    Text.trim_eq_self (trimmed_referenceLine a b c)
  have hsplit :=
    splitBracket_of_outer (outer_referenceLine a b c hbefore hafter) (not_not_intro rfl)
  have hrest : Outer IsPathGap (after ++ b.path) :=
    (Outer.of_allBlank hafter fun _ hd => .inr hd).append b.outer_path
  have hfront : Outer IsPathGap (a.path ++ before) :=
    a.outer_path.append (Outer.of_allBlank hbefore fun _ hd => .inr hd)
  have hline : referenceLine a before c after b
      = (a.path ++ before) ++ (c.operator ++ (after ++ b.path)) := by
    rw [referenceLine, List.append_assoc]
  have hfind : findOperator? (referenceLine a before c after b)
      = some ((a.path ++ before).length, c.operator) := by
    rw [hline, findOperator?_append hfront fun d hd => hd.not_mem_operatorChars,
      operatorIn?_operator c hrest]
  -- The blanks beside the operator go to the two ends, which are trimmed.
  have hleft : Endpoint.read? ((referenceLine a before c after b).take (a.path ++ before).length)
      = Endpoint.read? a.path := by
    rw [hline, List.take_left]
    exact Endpoint.read?_of_trim (Text.trim_append_blank _ hbefore)
  have hright : Endpoint.read? ((referenceLine a before c after b).drop
      ((a.path ++ before).length + c.operator.length)) = Endpoint.read? b.path := by
    rw [hline, ← List.drop_drop, List.drop_left, List.drop_left]
    refine Endpoint.read?_of_trim ?_
    have heq : Text.trim (after ++ (b.path ++ [])) = b.path :=
      Text.trim_eq hafter b.trimmed_path (by simp [AllBlank])
    rw [List.append_nil] at heq
    rw [heq, Text.trim_eq_self b.trimmed_path]
  rw [readReference, htrim, hsplit]
  simp only [hfind, hleft, hright]
  cases Endpoint.read? a.path <;> cases Endpoint.read? b.path <;> try rfl
  simp only [Cardinality.ofOperator_operator, Option.getD_none]
  rfl

/-- **References between quoted names are read back** exactly where both ends are listable: whatever
the names of the tables hold, and whatever the name of a single column holds. -/
theorem readReference_namedEnds :
    (∃ r, (readReference (referenceLine a before c after b) line name).1 = some r ∧ r.Joins a c b) ↔
      a.IsListable ∧ b.IsListable := by
  rw [readReference_referenceLine a b c hbefore hafter]
  constructor
  · -- A reference that joins what was written tells that both ends are listable.
    rintro ⟨r, hr, hjoins⟩
    split at hr
    next left right hleft hright =>
      obtain rfl := Option.some.inj hr
      exact ⟨a.isListable_of_read? hleft hjoins.fromColumns,
        b.isListable_of_read? hright hjoins.toColumns⟩
    next => cases hr
  · -- Both ends are read back, so the reference joins them.
    rintro ⟨ha, hb⟩
    rw [a.read?_path ha, b.read?_path hb]
    exact ⟨_, rfl, ⟨rfl, rfl, rfl, rfl, rfl⟩⟩

end

/-- An end with one column, whose names hold the characters that a path is cut at. -/
def slipEnd : NamedEnd where
  segments := ["my.shop", "slips <> [old], (new"]
  columns := ["total.(net, gross)"]
  segments_ne_nil := by decide
  columns_ne_nil := by decide
  names := by decide

/-- An end with two columns, whose names hold brackets, operators and quotes. -/
def ledgerEnd : NamedEnd where
  segments := ["it's.(a), ledger"]
  columns := ["net - [tax]", "x.y) > \x60z"]
  segments_ne_nil := by decide
  columns_ne_nil := by decide
  names := by decide

/-- The reference between them is read back. -/
theorem readReference_namedEnds_ledger :
    AllBlank [' '] ∧ AllBlank [] ∧ slipEnd.IsListable ∧ ledgerEnd.IsListable ∧
      ∃ r, (readReference (referenceLine slipEnd [' '] .manyToMany [] ledgerEnd) none none).1
        = some r ∧
        r.Joins slipEnd .manyToMany ledgerEnd := by
  -- The blanks around the operator, and none.
  have hspace : AllBlank [' '] := by simp [AllBlank, isBlank]
  have hnone : AllBlank [] := by simp [AllBlank]
  have hslip : slipEnd.IsListable := .inl rfl
  have hcomma : ∀ column ∈ ledgerEnd.columns, ',' ∉ column := by decide
  -- No column of the other end holds a comma or the mark of a list.
  have hmark : ∀ column ∈ ledgerEnd.columns, Text.cutLast listMark column = none := by decide
  have hledger : ledgerEnd.IsListable := .inr fun column hcolumn => ⟨hcomma column hcolumn,
    (Text.cutLast_eq_none_iff (by decide)).1 (hmark column hcolumn)⟩
  exact ⟨hspace, hnone, hslip, hledger,
    (readReference_namedEnds slipEnd ledgerEnd .manyToMany hspace hnone none none).2
      ⟨hslip, hledger⟩⟩

/-- An end with a comma in one of its columns. -/
def commaEnd : NamedEnd where
  segments := ["t"]
  columns := ["a,b", "c"]
  segments_ne_nil := by decide
  columns_ne_nil := by decide
  names := by decide

/-- An end with two plain columns. -/
def plainEnd : NamedEnd where
  segments := ["u"]
  columns := ["x", "y"]
  segments_ne_nil := by decide
  columns_ne_nil := by decide
  names := by decide

/-- **Quotes do not keep a column together**: the list of columns is cut at the comma in a name. -/
theorem exists_cut_column :
    ¬ ∀ (a b : NamedEnd) (c : Cardinality) (line : Option Nat) (name : Option Text),
      ∃ r, (readReference (referenceLine a [' '] c [' '] b) line name).1 = some r ∧
      r.Joins a c b := by
  intro h
  obtain ⟨r, hr, hjoins⟩ := h commaEnd plainEnd .manyToOne none none
  have hspace : AllBlank [' '] := by simp [AllBlank, isBlank]
  have hcut : Endpoint.read? commaEnd.path = some ⟨"t", ["\"a", "b\"", "c"]⟩ := by decide +kernel
  have hkept : Endpoint.read? plainEnd.path = some ⟨"u", ["x", "y"]⟩ := by decide +kernel
  rw [readReference_referenceLine _ _ _ hspace hspace, hcut, hkept] at hr
  obtain rfl := Option.some.inj hr
  exact absurd hjoins.fromColumns (by decide)

end SchemaDiagram
