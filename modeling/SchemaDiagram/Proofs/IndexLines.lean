import SchemaDiagram.Declaration.Index
import SchemaDiagram.Proofs.FieldSettings
import SchemaDiagram.Proofs.TopLevel

/-! # Lines of an index block

An index line has its columns in parentheses: words, and expressions between backticks. The bracket
of the settings list is looked for outside quotes and parentheses, so that an expression may hold
brackets, quotes and parentheses of its own. The columns are cut at all commas, those of an
expression among them.

* **`IndexColumn`** — a word or an expression; `IndexColumn.written` is how it stands in a line.
* **`listedNames_columns`**, **`not_mem_comma_of_columns`** — columns without commas are read back,
  and others are read with a backtick.
* **`readIndex_indexLine`** — a line always gives an index with its settings, and with its columns
  where no expression holds a comma. -/

namespace SchemaDiagram

/-! ## Columns -/

/-- A column of an index. -/
inductive IndexColumn where
  /-- A column by its name. -/
  | word (w : Text) (hw : IsWord w)
  /-- An expression. -/
  | expression (t : Text) (hne : t ≠ []) (ht : '\x60' ∉ t)

namespace IndexColumn

/-- The column without backticks. -/
def text : IndexColumn → Text
  | word w _ => w
  | expression t _ _ => t

/-- The column as it stands in a line. -/
def written : IndexColumn → Text
  | word w _ => w
  | expression t _ _ => inQuotes '\x60' t

variable (c : IndexColumn)

/-- No backtick stands in a column. -/
theorem not_mem_text : '\x60' ∉ c.text := by
  cases c with
  | word w hw => exact fun hmem => absurd (hw.chars _ hmem) (by decide)
  | expression t _ ht => exact ht

/-- A column is not written as nothing. -/
theorem written_ne_nil : c.written ≠ [] := by
  cases c with
  | word w hw => exact hw.ne_nil
  | expression t _ _ => exact List.cons_ne_nil _ _

/-- No blank stands at the ends of a written column. -/
theorem trimmed_written : Trimmed c.written := by
  cases c with
  | word w hw => exact hw.trimmed
  | expression t _ _ => exact trimmed_inQuotes rfl t

/-- The text of a column is what stands in its quotes. -/
theorem unquote_written : unquote c.written = c.text := by
  cases c with
  | word w hw => exact hw.unquote_eq
  | expression t _ _ => exact unquote_inQuotes rfl (by simp [Quote.mark, inQuotes])

/-- The backticks of a written column come in pairs. -/
theorem even_count_written : Even (c.written.count '\x60') := by
  cases c with
  | word w hw =>
    have hnot : '\x60' ∉ w := fun hmem => absurd (hw.chars _ hmem) (by decide)
    rw [written, List.count_eq_zero.2 hnot]
    exact Even.zero
  | expression t _ ht => exact even_count_inQuotes ht

/-- A written column has no comma when its text has none. -/
theorem not_mem_comma_written (h : ',' ∉ c.text) : ',' ∉ c.written := by
  cases c with
  | word w _ => exact h
  | expression t _ _ => simpa [written, text, inQuotes] using h

/-- A column is passed as a whole by the search for a settings list. -/
theorem outer_written : Outer (fun _ => True) c.written := by
  cases c with
  | word w hw =>
    refine .of_forall fun d hd => ⟨trivial, isQuoteChar_of_isWordChar (hw.chars d hd), ?_, ?_⟩ <;>
      exact ne_of_isWordChar (hw.chars d hd) (by decide)
  | expression t _ ht => exact .inQuotes rfl ht

end IndexColumn

/-- The columns of a line with commas between them. -/
def columnTexts (columns : List IndexColumn) : Text :=
  Text.join listGap (columns.map IndexColumn.written)

section

variable {columns : List IndexColumn}

/-- Columns without commas are read back. -/
theorem listedNames_columns (h : ∀ c ∈ columns, ',' ∉ c.text) :
    listedNames (columnTexts columns) = columns.map IndexColumn.text := by
  rw [columnTexts, listedNames_join, List.map_map]
  · exact List.map_congr_left fun c _ => c.unquote_written
  · intro part hpart
    obtain ⟨c, hc, rfl⟩ := List.mem_map.1 hpart
    exact ⟨c.written_ne_nil, c.trimmed_written, c.not_mem_comma_written (h c hc)⟩

/-- Columns are read without backticks only where no expression holds a comma. -/
theorem not_mem_comma_of_columns
    (h : ∀ name ∈ listedNames (columnTexts columns), '\x60' ∉ name) :
      ∀ c ∈ columns, ',' ∉ c.text := by
  intro c hc
  cases c with
  | word w hw => exact fun hmem => absurd (hw.chars _ hmem) (by decide)
  | expression t hne ht =>
    refine not_mem_comma_of_listedNames rfl ?_ h ht (List.mem_map_of_mem hc)
    intro part hpart
    obtain ⟨c, -, rfl⟩ := List.mem_map.1 hpart
    exact c.even_count_written

/-- **Columns are read back exactly where no expression holds a comma.** -/
theorem listedNames_columns_iff :
    listedNames (columnTexts columns) = columns.map IndexColumn.text ↔
      ∀ c ∈ columns, ',' ∉ c.text := by
  refine ⟨fun h => not_mem_comma_of_columns ?_, listedNames_columns⟩
  -- The columns themselves are written without backticks.
  rw [h]
  exact List.forall_mem_map.2 fun c _ => c.not_mem_text

/-- Some columns are not listed as nothing. -/
theorem listedNames_columns_ne_nil (hne : columns ≠ []) :
    listedNames (columnTexts columns) ≠ [] := by
  intro hnil
  have hcomma : ∀ c ∈ columns, ',' ∉ c.text := not_mem_comma_of_columns (by rw [hnil]; simp)
  rw [listedNames_columns hcomma, List.map_eq_nil_iff] at hnil
  exact hne hnil

end

/-! ## Lines -/

/-- The columns in parentheses. -/
def columnGroup (columns : List IndexColumn) : Text := '(' :: (columnTexts columns ++ [')'])

/-- The line of an index, with or without a settings list. -/
def indexLine (columns : List IndexColumn) (gap : Text) : Option Text → Text
  | none => columnGroup columns
  | some content => columnGroup columns ++ (gap ++ '[' :: (content ++ [']']))

section

variable (columns : List IndexColumn)

/-- Quotes and parentheses are closed in a group of columns. -/
theorem outer_columnGroup {p : Char → Prop} : Outer p (columnGroup columns) := by
  refine .group (.join .listGap ?_) .nil
  exact List.forall_mem_map.2 fun c _ => c.outer_written

/-- No blank stands at the ends of a group of columns. -/
theorem trimmed_columnGroup : Trimmed (columnGroup columns) :=
  Trimmed.around (a := ['(']) (.singleton (by decide)) (List.cons_ne_nil _ _)
    (.singleton (by decide))
    (List.cons_ne_nil _ _) _

/-- A group of columns is listed without its parentheses. -/
theorem dropParens_columnGroup : dropParens (columnGroup columns) = columnTexts columns := by
  rw [dropParens, columnGroup, ← List.cons_append, List.getLast?_concat]
  simp

/-- A line starts with a parenthesis, and ends with one or with a bracket. -/
theorem trimmed_indexLine (gap : Text) (settings : Option Text) :
    Trimmed (indexLine columns gap settings) := by
  cases settings with
  | none => exact trimmed_columnGroup columns
  | some content =>
    refine ⟨(trimmed_columnGroup columns).head, fun c hc => ?_⟩
    have hend : indexLine columns gap (some content)
        = (columnGroup columns ++ (gap ++ '[' :: content)) ++ [']'] := by simp [indexLine]
    rw [hend, List.getLast?_concat] at hc
    obtain rfl : ']' = c := Option.some.inj hc
    decide

/-- **A line is split into its columns and its settings.** -/
theorem splitBracket_indexLine {gap : Text} (hgap : AllBlank gap) (settings : Option Text) :
    splitBracket (indexLine columns gap settings) = (columnGroup columns, settings) := by
  cases settings with
  | none => exact splitBracket_of_outer (outer_columnGroup (p := fun _ => False) columns) id
  | some content =>
    have hfront : Outer (isBlank · = true) (columnGroup columns ++ gap) :=
      (outer_columnGroup columns).append (.of_allBlank hgap fun _ h => h)
    rw [indexLine, ← List.append_assoc, splitBracket_list hfront (by decide),
      Text.trimRight_append_blank _ hgap, Text.trimRight_eq_self (trimmed_columnGroup columns).last]

/-- **A line gives an index** with its settings, whatever the expressions hold. Its columns are
those of the line, in their order and without backticks, exactly where no expression holds a
comma. -/
theorem readIndex_indexLine (hne : columns ≠ []) {gap : Text} (hgap : AllBlank gap)
    (settings : Option Text) (line : Option Nat) :
    ∃ index, readIndex (indexLine columns gap settings) line
        = (some index, (interpretSettings index.settings .index line).problems) ∧
      index.settings = parseSettings (settings.getD []) ∧
      (index.columns = columns.map IndexColumn.text ↔ ∀ c ∈ columns, ',' ∉ c.text) := by
  -- The index is the one that the listed names and the settings make.
  refine ⟨⟨listedNames (columnTexts columns), parseSettings (settings.getD []),
    indexLine columns gap settings⟩, ?_, rfl, listedNames_columns_iff⟩
  have hnames : (listedNames (columnTexts columns)).isEmpty = false := by
    simpa using listedNames_columns_ne_nil hne
  rw [readIndex, Text.trim_eq_self (trimmed_indexLine columns gap settings),
    splitBracket_indexLine columns hgap]
  simp only [Text.trim_eq_self (trimmed_columnGroup columns), dropParens_columnGroup, hnames,
    Bool.false_eq_true, if_false]

end

/-- A word and an expression with brackets, quotes and an open parenthesis. -/
def searchColumns : List IndexColumn :=
  [.word "tenant_id" ⟨by decide, List.all_eq_true.1 (by decide)⟩,
    .expression "lower(title) || ' (x' || tags[1]" (by decide) (by decide)]

/-- The index over them has both, and the settings behind them. -/
theorem readIndex_indexLine_search :
    searchColumns ≠ [] ∧ AllBlank [' '] ∧ (∀ c ∈ searchColumns, ',' ∉ c.text) ∧
      ∃ index, readIndex (indexLine searchColumns [' '] (some "note: 'a, b', unique")) none
          = (some index, (interpretSettings index.settings .index none).problems) ∧
        index.settings = parseSettings "note: 'a, b', unique" ∧
        index.columns = ["tenant_id".toList, "lower(title) || ' (x' || tags[1]".toList] := by
  have hne : searchColumns ≠ [] := List.cons_ne_nil _ _
  have hspace : AllBlank [' '] := by simp [AllBlank, isBlank]
  have hcomma : ∀ c ∈ searchColumns, ',' ∉ c.text := by
    simp only [searchColumns, List.forall_mem_cons, IndexColumn.text]
    decide
  -- The general theorem is used with these columns, whose texts hold no comma.
  obtain ⟨index, hread, hsettings, hcolumns⟩ :=
    readIndex_indexLine searchColumns hne hspace (some "note: 'a, b', unique") none
  exact ⟨hne, hspace, hcomma, index, hread, hsettings, hcolumns.2 hcomma⟩

/-- An expression with a comma. -/
def coalesceColumn : IndexColumn := .expression "coalesce(a, b)" (by decide) (by decide)

/-- **Backticks do not keep an expression together**: the columns are cut at its comma. -/
theorem exists_cut_expression :
    ¬ ∀ columns : List IndexColumn, columns ≠ [] →
      ∃ index, (readIndex (indexLine columns [] none) none).1 = some index ∧
        index.columns = columns.map IndexColumn.text := by
  intro h
  obtain ⟨index, hread, hcolumns⟩ := h [coalesceColumn] (List.cons_ne_nil _ _)
  have hcut : (readIndex (indexLine [coalesceColumn] [] none) none).1.map (·.columns)
      = some ["\x60coalesce(a".toList, "b)\x60".toList] := by
    decide +kernel
  rw [hread, Option.map_some, hcolumns] at hcut
  exact absurd hcut (by decide)

end SchemaDiagram
