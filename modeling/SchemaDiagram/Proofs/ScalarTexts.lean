import SchemaDiagram.Declaration.Document
import SchemaDiagram.Proofs.NameLists
import SchemaDiagram.Proofs.WrittenValues

/-! # Texts among the values of a project

A text is written as it stands where it is plain, and between single quotes else. What stands
between quotes is read as a text, whatever it spells; a plain text is read as the truth value or the
number that it spells, and as a text where it spells none.

* **`spelled? s`** — the truth value or the number that a text spells.
* **`readScalar_plain`**, **`readScalar_quoteValue`** — what a plain and what a quoted text is read
  as.
* **`readScalar_formatValue`** — which texts are read back. -/

namespace SchemaDiagram

/-- The truth value or the number that a text spells. -/
def spelled? (s : Text) : Option Scalar :=
  if s.lower = "true".toList then some (.bool true)
  else if s.lower = "false".toList then some (.bool false)
  else ((readInt? s).map .int).or ((readFloat? s).map .float)

/-! ## Plain texts -/

/-- A plain character is no blank and no quote. -/
theorem isQuoteChar_of_isPlainChar {c : Char} (h : isPlainChar c = true) :
    isQuoteChar c = false := by
  simp only [isPlainChar, Bool.or_eq_true, decide_eq_true_eq] at h
  rcases h with ((hword | rfl) | rfl) | rfl
  · exact isQuoteChar_of_isWordChar hword
  all_goals decide

/-- A plain text has no blanks at its ends. -/
theorem trim_of_isPlain {s : Text} (h : isPlain s = true) : s.trim = s := by
  rw [isPlain, Bool.and_eq_true, List.all_eq_true] at h
  have hblank : ∀ c ∈ s, isBlank c = false := fun c hc =>
    (isBareChar_iff.1 (isBareChar_of_isPlainChar (h.2 c hc))).2
  exact Text.trim_eq_self ⟨fun c hc => hblank c (List.mem_of_mem_head? hc),
    fun c hc => hblank c (List.mem_of_getLast? hc)⟩

/-- **A plain text is read as what it spells**, and as itself where it spells nothing. -/
theorem readScalar_plain {s : Text} (h : isPlain s = true) :
    readScalar s = (spelled? s).getD (.text s) := by
  -- A plain text starts with no quotation mark.
  have hhead : ∀ {m : Char}, isQuoteChar m = true → s.head? ≠ some m := by
    intro m hm heq
    rw [isPlain, Bool.and_eq_true, List.all_eq_true] at h
    rw [isQuoteChar_of_isPlainChar (h.2 m (List.mem_of_mem_head? heq))] at hm
    cases hm
  rw [readScalar, trim_of_isPlain h, spelled?]
  simp only [hhead (m := '\x27') rfl, hhead (m := '"') rfl, decide_false, Bool.and_false,
    Bool.false_and, Bool.or_self, Bool.false_eq_true, if_false]
  -- The words for truth, then the numbers, and at last the text itself.
  split_ifs
  · rfl
  · rfl
  · cases readInt? s with
    | some n => rfl
    | none => cases readFloat? s <;> rfl

/-! ## Quoted texts -/

/-- A text without quotes and backslashes needs no backslash. -/
theorem escaped_eq_self {s : Text} (hslash : '\\' ∉ s) (hquote : '\x27' ∉ s) : escaped s = s := by
  induction s with
  | nil => rfl
  | cons c s ih =>
    rw [List.mem_cons, not_or] at hslash hquote
    rw [escaped, List.flatMap_cons, if_neg (by simp [Ne.symm hslash.1, Ne.symm hquote.1])]
    exact congrArg (c :: ·) (ih hslash.2 hquote.2)

/-- **A quoted text is read as a text**, with the characters between its quotes. -/
theorem readScalar_quoteValue (s : Text) : readScalar (quoteValue s) = .text (escaped s) := by
  have hquoted : quoteValue s = inQuotes '\x27' (escaped s) := rfl
  -- No quote of the text stands behind the first one without a backslash.
  have htriple : ¬ Quote.triple.mark <+: inQuotes '\x27' (escaped s) := by
    intro hmark
    have hopen := opening?_quoteValue s (t := []) (by simp)
    rw [List.append_nil, hquoted, Quote.opening?, Quote.all, List.find?_cons] at hopen
    simp only [List.isPrefixOf_iff_prefix.2 hmark] at hopen
    cases hopen
  have hlast : (inQuotes '\x27' (escaped s)).getLast? = some '\x27' := by
    rw [inQuotes, ← List.cons_append, List.getLast?_concat]
  have hlong : 2 ≤ (inQuotes '\x27' (escaped s)).length := by
    simp only [inQuotes, List.length_cons, List.length_append]
    omega
  rw [readScalar, Text.trim_eq_self (trimmed_quoteValue s), hquoted]
  simp only [hlast, hlong, decide_true, Bool.and_true, Bool.true_and]
  rw [unquote_inQuotes rfl htriple]
  rfl

/-! ## Writing and reading -/

/-- **Which texts are read back.** A plain text is written as it stands, so that it is read as the
truth value or the number that it spells, and as itself exactly where it spells neither. Every other
text is written between quotes and read as a text, and as itself where it holds no quote and no
backslash. -/
theorem readScalar_formatValue (s : Text) :
    (isPlain s = true → readScalar (formatValue (.text s)) = (spelled? s).getD (.text s)) ∧
      (isPlain s = false → ∃ t, readScalar (formatValue (.text s)) = .text t ∧
        ('\x27' ∉ s → '\\' ∉ s → t = s)) := by
  constructor
  · intro hplain
    rw [formatValue, if_pos hplain, readScalar_plain hplain]
  · intro hplain
    refine ⟨escaped s, ?_, fun hquote hslash => escaped_eq_self hslash hquote⟩
    rw [formatValue, if_neg (by simp [hplain]), readScalar_quoteValue]

/-- A color stands without quotes, and a text with a blank in it between quotes; both are read
back. -/
theorem readScalar_formatValue_color :
    isPlain "#fff9c4".toList = true ∧
      readScalar (formatValue (.text "#fff9c4")) = .text "#fff9c4" ∧
      isPlain " 42".toList = false ∧ readScalar (formatValue (.text " 42")) = .text " 42" := by
  have hplain : isPlain "#fff9c4".toList = true := by decide
  have hint : readInt? "#fff9c4".toList = none := by decide
  have hfloat : readFloat? "#fff9c4".toList = none := by
    rw [← Option.isNone_iff_eq_none]
    decide +kernel
  -- No word and no number is spelled with a hash.
  have hspelled : spelled? "#fff9c4".toList = none := by
    rw [spelled?, if_neg (by decide), if_neg (by decide), hint, hfloat]
    rfl
  have hcolor := (readScalar_formatValue "#fff9c4".toList).1 hplain
  rw [hspelled] at hcolor
  have hblank : isPlain " 42".toList = false := by decide
  obtain ⟨t, hread, ht⟩ := (readScalar_formatValue " 42".toList).2 hblank
  rw [ht (by decide) (by decide)] at hread
  exact ⟨hplain, hcolor, hblank, hread⟩

/-- **A text may come back as a truth value**: a plain one that spells it. -/
theorem exists_spelled_text :
    ¬ ∀ s : Text, readScalar (formatValue (.text s)) = .text s := by
  intro h
  have hplain : isPlain "true".toList = true := by decide
  have htrue : spelled? "true".toList = some (.bool true) := by
    rw [spelled?, if_pos (by decide)]
  have hread := h "true"
  rw [formatValue, if_pos hplain, readScalar_plain hplain, htrue] at hread
  cases hread

end SchemaDiagram
