import SchemaDiagram.Text.Basic

/-! # String literals

A literal is written between three single quotes, single quotes, double quotes or backticks. A
backslash takes the next character with it, but not between backticks. A literal in single or double
quotes that is left open ends before the line end; the two other kinds run on over lines, and to the
end of the text if they are left open.

* **`Quote.opening? s`** — the kind of literal that starts with `s`.
* **`Quote.literal q s`** — cuts the literal off a text that starts with one; nothing is lost
  (`literal_append`).
* **`unquote s`** — the text without one layer of quotes. -/

namespace SchemaDiagram

/-- A kind of quotes. -/
inductive Quote where
  /-- Three single quotes. -/
  | triple
  /-- A single quote. -/
  | single
  /-- A double quote. -/
  | double
  /-- A backtick. -/
  | backtick
deriving DecidableEq, Repr

namespace Quote

/-- The characters that open and close a literal. -/
def mark : Quote → Text
  | triple => ['\x27', '\x27', '\x27']
  | single => ['\x27']
  | double => ['"']
  | backtick => ['\x60']

/-- Every kind of quotes, a longer mark before its own start. -/
def all : List Quote := [triple, single, double, backtick]

/-- Whether a backslash takes the next character with it. -/
def escapes : Quote → Bool
  | backtick => false
  | _ => true

/-- Whether the line end closes a literal that is left open. -/
def endsAtLine : Quote → Bool
  | single | double => true
  | triple | backtick => false

/-- No mark is empty. -/
theorem mark_ne_nil (q : Quote) : q.mark ≠ [] := by cases q <;> simp [mark]

/-- The kind of literal that opens at the start of the text. -/
def opening? (s : Text) : Option Quote := all.find? (·.mark.isPrefixOf s)

/-- What opens a literal is a start of the text. -/
theorem isPrefix_of_opening? {s : Text} {q : Quote} (h : opening? s = some q) : q.mark <+: s := by
  have := List.find?_some h
  exact List.isPrefixOf_iff_prefix.1 this

/-- The rest of a literal whose opening mark has been read, its closing mark included, and the text
after it. -/
def finish (q : Quote) : Text → Text × Text
  | [] => ([], [])
  | c :: rest =>
    if c = '\\' ∧ q.escapes = true then
      match rest with
      | [] => ([c], [])
      | d :: rest => let (body, after) := finish q rest; (c :: d :: body, after)
    else if q.mark.isPrefixOf (c :: rest) then (q.mark, (c :: rest).drop q.mark.length)
    -- The line end is no part of a literal that is left open.
    else if c = '\n' ∧ q.endsAtLine = true then ([], c :: rest)
    else let (body, after) := finish q rest; (c :: body, after)

/-- Reading a literal to its end loses nothing. -/
theorem finish_append (q : Quote) (s : Text) : (finish q s).1 ++ (finish q s).2 = s := by
  fun_induction finish q s with
  | case1 => rfl
  | case2 => rfl
  | case3 _ _ _ _ _ _ heq ih => rw [heq] at ih; simpa using ih
  | case4 c rest _ hmark =>
    exact List.prefix_iff_eq_append.1 (List.isPrefixOf_iff_prefix.1 hmark)
  | case5 => rfl
  | case6 _ _ _ _ _ _ _ heq ih => rw [heq] at ih; simpa using ih

/-- The literal of kind `q` that the text starts with, and the text after it. -/
def literal (q : Quote) (s : Text) : Text × Text :=
  let (body, after) := q.finish (s.drop q.mark.length)
  (q.mark ++ body, after)

/-- Cutting a literal off loses nothing. -/
theorem literal_append {q : Quote} {s : Text} (h : q.mark <+: s) :
    (q.literal s).1 ++ (q.literal s).2 = s := by
  simp only [literal, List.append_assoc, finish_append]
  exact List.prefix_iff_eq_append.1 h

/-- A literal has at least its opening mark. -/
theorem literal_ne_nil (q : Quote) (s : Text) : (q.literal s).1 ≠ [] := by
  simp [literal, mark_ne_nil]

/-- Whether the text stands between two marks of this kind. -/
def encloses (q : Quote) (s : Text) : Bool :=
  2 * q.mark.length ≤ s.length && q.mark.isPrefixOf s && q.mark.isSuffixOf s

end Quote

/-- Whether the character is one of the three quote characters. -/
def isQuoteChar (c : Char) : Bool := c = '\x27' || c = '"' || c = '\x60'

/-- The text without the quotes around it, one layer only. -/
def unquote (s : Text) : Text :=
  match Quote.all.find? (·.encloses s) with
  | some q => s.slice q.mark.length (s.length - q.mark.length)
  | none => s

end SchemaDiagram
