import SchemaDiagram.Source.Quote
import SchemaDiagram.Text.Blank

/-! # Ends and operators of a reference

An end of a reference is a dotted path: a table, with its schema or without, and a column, or
several columns in parentheses. Any part may stand between double quotes.

* **`Endpoint.read?`** — the table and columns of a path.
* **`findOperator?`** — the first operator outside quotes and parentheses.
* **`splitBracket`** — a line without its settings list, and the list. -/

namespace SchemaDiagram

/-- A table and columns of it. -/
structure Endpoint where
  /-- The name of the table, its parts joined by dots. -/
  table : Text
  /-- The columns in order. -/
  columns : List Text
deriving DecidableEq, Repr

/-- The parts between dots outside double quotes, as they stand. -/
def dottedPartsFrom (quoted : Bool) : Text → List Text
  | [] => [[]]
  | c :: rest =>
    let quoted := if c = '"' then !quoted else quoted
    if c = '.' && !quoted then [] :: dottedPartsFrom quoted rest
    else match dottedPartsFrom quoted rest with
      | [] => [[c]]
      | part :: parts => (c :: part) :: parts

/-- The parts between dots outside double quotes, without blanks around them. -/
def dottedParts (s : Text) : List Text := (dottedPartsFrom false s).map Text.trim

/-- The parts of a comma-separated list that are not blank, without blanks and quotes around
them. -/
def listedNames (s : Text) : List Text :=
  (((Text.splitOn ',' s).map Text.trim).filter (· != [])).map unquote

/-- The path before `.(` and the list up to the closing parenthesis, for a text of that form. -/
def cutColumnList? (s : Text) : Option (Text × Text) :=
  if s.getLast? = some ')' then Text.cutLast ".(" s.dropLast else none

/-- The end of a reference that a path denotes. -/
def Endpoint.read? (path : Text) : Option Endpoint :=
  let path := path.trim
  match cutColumnList? path with
  | some (tablePath, columnList) =>
    let table := Text.join ['.'] (((dottedParts tablePath).filter (· != [])).map unquote)
    let columns := listedNames columnList
    if table.isEmpty || columns.isEmpty then none else some ⟨table, columns⟩
  | none =>
    let parts := dottedParts path
    match parts.getLast? with
    | some column =>
      if parts.length < 2 || parts.any (·.isEmpty) then none
      else some ⟨Text.join ['.'] (parts.dropLast.map unquote), [unquote column]⟩
    | none => none

/-- The characters outside quotes and parentheses with their offsets, in a text that starts at
offset `pos`; here a backslash has no meaning. -/
def topLevelFrom (quote : Option Char) (depth pos : Nat) : Text → List (Nat × Char)
  | [] => []
  | c :: rest =>
    match quote with
    | some q => topLevelFrom (if c = q then none else some q) depth (pos + 1) rest
    | none =>
      if isQuoteChar c then topLevelFrom (some c) depth (pos + 1) rest
      else if c = '(' then topLevelFrom none (depth + 1) (pos + 1) rest
      else if c = ')' then topLevelFrom none (depth - 1) (pos + 1) rest
      else if depth = 0 then (pos, c) :: topLevelFrom none depth (pos + 1) rest
      else topLevelFrom none depth (pos + 1) rest

/-- The characters outside quotes and parentheses with their offsets. -/
def topLevelChars (s : Text) : List (Nat × Char) := topLevelFrom none 0 0 s

/-- The first operator among characters with offsets. -/
def operatorIn? : List (Nat × Char) → Option (Nat × Text)
  | [] => none
  | (offset, c) :: rest =>
    if c = '<' then
      if rest.head? = some (offset + 1, '>') then some (offset, "<>") else some (offset, "<")
    else if c = '>' ∨ c = '-' ∨ c = '=' then some (offset, [c])
    else operatorIn? rest

/-- The first operator outside quotes and parentheses, with its offset. -/
def findOperator? (s : Text) : Option (Nat × Text) := operatorIn? (topLevelChars s)

/-- A line split before its first bracket outside quotes and parentheses: the head, and what stands
up to the last closing bracket, or up to the end where no bracket closes. -/
def splitBracket (s : Text) : Text × Option Text :=
  match (topLevelChars s).find? (·.2 = '[') with
  | none => (s, none)
  | some (offset, _) =>
    let inner := s.drop (offset + 1)
    let content := match Text.cutLast [']'] inner with
      | some (content, _) => content
      | none => inner
    (Text.trimRight (s.take offset), some content)

end SchemaDiagram
