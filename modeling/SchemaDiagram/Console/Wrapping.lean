import SchemaDiagram.Text.Blank
import SchemaDiagram.Text.Cells

/-! # Lines of a limited width

A line that is too wide is broken before the word that does not fit; blanks behind a word belong
to it, those before the first word as well. A word wider than a whole line is broken itself, or is
left as it is. Blanks that reach past the width at the end of a line are cut off.

* **`expandTabs`** — a line with spaces for its tabs.
* **`brokenLines`** — the lines of a text within a width. -/

namespace SchemaDiagram

/-! ## Tabs -/

/-- The distance between two tab stops. -/
def tabSize : Nat := 8

/-- The parts of a line between its tabs with spaces up to the next stop, where `cells` cells stand
before them; the last part needs none. -/
def expandParts (cells : Nat) : List Text → Text
  | [] => []
  | [last] => last
  | part :: parts =>
    -- A tab is one space at least.
    let shown := part ++ [' ']
    let cells := cells + shown.cells
    let space := (tabSize - cells % tabSize) % tabSize
    shown ++ (List.replicate space ' ' ++ expandParts (cells + space) parts)

/-- A line with spaces for its tabs. -/
def expandTabs (line : Text) : Text := expandParts 0 (Text.splitOn '\t' line)

/-! ## Breaking -/

/-- What becomes of a word that is wider than a line. -/
inductive LongWord where
  /-- It is broken. -/
  | broken
  /-- It is left as it is. -/
  | kept
deriving DecidableEq, Repr

/-- A text broken into lines so far. -/
structure LineFill where
  /-- The lines that are complete, the last one first. -/
  done : List Text
  /-- The line that is being filled. -/
  line : Text
  /-- Its cells. -/
  cells : Nat
deriving DecidableEq, Repr

namespace LineFill

/-- Nothing has been filled in. -/
def start : LineFill := ⟨[], [], 0⟩

/-- Begins a new line, unless the last one is empty. -/
def newLine (f : LineFill) : LineFill := if f.line.isEmpty then f else ⟨f.line :: f.done, [], 0⟩

/-- Adds to the line. -/
def add (f : LineFill) (s : Text) : LineFill :=
  { f with line := f.line ++ s, cells := f.cells + s.cells }

/-- Adds a word with the blanks behind it, on a new line if it does not fit. -/
def addWord (long : LongWord) (width : Nat) (f : LineFill) (word : Text) : LineFill :=
  let own := (Text.trimRight word).cells
  if f.cells + own ≤ width then f.add word
  else if width < own ∧ long = .broken then
    (Text.chunks width word).foldl (fun f piece => f.newLine.add piece) f
  else f.newLine.add word

/-- The lines. -/
def lines (f : LineFill) : List Text := (f.line :: f.done).reverse

end LineFill

/-- The words of a text with the blanks behind them, where `current` has been read, the last
character first, and `ended` says that a blank has come behind its letters. -/
def spacedWordsFrom (current : Text) (ended : Bool) : Text → List Text
  | [] => [current.reverse]
  | c :: rest =>
    if isBlank c then
      spacedWordsFrom (c :: current) (ended || current.head?.any fun d => !isBlank d) rest
    else if ended then current.reverse :: spacedWordsFrom [c] false rest
    else spacedWordsFrom (c :: current) false rest

/-- The words of a text with the blanks behind them. -/
def spacedWords (s : Text) : List Text := spacedWordsFrom [] false s

/-- The words make up the text. -/
theorem flatten_spacedWordsFrom (current : Text) (ended : Bool) (s : Text) :
    (spacedWordsFrom current ended s).flatten = current.reverse ++ s := by
  fun_induction spacedWordsFrom current ended s <;> simp_all

/-- Blanks at the end, of which as many are cut off as the text has characters above a number. -/
def cutBlanks (size : Nat) (s : Text) : Text :=
  let excess := s.length - size
  s.take (s.length - min excess (s.length - (Text.trimRight s).length))

/-- The lines of a line without tabs, with all their blanks. -/
def filledLines (long : LongWord) (width : Nat) (line : Text) : List Text :=
  ((spacedWords line).foldl (LineFill.addWord long width) LineFill.start).lines

/-- The lines of a text. -/
def brokenLines (long : LongWord) (width : Nat) (s : Text) : List Text :=
  (Text.splitOn '\n' s).flatMap fun line =>
    (filledLines long width (expandTabs line)).map (cutBlanks width)

end SchemaDiagram
