import SchemaDiagram.Console.Markup
import SchemaDiagram.Console.Wrapping

/-! # Messages on the console

What a command says goes to the console line by line: a status with a mark before it, or the
announcement of work under way. A console shows a tab as the spaces up to the next stop. Lines end
at its width.

* **`printed`** — what the console shows for a markup.
* **`StatusStyle`**, **`statusLine`** — messages with a mark.
* **`WorkDisplay`** — what is shown while some work is done, and whether the log is silent
  meanwhile.
* **`counted`** — a number of things. -/

namespace SchemaDiagram

/-! ## Printing -/

/-- The cells of a line on the console. -/
def consoleWidth : Nat := 1000

/-- A line cut to the width of the console. -/
def consoleLine (line : Text) : Text :=
  if line.cells ≤ consoleWidth then line else Text.fitCells consoleWidth line

/-- The lines of a line without tabs, with all their blanks. -/
def consoleLines (line : Text) : List Text := filledLines .broken consoleWidth line

/-- How many characters of a line are left when its blanks have been cut off. -/
def keptLength (line : Text) : Nat := (consoleLine (cutBlanks consoleWidth line)).length

/-- The stretches that are left of some lines that follow one another from `offset` on, as numbers
of the characters before their starts and ends. -/
def keptStretches (offset : Nat) : List Text → List (Nat × Nat)
  | [] => []
  | line :: lines =>
    (offset, offset + keptLength line) :: keptStretches (offset + line.length) lines

/-- A line of a text as the console breaks it. -/
structure LineLayout where
  /-- How many characters of the text stand before it. -/
  offset : Nat
  /-- The line. -/
  line : Text
  /-- The number of its characters. -/
  size : Nat
  /-- It has tabs. -/
  hasTabs : Bool
  /-- What is left of it with spaces for its tabs. -/
  kept : List (Nat × Nat)

namespace LineLayout

/-- The layout of a line behind `offset` characters. -/
def ofLine (offset : Nat) (line : Text) : LineLayout :=
  ⟨offset, line, line.length, line.contains '\t', keptStretches 0 (consoleLines (expandTabs line))⟩

/-- How many characters stand before a place of the text in the line with spaces for its tabs. -/
def place (l : LineLayout) (n : Nat) : Nat :=
  if l.hasTabs then (expandTabs (l.line.take (n - l.offset))).length else min (n - l.offset) l.size

/-- Whether characters of the text from `start` to `stop` are shown on the line. -/
def shows (l : LineLayout) (start stop : Nat) : Bool :=
  if start < l.offset + l.size ∧ l.offset < stop then
    let first := l.place start
    let last := l.place stop
    l.kept.any fun (a, b) => max first a < min last b
  else false

end LineLayout

/-- A text as the console breaks it. -/
inductive TextLayout where
  /-- The text stays in one piece of which some characters are left. -/
  | whole (size kept : Nat)
  /-- The text has lines. -/
  | lines (layouts : List LineLayout)

namespace TextLayout

/-- The layouts of lines, the first one behind `offset` characters. -/
def linesFrom (offset : Nat) : List Text → List LineLayout
  | [] => []
  | line :: rest =>
    let layout := LineLayout.ofLine offset line
    layout :: linesFrom (offset + layout.size + 1) rest

/-- The layout of a text. -/
def ofText (s : Text) : TextLayout :=
  if !s.contains '\n' && !s.contains '\t' && (consoleLines s).length = 1 then
    whole s.length (keptLength s)
  else lines (linesFrom 0 (Text.splitOn '\n' s))

/-- Whether the console looks up the style of a stretch. In a text that stays in one piece a
stretch may be empty, and only one behind the end that is left does not count. -/
def isStyled (range : StyledRange) : TextLayout → Bool
  | whole size kept => kept = size || range.tag.place < kept
  | lines layouts => layouts.any (·.shows range.tag.place range.stop)

end TextLayout

/-- What the console shows for a markup, before it is broken into lines. -/
def shownText (markup : Text) : Except MarkupFault Text := do
  let shown ← StyledText.ofMarkup markup
  let layout := TextLayout.ofText shown.text
  shown.checkStyles fun range => layout.isStyled range
  return shown.text

/-- What the console shows for a markup: its text on lines of its own. -/
def printed (markup : Text) : Except MarkupFault Text :=
  (shownText markup).map fun s =>
    (brokenLines .broken consoleWidth s).flatMap fun line => consoleLine line ++ ['\n']

/-! ## Status -/

/-- How a status is marked. -/
inductive StatusStyle where
  | success
  | error
  | warning
  | info
  | plain
deriving DecidableEq, Repr

namespace StatusStyle

/-- The style of a name; any other name is plain. -/
def ofName (name : Text) : StatusStyle :=
  if name = "success".toList then success
  else if name = "error".toList then error
  else if name = "warning".toList then warning
  else if name = "info".toList then info
  else plain

/-- The name of a style. -/
def name : StatusStyle → String
  | success => "success"
  | error => "error"
  | warning => "warning"
  | info => "info"
  | plain => "none"

/-- The markup before a message. -/
def mark : StatusStyle → Text
  | success => "[green]✓[/green] "
  | error => "[red]✗[/red] "
  | warning => "[yellow]![/yellow] "
  | info => "  "
  | plain => []

end StatusStyle

/-- The spaces before an indented message. -/
def indentation (indent : Nat) : Text := List.replicate indent ' '

/-- A status on the console. -/
def statusLine (style : StatusStyle) (indent : Nat) (message : Text) : Except MarkupFault Text :=
  printed (concat [indentation indent, style.mark, message])

/-! ## Work under way -/

/-- What is shown while some work is done. -/
inductive WorkDisplay where
  /-- One line before the work, where the console is no terminal. -/
  | announced (indent : Nat) (message : Text)
  /-- A line that moves as long as the work lasts. -/
  | animated (message : Text)
  /-- The console belongs to the work. -/
  | reserved

namespace WorkDisplay

/-- The lines that stay on the console; those of an animation do not. -/
def lines : WorkDisplay → Except MarkupFault (Option Text)
  | announced indent message =>
    (printed (concat [indentation indent, message, "..."])).map some
  | animated message =>
    (shownText (concat ["[cyan]", message, "[/cyan]"])).map fun _ => none
  | reserved => .ok (some [])

/-- Whether the log keeps off the console while the work is done. -/
def silencesLog : WorkDisplay → Bool
  | announced .. => false
  | animated _ | reserved => true

end WorkDisplay

/-! ## Counts -/

/-- A number of things: the plural is the given one, or the singular with an `s`. -/
def counted (n : Int) (singular : Text) (plural : Option Text) : Text :=
  concat [Text.ofInt n, " ", if n = 1 then singular else plural.getD (singular ++ ['s'])]

end SchemaDiagram
