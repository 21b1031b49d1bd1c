import SchemaDiagram.Text.Basic

/-! # Lines

A text shown line by line breaks at every Unicode line boundary: line feed, carriage return (the
pair counts once), vertical tab, form feed, the separators `U+001C` to `U+001E`, next line and the
line and paragraph separators. A break at the end opens no further line.

* **`Text.lines`** — the lines of a text.
* **`Text.withLineFeeds`** — the text with one kind of line end for the three that files have. -/

namespace SchemaDiagram

/-- Whether a line ends at the character. -/
def isLineBreak (c : Char) : Bool :=
  let n := c.toNat
  (0x0a ≤ n && n ≤ 0x0d) || (0x1c ≤ n && n ≤ 0x1e) || n = 0x85 || n = 0x2028 || n = 0x2029

namespace Text

/-- The lines of a text, where `current` holds the start of the first one and `afterReturn` says
that a carriage return has just ended a line. -/
def linesFrom (current : Text) (afterReturn : Bool) : Text → List Text
  | [] => if current.isEmpty then [] else [current]
  | c :: rest =>
    if afterReturn && c = '\n' then linesFrom current false rest
    else if isLineBreak c then current :: linesFrom [] (c = '\r') rest
    else linesFrom (current ++ [c]) false rest

/-- The lines of the text without their ends. -/
def lines (s : Text) : List Text := linesFrom [] false s

@[simp] theorem lines_nil : lines [] = [] := rfl

/-- The text with every kind of line end written as a line feed. -/
def withLineFeeds : Text → Text
  | '\r' :: '\n' :: rest => '\n' :: withLineFeeds rest
  | '\r' :: rest => '\n' :: withLineFeeds rest
  | c :: rest => c :: withLineFeeds rest
  | [] => []

end Text

end SchemaDiagram
