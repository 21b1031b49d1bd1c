import SchemaDiagram.Json.Reader

/-! # Places in a file

A file is read from front to back. Line and column matter, since indentation carries meaning.

* **`Cursor`** — a place in a file and the text from there on.
* **`Cursor.plain`** — the word without quotes at a place.
* **`Cursor.quoted?`** — the text between quotes at a place. -/

namespace SchemaDiagram.Yaml

/-! ## Characters -/

/-- Whether a character ends a line. -/
def isBreak (c : Char) : Bool :=
  c = '\n' || c.toNat = 0x85 || c.toNat = 0x2028 || c.toNat = 0x2029

/-- What a line end adds to a text that is folded. -/
def breakText (c : Char) : Char := if c.toNat = 0x85 then '\n' else c

/-- Whether a character, or the end of the file where there is none, separates words. -/
def isSeparator : Option Char → Bool
  | none => true
  | some c => c = ' ' || c = '\t' || isBreak c

/-- Whether a text starts with three characters that are a word of their own. -/
def startsWith (mark : Text) (s : Text) : Bool :=
  mark.isPrefixOf s && isSeparator (s.drop mark.length).head?

/-- The mark that starts a document. -/
def startMark : Text := "---"

/-- The mark that ends a document. -/
def endMark : Text := "..."

/-- Whether a line starts with the mark of a document. -/
def startsWithMark (line : Text) : Bool := startsWith startMark line || startsWith endMark line

/-- The characters with a meaning inside brackets. -/
def flowMarks : List Char := [',', '[', ']', '\x7b', '\x7d']

/-- The characters that no plain word starts with. -/
def wordMarks : List Char := "-?:,[]\x7b\x7d#&*!|>\x27\"%@\x60".toList

/-! ## Places -/

/-- A place in a file. -/
structure Cursor where
  /-- The text from here on. -/
  rest : Text
  /-- The number of characters before. -/
  index : Nat
  /-- The number of line ends before. -/
  line : Nat
  /-- The number of characters before in the same line; a byte order mark does not count. -/
  column : Nat
deriving Repr

namespace Cursor

/-- The start of a text. -/
def start (text : Text) : Cursor := ⟨text, 0, 0, 0⟩

/-- The place behind the next character. -/
def next (p : Cursor) : Cursor :=
  match p.rest with
  | [] => p
  | c :: rest =>
    if isBreak c then ⟨rest, p.index + 1, p.line + 1, 0⟩
    else ⟨rest, p.index + 1, p.line, if c = '\ufeff' then p.column else p.column + 1⟩

/-- The place behind the next `n` characters. -/
def skip (p : Cursor) : (n : Nat) → Cursor
  | 0 => p
  | n + 1 => p.next.skip n

end Cursor

/-! ## Lines between words -/

/-- The length of the blanks, comments and line ends at the start of a text, and whether there is
a line end among them. -/
def gapLength (inComment : Bool) : Text → Nat × Bool
  | [] => (0, false)
  | c :: rest =>
    if isBreak c then ((gapLength false rest).1 + 1, true)
    else if inComment || c = '#' then
      let (n, broken) := gapLength true rest
      (n + 1, broken)
    else if c = ' ' then
      let (n, broken) := gapLength false rest
      (n + 1, broken)
    else (0, false)

/-- The empty lines at the place where a line has ended inside a text. -/
structure EmptyLines where
  /-- What their ends add to the text. -/
  breaks : Text
  /-- The characters up to the next word. -/
  length : Nat
  /-- Whether a line starts with the mark of a document, where the text has to end. -/
  meetsMark : Bool
deriving Repr

/-- The empty lines up to the next word; `isGap` says which characters indent a line. -/
def emptyLines (isGap : Char → Bool) : Text → EmptyLines
  | [] => ⟨[], 0, false⟩
  | c :: rest =>
    if isBreak c then
      if startsWithMark rest then ⟨[breakText c], 1, true⟩
      else
        let more := emptyLines isGap rest
        ⟨breakText c :: more.breaks, more.length + 1, more.meetsMark⟩
    else if isGap c then
      let more := emptyLines isGap rest
      ⟨more.breaks, more.length + 1, more.meetsMark⟩
    else ⟨[], 0, false⟩

/-- What a line end and the empty lines behind it add to a text: one line end alone becomes a
space, of several the first does not count. -/
def foldedBreak (c : Char) (breaks : Text) : Text :=
  if breakText c ≠ '\n' then breakText c :: breaks
  else if breaks.isEmpty then [' ']
  else breaks

/-! ## Words without quotes -/

/-- Whether a plain word can start with a character before another one. -/
def startsWord (inFlow : Bool) (c : Char) (following : Option Char) : Bool :=
  !(isSeparator (some c) || wordMarks.contains c)
    || (!isSeparator following && (c = '-' || (!inFlow && (c = '?' || c = ':'))))

/-- The length of the part of a plain word that has no blank in it. -/
def wordLength (inFlow : Bool) : Text → Nat
  | [] => 0
  | c :: rest =>
    let endsAtColon := c = ':'
      && (isSeparator rest.head? || (inFlow && rest.head?.any flowMarks.contains))
    if isSeparator (some c) || endsAtColon || (inFlow && (c = '?' || flowMarks.contains c)) then 0
    else wordLength inFlow rest + 1

/-- A plain word with the place behind it. -/
structure PlainWord where
  /-- The word. -/
  text : Text
  /-- The place behind it and the blanks and line ends that follow. -/
  place : Cursor
  /-- Whether a line has ended behind the word. -/
  endsLine : Bool
deriving Repr

/-- The plain word at a place; further lines have to be indented by `indent` outside brackets. What
stands between two parts of the word is `gap`. -/
def plainFrom (inFlow : Bool) (indent : Nat) (gap : Text) (endsLine : Bool) (p : Cursor) :
    (fuel : Nat) → PlainWord
  | 0 => ⟨[], p, endsLine⟩
  | fuel + 1 =>
    let n := wordLength inFlow p.rest
    if n = 0 || p.rest.head? = some '#' then ⟨[], p, endsLine⟩
    else
      let part := gap ++ p.rest.take n
      let p := p.skip n
      let blanks := p.rest.takeWhile (· = ' ')
      let p := p.skip blanks.length
      let more (gap : Text) (endsLine : Bool) (p : Cursor) : PlainWord :=
        if !inFlow && p.column < indent then ⟨part, p, endsLine⟩
        else
          let word := plainFrom inFlow indent gap endsLine p fuel
          { word with text := part ++ word.text }
      match p.rest with
      | c :: after =>
        if isBreak c then
          let p := p.next
          if startsWithMark after then ⟨part, p, true⟩
          else
            let lines := emptyLines (· = ' ') after
            let p := p.skip lines.length
            if lines.meetsMark then ⟨part, p, true⟩
            else more (foldedBreak c lines.breaks) true p
        else if blanks.isEmpty then ⟨part, p, false⟩
        else more blanks false p
      | [] => ⟨part, p, false⟩

/-- The plain word at a place. -/
def Cursor.plain (p : Cursor) (inFlow : Bool) (indent : Nat) : PlainWord :=
  plainFrom inFlow indent [] false p p.rest.length

/-! ## Texts between quotes -/

/-- The character that a letter behind a backslash stands for. -/
def escapedChar? (c : Char) : Option Char :=
  match c with
  | '0' => some '\x00'
  | 'a' => some '\x07'
  | 'b' => some '\x08'
  | 't' | '\t' => some '\t'
  | 'n' => some '\n'
  | 'v' => some '\x0b'
  | 'f' => some '\x0c'
  | 'r' => some '\r'
  | 'e' => some '\x1b'
  | ' ' | '"' | '\\' | '/' => some c
  | 'N' => some '\u0085'
  | '_' => some '\u00a0'
  | 'L' => some '\u2028'
  | 'P' => some '\u2029'
  | _ => none

/-- How many hexadecimal digits follow a letter behind a backslash. -/
def escapedDigits? (c : Char) : Option Nat :=
  match c with
  | 'x' => some 2
  | 'u' => some 4
  | 'U' => some 8
  | _ => none

/-- The character that an escape stands for, without its backslash, and the length of the escape. -/
def escape? (s : Text) : Option (Char × Nat) :=
  match s with
  | [] => none
  | c :: rest =>
    match escapedChar? c, escapedDigits? c with
    | some found, _ => some (found, 1)
    | none, some n => do
      let code ← if n ≤ rest.length then Json.hexNumber? (rest.take n) else none
      if code.isValidChar then some (Char.ofNat code, n + 1) else none
    | none, none => none

/-- Whether a character indents a line inside quotes. -/
def isQuotedGap (c : Char) : Bool := c = ' ' || c = '\t'

/-- The text up to the closing quote, and the place behind it. Between single quotes only the quote
itself is written twice; between double quotes there are escapes. -/
def quotedFrom? (mark : Char) (p : Cursor) : (fuel : Nat) → Option (Text × Cursor)
  | 0 => none
  | fuel + 1 =>
    let rest (found : Text) (p : Cursor) : Option (Text × Cursor) :=
      (quotedFrom? mark p fuel).map fun (text, p) => (found ++ text, p)
    match p.rest with
    | [] => none
    | c :: after =>
      if c = mark then
        if mark = '\x27' && after.head? = some mark then rest [mark] (p.skip 2)
        else some ([], p.next)
      else if mark = '"' && c = '\\' then
        match after with
        | b :: lines =>
          if isBreak b then
            let empty := emptyLines isQuotedGap lines
            if startsWithMark lines || empty.meetsMark then none
            else rest empty.breaks (p.skip (empty.length + 2))
          else do
            let (found, n) ← escape? after
            rest [found] (p.skip (n + 1))
        | [] => none
      else if isQuotedGap c || isBreak c then
        let blanks := p.rest.takeWhile isQuotedGap
        let p := p.skip blanks.length
        match p.rest with
        | [] => none
        | b :: lines =>
          if isBreak b then
            let empty := emptyLines isQuotedGap lines
            if startsWithMark lines || empty.meetsMark then none
            else rest (foldedBreak b empty.breaks) (p.skip (empty.length + 1))
          else rest blanks p
      else rest [c] p.next

/-- The text between the quotes at a place, and the place behind them. -/
def Cursor.quoted? (p : Cursor) : Option (Text × Cursor) :=
  match p.rest with
  | [] => none
  | mark :: _ => quotedFrom? mark p.next (p.rest.length + 1)

end SchemaDiagram.Yaml
