import SchemaDiagram.Yaml.Cursor

/-! # Tokens of a file

Maps and lists are written between brackets or told apart by indentation. That a word is a key
shows only at the colon behind it, so the tokens that begin a map and a key are put in front of a
word that has been read already.

* **`Token`** — the parts that a file consists of.
* **`Tokens.ofText?`** — the tokens of a file. -/

namespace SchemaDiagram.Yaml

/-- A part of a file. -/
inductive Token where
  /-- The start of a document. -/
  | documentStart
  /-- The end of a document. -/
  | documentEnd
  /-- The start of an indented list. -/
  | blockList
  /-- The start of an indented map. -/
  | blockMap
  /-- The end of an indented list or map. -/
  | blockEnd
  /-- The bracket that opens a list. -/
  | listOpen
  /-- The bracket that closes a list. -/
  | listClose
  /-- The brace that opens a map. -/
  | mapOpen
  /-- The brace that closes a map. -/
  | mapClose
  /-- The hyphen in front of an item. -/
  | item
  /-- The comma between brackets. -/
  | comma
  /-- The place in front of a key. -/
  | key
  /-- The colon in front of a value. -/
  | value
  /-- A word without quotes. -/
  | plain (word : Text)
  /-- A text between quotes. -/
  | quoted (text : Text)
deriving DecidableEq, Repr

/-- A word, or what stands between brackets, that is a key if a colon follows. -/
structure KeyCandidate where
  /-- How many tokens stand before it. -/
  tokens : Nat
  /-- Where it stands. -/
  place : Cursor
  /-- Whether it has to be a key because of its indentation. -/
  isRequired : Bool

/-- The longest key that a colon may follow. -/
def longestKey : Nat := 1024

/-- A file that is being read. -/
structure Tokens where
  /-- The place that has been reached. -/
  place : Cursor
  /-- The tokens before, the last one first. -/
  found : List Token
  /-- The columns of the indented lists and maps that are open, the innermost first. -/
  columns : List Nat
  /-- Whether a key may start here. -/
  allowsKey : Bool
  /-- What may be a key outside of all open brackets. -/
  candidate : Option KeyCandidate
  /-- What may be a key outside of each open bracket, the innermost bracket first. -/
  outer : List (Option KeyCandidate)

namespace Tokens

/-- The start of a file; a byte order mark there does not count. -/
def start (text : Text) : Tokens :=
  let p := Cursor.start text
  ⟨if text.head? = some '\ufeff' then p.next else p, [], [], true, none, []⟩

/-- Whether the place is between brackets. -/
def inFlow (t : Tokens) : Bool := !t.outer.isEmpty

/-- Whether the innermost indented list or map is indented less than a column. -/
def isDeeper (t : Tokens) (column : Nat) : Bool := t.columns.head?.all (· < column)

/-- Adds a token. -/
def add (t : Tokens) (token : Token) : Tokens := { t with found := token :: t.found }

/-- Adds a token behind the next `n` characters. -/
def take (t : Tokens) (n : Nat) (token : Token) : Tokens :=
  { t.add token with place := t.place.skip n }

/-- Puts a token behind the first `n` tokens. -/
def insertAt (t : Tokens) (n : Nat) (token : Token) : Tokens :=
  { t with found := t.found.insertIdx (t.found.length - n) token }

/-- Begins an indented list or map at a column, unless it goes on; its token is put behind the first
`n` tokens. -/
def indent (t : Tokens) (column n : Nat) (token : Token) : Tokens :=
  if t.isDeeper column then { t.insertAt n token with columns := column :: t.columns } else t

/-- Ends the indented lists and maps that start behind a column, or all where none is given. -/
def unwind (t : Tokens) (column : Option Nat) : Tokens :=
  if t.inFlow then t
  else
    let ended := t.columns.takeWhile fun c => column.all (· < c)
    { t with
      found := ended.map (fun _ => Token.blockEnd) ++ t.found
      columns := t.columns.drop ended.length }

/-! ## Keys -/

/-- A candidate is given up, which is refused where it has to be a key. -/
def giveUp? : Option KeyCandidate → Option (Option KeyCandidate)
  | some k => if k.isRequired then none else some none
  | none => some none

/-- Gives up the candidate outside of all open brackets. -/
def forget? (t : Tokens) : Option Tokens := do
  return { t with candidate := ← giveUp? t.candidate }

/-- A candidate as it stands at a later place: a key is neither longer than a line nor too long. -/
def keptUntil? (p : Cursor) : Option KeyCandidate → Option (Option KeyCandidate)
  | some k =>
    if k.place.line ≠ p.line ∨ k.place.index + longestKey < p.index then giveUp? (some k)
    else some (some k)
  | none => some none

/-- Gives up the candidates that are too far back. -/
def forgetOld? (t : Tokens) : Option Tokens := do
  let candidate ← keptUntil? t.place t.candidate
  let outer ← t.outer.mapM (keptUntil? t.place)
  return { t with candidate := candidate, outer := outer }

/-- What follows is a candidate if a key may start here. -/
def suggest? (t : Tokens) : Option Tokens :=
  if t.allowsKey then do
    let t ← t.forget?
    let isRequired := !t.inFlow && t.columns.head? = some t.place.column
    return { t with candidate := some ⟨t.found.length, t.place, isRequired⟩ }
  else some t

/-! ## Steps -/

/-- The mark of a document, which ends all that is indented. -/
def addMark? (t : Tokens) (token : Token) : Option Tokens := do
  let t ← (t.unwind none).forget?
  return { t.take 3 token with allowsKey := false }

/-- An opening bracket. -/
def openBracket? (t : Tokens) (token : Token) : Option Tokens := do
  let t ← t.suggest?
  return { t.take 1 token with
    allowsKey := true, candidate := none, outer := t.candidate :: t.outer }

/-- A closing bracket. -/
def closeBracket? (t : Tokens) (token : Token) : Option Tokens := do
  let t ← t.forget?
  match t.outer with
  | [] => none
  | candidate :: outer =>
    return { t.take 1 token with allowsKey := false, candidate := candidate, outer := outer }

/-- A mark that begins an item or a key. Outside brackets it may not follow a word, and begins the
list or map that it belongs to. -/
def addEntry? (t : Tokens) (collection token : Token) (allowsKey : Bool) : Option Tokens := do
  let t ←
    if t.inFlow then some t
    else if t.allowsKey then some (t.indent t.place.column t.found.length collection)
    else none
  return { (← t.forget?).take 1 token with allowsKey := allowsKey }

/-- A colon. The candidate, if there is one, is the key before it. -/
def addValue? (t : Tokens) : Option Tokens :=
  match t.candidate with
  | some k =>
    let t := { t with candidate := none }.insertAt k.tokens .key
    let t := if t.inFlow then t else t.indent k.place.column k.tokens .blockMap
    some { t.take 1 .value with allowsKey := false }
  | none => t.addEntry? .blockMap .value (!t.inFlow)

/-- A plain word. -/
def addPlain? (t : Tokens) : Option Tokens := do
  let t ← t.suggest?
  let indent := (t.columns.head?.map (· + 1)).getD 0
  let word := t.place.plain t.inFlow indent
  return { t.add (.plain word.text) with place := word.place, allowsKey := word.endsLine }

/-- A text between quotes. -/
def addQuoted? (t : Tokens) : Option Tokens := do
  let t ← t.suggest?
  let (text, place) ← t.place.quoted?
  return { t.add (.quoted text) with place := place, allowsKey := false }

/-- The place of the next token; a line end before it lets a key start outside brackets. -/
def toNext (t : Tokens) : Tokens :=
  let (n, broken) := gapLength false t.place.rest
  { t with place := t.place.skip n, allowsKey := t.allowsKey || (broken && !t.inFlow) }

/-- Reads the token that starts with the given character. References, tags, block texts and
directives cannot be read. -/
def addNext? (t : Tokens) (c : Char) (rest : Text) : Option Tokens :=
  let startsEntry := t.inFlow || isSeparator rest.head?
  let isMark (mark : Text) : Bool := t.place.column = 0 && startsWith mark (c :: rest)
  if isMark startMark then t.addMark? .documentStart
  else if isMark endMark then t.addMark? .documentEnd
  else if c = '[' then t.openBracket? .listOpen
  else if c = '\x7b' then t.openBracket? .mapOpen
  else if c = ']' then t.closeBracket? .listClose
  else if c = '\x7d' then t.closeBracket? .mapClose
  else if c = ',' then do return { (← t.forget?).take 1 .comma with allowsKey := true }
  else if c = '-' && isSeparator rest.head? then t.addEntry? .blockList .item true
  else if c = '?' && startsEntry then t.addEntry? .blockMap .key (!t.inFlow)
  else if c = ':' && startsEntry then t.addValue?
  else if c = '\x27' || c = '"' then t.addQuoted?
  else if startsWord t.inFlow c rest.head? then t.addPlain?
  else none

/-- Reads all further tokens. -/
def finish? (t : Tokens) : (fuel : Nat) → Option (List Token)
  | 0 => none
  | fuel + 1 => do
    let t ← t.toNext.forgetOld?
    let t := t.unwind (some t.place.column)
    match t.place.rest with
    | [] =>
      let t ← (t.unwind none).forget?
      return t.found.reverse
    | c :: rest => (← t.addNext? c rest).finish? fuel

/-- The tokens of a file, the first one first. -/
def ofText? (text : Text) : Option (List Token) := (start text).finish? (text.length + 1)

end Tokens

end SchemaDiagram.Yaml
