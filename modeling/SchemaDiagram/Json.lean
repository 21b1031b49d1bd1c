import SchemaDiagram.Number.Decimal
import SchemaDiagram.OrderedMap
import SchemaDiagram.Text.Quoted
import SchemaDiagram.Text.Utf16
import SchemaDiagram.Time.Moment

/-! # Data documents

Configuration, log records and machine-readable output are trees of maps, lists, texts, numbers and
truth values. Files that people write may have days, times and keys of any kind in them too.

* **`Json`** — such a tree; maps keep the order of their keys.
* **`Json.compact`**, **`Json.indented`** — the two written forms, ASCII only.
* **`Json.shown`** — a value as a message shows it. -/

namespace SchemaDiagram

/-- A data document. -/
inductive Json where
  /-- No value. -/
  | null
  /-- A truth value. -/
  | bool (b : Bool)
  /-- A whole number. -/
  | int (n : Int)
  /-- A double. -/
  | float (x : Float)
  /-- A text. -/
  | text (s : Text)
  /-- A list. -/
  | list (items : List Json)
  /-- A map in the order of its keys. -/
  | object (members : List (Text × Json))
  /-- A day or a time. -/
  | moment (m : Moment)
  /-- A map in the order of its keys, some of which are no texts. -/
  | table (entries : List (Json × Json))
deriving Inhabited

namespace Json

/-- The text where there is one, else no value. -/
def ofText? (s : Option Text) : Json := (s.map text).getD null

/-- A list of texts. -/
def texts (items : List Text) : Json := list (items.map text)

/-- A map of texts. -/
def ofMap (m : OrderedMap Text) : Json := object (m.map fun (k, v) => (k, text v))

/-- The value under a key of a map. -/
def get? (j : Json) (key : Text) : Option Json :=
  match j with
  | object members => OrderedMap.get? members key
  | _ => none

/-- The four hexadecimal digits of a 16-bit unit behind `\u`. -/
def unitEscape (n : Nat) : Text := '\\' :: 'u' :: Text.hexDigits 4 n

/-- A character between double quotes: quote, backslash and controls are escaped, and characters
past ASCII are written as their 16-bit units. -/
def escapeChar (c : Char) : Text :=
  let n := c.toNat
  if c = '"' ∨ c = '\\' then ['\\', c]
  else if c = '\n' then "\\n"
  else if c = '\r' then "\\r"
  else if c = '\t' then "\\t"
  else if n = 8 then "\\b"
  else if n = 12 then "\\f"
  else if 32 ≤ n ∧ n < 127 then [c]
  else (units16 c).flatMap unitEscape

/-- A text between double quotes. -/
def quote (s : Text) : Text := '"' :: s.flatMap escapeChar ++ ['"']

/-- A double: the shortest digits, and names for what is no number. -/
def floatText (x : Float) : Text :=
  if x.isNaN then "NaN" else if x.isInf then (if x < 0 then "-Infinity" else "Infinity")
  else shortestText x

/-- How the parts of a written document are set apart. -/
structure Layout where
  /-- What stands between two items of a list or map whose contents are `depth` levels deep. -/
  between : (depth : Nat) → Text
  /-- What stands after an opening bracket. -/
  opening : (depth : Nat) → Text
  /-- What stands before a closing bracket. -/
  closing : (depth : Nat) → Text

/-- Everything on one line. -/
def Layout.oneLine : Layout := ⟨fun _ => ", ", fun _ => [], fun _ => []⟩

/-- Every item on its own line, two more spaces for each level. -/
def Layout.lines : Layout :=
  let newLine (depth : Nat) : Text := '\n' :: List.replicate (2 * depth) ' '
  ⟨fun depth => ',' :: newLine depth, newLine, fun depth => newLine (depth - 1)⟩

mutual

/-- The written form of a document whose contents are `depth` levels deep. -/
def write (layout : Layout) (depth : Nat) : Json → Text
  | null => "null"
  | bool b => if b then "true" else "false"
  | int n => Text.ofInt n
  | float x => floatText x
  | text s => quote s
  | list [] => "[]"
  | list (item :: items) =>
    concat ["[", layout.opening depth, write layout (depth + 1) item,
      writeItems layout depth items, layout.closing depth, "]"]
  | object [] => "\x7b\x7d"
  | object ((key, value) :: members) =>
    concat ["\x7b", layout.opening depth, quote key, ": ", write layout (depth + 1) value,
      writeMembers layout depth members, layout.closing depth, "\x7d"]
  | moment m => quote m.text
  | table [] => "\x7b\x7d"
  | table ((key, value) :: entries) =>
    concat ["\x7b", layout.opening depth, writeKey layout depth key, ": ",
      write layout (depth + 1) value, writeEntries layout depth entries, layout.closing depth,
      "\x7d"]

/-- A key, which is a text. -/
def writeKey (layout : Layout) (depth : Nat) : Json → Text
  | text s => quote s
  | key => quote (write layout depth key)

/-- The further items of a list. -/
def writeItems (layout : Layout) (depth : Nat) : List Json → Text
  | [] => []
  | item :: items =>
    layout.between depth ++ write layout (depth + 1) item ++ writeItems layout depth items

/-- The further members of a map. -/
def writeMembers (layout : Layout) (depth : Nat) : List (Text × Json) → Text
  | [] => []
  | (key, value) :: members =>
    concat [layout.between depth, quote key, ": ", write layout (depth + 1) value,
      writeMembers layout depth members]

/-- The further entries of a map whose keys are not all texts. -/
def writeEntries (layout : Layout) (depth : Nat) : List (Json × Json) → Text
  | [] => []
  | (key, value) :: entries =>
    concat [layout.between depth, writeKey layout depth key, ": ", write layout (depth + 1) value,
      writeEntries layout depth entries]

end

/-- The document on one line. -/
def compact (j : Json) : Text := write .oneLine 1 j

/-- The document with every item on its own line. -/
def indented (j : Json) : Text := write .lines 1 j

mutual

/-- A value as a part of a message: texts between quotes. -/
def shownInside : Json → Text
  | null => "None"
  | bool b => if b then "True" else "False"
  | int n => Text.ofInt n
  | float x => shortestText x
  | text s => s.quoted
  | list [] => "[]"
  | list (item :: items) => concat ["[", shownInside item, shownItems items, "]"]
  | object [] => "\x7b\x7d"
  | object ((key, value) :: members) =>
    concat ["\x7b", key.quoted, ": ", shownInside value, shownMembers members, "\x7d"]
  | moment m => m.shown
  | table [] => "\x7b\x7d"
  | table ((key, value) :: entries) =>
    concat ["\x7b", shownInside key, ": ", shownInside value, shownEntries entries, "\x7d"]

/-- The further items of a list in a message. -/
def shownItems : List Json → Text
  | [] => []
  | item :: items => concat [", ", shownInside item, shownItems items]

/-- The further members of a map in a message. -/
def shownMembers : List (Text × Json) → Text
  | [] => []
  | (key, value) :: members =>
    concat [", ", key.quoted, ": ", shownInside value, shownMembers members]

/-- The further entries of a map whose keys are not all texts in a message. -/
def shownEntries : List (Json × Json) → Text
  | [] => []
  | (key, value) :: entries =>
    concat [", ", shownInside key, ": ", shownInside value, shownEntries entries]

end

/-- A value as a message shows it: a text or a moment by itself, everything else as inside a
list. -/
def shown : Json → Text
  | text s => s
  | moment m => m.text
  | j => shownInside j

end Json

end SchemaDiagram
