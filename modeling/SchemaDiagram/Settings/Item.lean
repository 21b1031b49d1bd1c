import SchemaDiagram.OrderedMap
import SchemaDiagram.Source.Quote
import SchemaDiagram.Source.Span
import SchemaDiagram.Text.Blank
import SchemaDiagram.Text.LowerCase

/-! # Items of a settings list

What stands between the brackets of a settings list is split at its top-level commas: commas inside
quotes, brackets and parentheses do not split. An item is a flag, or a key and a value around its
first colon. Keys and values keep their spans, so that an edit can replace a value in place.

* **`chunks s`** — the spans between top-level commas.
* **`splitSettings s base`** — the items, with every span moved by `base`.
* **`parseSettings s`** — the map of raw values; the last item with a key wins. -/

namespace SchemaDiagram

/-- An item of a settings list. -/
structure SettingItem where
  /-- The key in small letters with single spaces between its words. -/
  key : Text
  /-- The characters of the value; `true` for a flag. -/
  value : Text
  /-- Where the item stands. -/
  span : Span
  /-- Where its key stands. -/
  keySpan : Span
  /-- Where its value stands; none for a flag. -/
  valueSpan : Option Span
deriving DecidableEq, Repr

/-- Whether the item has no value. -/
def SettingItem.isFlag (item : SettingItem) : Bool := item.valueSpan.isNone

/-- A key in small letters with single spaces between its words. -/
def normalizeKey (key : Text) : Text := Text.collapse key.lower

/-- The spans between top-level commas of a text that starts at offset `pos`, where the current one
started at `start`. `quote` is the quote that is open, `depth` counts the brackets and parentheses
that are open outside quotes. -/
def chunksFrom (quote : Option Char) (depth start pos : Nat) : Text → List Span
  | [] => [⟨start, pos⟩]
  | c :: rest =>
    match quote with
    | some q =>
      -- Between backticks a backslash is a character like any other.
      if c = '\\' ∧ q ≠ '\x60' then
        match rest with
        | [] => [⟨start, pos + 1⟩]
        | _ :: rest => chunksFrom (some q) depth start (pos + 2) rest
      else chunksFrom (if c = q then none else some q) depth start (pos + 1) rest
    | none =>
      if isQuoteChar c then chunksFrom (some c) depth start (pos + 1) rest
      else if c = '[' ∨ c = '(' then chunksFrom none (depth + 1) start (pos + 1) rest
      else if c = ']' ∨ c = ')' then chunksFrom none (depth - 1) start (pos + 1) rest
      else if c = ',' ∧ depth = 0 then
        ⟨start, pos⟩ :: chunksFrom none depth (pos + 1) (pos + 1) rest
      else chunksFrom none depth start (pos + 1) rest

/-- The spans between top-level commas. -/
def chunks (s : Text) : List Span := chunksFrom none 0 0 0 s

/-- The offset of the first colon outside quotes; here a backslash has no meaning. -/
def firstColon? (quote : Option Char) : Text → Option Nat
  | [] => none
  | c :: rest =>
    match quote with
    | some q => (firstColon? (if c = q then none else some q) rest).map (· + 1)
    | none =>
      if isQuoteChar c then (firstColon? (some c) rest).map (· + 1)
      else if c = ':' then some 0
      else (firstColon? none rest).map (· + 1)

/-- The span without the blanks at its two ends. -/
def Span.trim (span : Span) (text : Text) : Span :=
  let body := span.slice text
  let start := span.start + (body.takeWhile isBlank).length
  ⟨start, start + (Text.trim body).length⟩

/-- The item in a chunk of the text; none where the chunk is blank. -/
def itemOfChunk? (text : Text) (base : Nat) (chunk : Span) : Option SettingItem :=
  let span := chunk.trim text
  if span.length = 0 then none
  else match firstColon? none (span.slice text) with
    | none =>
      some ⟨normalizeKey (span.slice text), "true", span.shift base, span.shift base, none⟩
    | some colon =>
      let keySpan := (Span.mk span.start (span.start + colon)).trim text
      let valueSpan := (Span.mk (span.start + colon + 1) span.stop).trim text
      some ⟨normalizeKey (keySpan.slice text), valueSpan.slice text, span.shift base,
        keySpan.shift base, some (valueSpan.shift base)⟩

/-- The items of a settings list whose text starts at offset `base`. -/
def splitSettings (text : Text) (base : Nat) : List SettingItem :=
  (chunks text).filterMap (itemOfChunk? text base)

/-- The raw values of a settings list by key; a later item replaces the value of an earlier one. -/
def parseSettings (text : Text) : OrderedMap Text :=
  .ofList ((splitSettings text 0).map fun item => (item.key, item.value))

end SchemaDiagram
