import SchemaDiagram.Expression.Numeral
import SchemaDiagram.Text.CharacterName

/-! # Texts in expressions

A text stands between single or double quotes, or between three of them where it may go over several
lines. Letters before the quotes tell that it holds bytes, that its backslashes are no escapes, or
that it is a template with fields in braces.

* **`Quotation`** — a text with its quotes and letters; **`quotationAt?`** reads the start of one.
* **`Quotation.split`** — the inside of a text and what follows its closing quotes.
* **`checkEscapes`**, **`checkBytes`** — refuse an inside that cannot be read. -/

namespace SchemaDiagram.Expression

/-! ## Quotes -/

/-- How a text is quoted. -/
structure Quotation where
  /-- It holds bytes. -/
  isBytes : Bool
  /-- A backslash in it is no escape. -/
  isRaw : Bool
  /-- It has fields in braces. -/
  isTemplate : Bool
  /-- Its quote. -/
  mark : Char
  /-- It stands between three quotes. -/
  isLong : Bool
deriving DecidableEq, Repr

/-- The letters that may stand before quotes. -/
def quotationLetters : List String := ["", "b", "u", "r", "f", "br", "rb", "fr", "rf"]

/-- The quotation that starts the text, and what follows its opening quotes. -/
def quotationAt? (s : Text) : Option (Quotation × Text) :=
  let letters := (s.take 2).takeWhile Char.isAlpha
  let small := letters.map Char.toLower
  match s.drop letters.length with
  | mark :: rest =>
    if (mark = '\x27' || mark = '"') && quotationLetters.any (·.toList = small) then
      let isLong := [mark, mark].isPrefixOf rest
      some (⟨small.contains 'b', small.contains 'r', small.contains 'f', mark, isLong⟩,
        if isLong then rest.drop 2 else rest)
    else none
  | [] => none

/-- The inside of a text up to the next quote, what follows the quote, and the number of its line.
The characters `seen`, the last one first, have been read. -/
def shortInside (mark : Char) (line : Nat) (seen : Text) :
    Text → Except SyntaxFault (Text × Text × Nat)
  | '\\' :: c :: rest =>
    shortInside mark (if c = '\n' then line + 1 else line) (c :: '\\' :: seen) rest
  | c :: rest =>
    if c = mark then .ok (seen.reverse, rest, line)
    else if c = '\n' then .error (.openText line)
    else shortInside mark line (c :: seen) rest
  | [] => .error (.openText line)

/-- The same up to the next three quotes. -/
def longInside (mark : Char) (line : Nat) (seen : Text) :
    Text → Except SyntaxFault (Text × Text × Nat)
  | '\\' :: c :: rest =>
    longInside mark (if c = '\n' then line + 1 else line) (c :: '\\' :: seen) rest
  | c :: rest =>
    if c = mark && [mark, mark].isPrefixOf rest then .ok (seen.reverse, rest.drop 2, line)
    else longInside mark (if c = '\n' then line + 1 else line) (c :: seen) rest
  | [] => .error (.openLongText line)

namespace Quotation

/-- The number of quotes on either side. -/
def size (q : Quotation) : Nat := if q.isLong then 3 else 1

/-- The inside of a text that goes on behind its opening quotes, what follows its closing quotes,
and the number of their line. -/
def split (q : Quotation) (line : Nat) (s : Text) : Except SyntaxFault (Text × Text × Nat) :=
  if q.isLong then longInside q.mark line [] s else shortInside q.mark line [] s

/-- What stands between the quotes of a whole text. -/
def inside (q : Quotation) (s : Text) : Text :=
  let rest := (s.dropWhile Char.isAlpha).drop q.size
  rest.take (rest.length - q.size)

end Quotation

/-! ## Escapes -/

/-- How many places a text takes up when each character past ASCII is written by its code, and a
backslash before one as well. -/
def escapedLength : Text → Nat
  | [] => 0
  | '\\' :: c :: rest => (if c.toNat < 0x80 then 2 else 16) + escapedLength rest
  | c :: rest => (if c.toNat < 0x80 then 1 else 10) + escapedLength rest

/-- Refuses an escape at `place` whose code has not `width` digits. -/
def checkCode (place width : Nat) (shape : String) (s : Text) : Except TextFault Unit :=
  let digits := (s.take width).takeWhile isBaseSixteenDigit
  if digits.length < width then .error (.shortEscape place (place + 2 + digits.length) shape)
  else if 0x10ffff < Numeral.ofDigits 16 digits then
    .error (.codeTooLarge place (place + 2 + width))
  else .ok ()

/-- Refuses an escape at `place` that names no character. -/
def checkName (place : Nat) : Text → Except TextFault Unit
  | '{' :: rest =>
    let name := rest.takeWhile (· ≠ '\x7d')
    let stop := place + 3 + escapedLength name
    if name.length = rest.length then .error (.namelessEscape place stop)
    else if name.isEmpty then .error (.namelessEscape place (place + 3))
    else if isCharacterName name then .ok ()
    else .error (.unknownName place (stop + 1))
  | _ => .error (.namelessEscape place (place + 2))

/-- Refuses an escape in a text that cannot be read, where `place` places stand before the text. -/
def checkEscapes (place : Nat) : Text → Except TextFault Unit
  | '\\' :: c :: rest => do
    if c = 'x' then checkCode place 2 "xXX" rest
    else if c = 'u' then checkCode place 4 "uXXXX" rest
    else if c = 'U' then checkCode place 8 "UXXXXXXXX" rest
    else if c = 'N' then checkName place rest
    checkEscapes (place + if c.toNat < 0x80 then 2 else 16) rest
  | c :: rest => checkEscapes (place + if c.toNat < 0x80 then 1 else 10) rest
  | [] => .ok ()

/-- Refuses an escape in bytes that cannot be read, where `place` bytes stand before. -/
def checkByteEscapes (place : Nat) : Text → Except TextFault Unit
  | '\\' :: c :: rest => do
    if c = 'x' && ((rest.take 2).takeWhile isBaseSixteenDigit).length < 2 then
      throw (.shortByte place)
    checkByteEscapes (place + 2) rest
  | _ :: rest => checkByteEscapes (place + 1) rest
  | [] => .ok ()

/-- Refuses bytes that cannot be read. -/
def checkBytes (isRaw : Bool) (s : Text) : Except TextFault Unit :=
  if s.any fun c => 0x80 ≤ c.toNat then .error .wideByte
  else if isRaw then .ok ()
  else checkByteEscapes 0 s

/-- Refuses a text that cannot be read. -/
def checkText (isRaw : Bool) (s : Text) : Except TextFault Unit :=
  if isRaw then .ok () else checkEscapes 0 s

end SchemaDiagram.Expression
