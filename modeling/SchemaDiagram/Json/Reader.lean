import SchemaDiagram.Json
import SchemaDiagram.Number.Numeral

/-! # Reading data documents

The written form of a data document is read back: a number is a double exactly where it has a
point or an exponent, of several members with one key the last one counts, and the words for what
is no number and for the infinities are numbers as well. Nothing but blanks may stand around the
document.

* **`Json.read`** — the document of a text, or why it is none. -/

namespace SchemaDiagram.Json

/-- Whether a character may stand between the parts of a document. -/
def isGap (c : Char) : Bool := c = ' ' || c = '\t' || c = '\n' || c = '\r'

/-- The text without the gap at its start. -/
def skipGap (s : Text) : Text := s.dropWhile isGap

/-! ## Texts -/

/-- The value of a hexadecimal digit. -/
def hexValue? (c : Char) : Option Nat :=
  if '0' ≤ c ∧ c ≤ '9' then some (c.toNat - '0'.toNat)
  else if 'a' ≤ c ∧ c ≤ 'f' then some (c.toNat - 'a'.toNat + 10)
  else if 'A' ≤ c ∧ c ≤ 'F' then some (c.toNat - 'A'.toNat + 10)
  else none

/-- The number that some hexadecimal digits denote. -/
def hexNumber? (digits : Text) : Option Nat :=
  digits.foldlM (fun n c => (hexValue? c).map (16 * n + ·)) 0

/-- The code point that a letter behind a backslash stands for. -/
def escaped? (c : Char) : Option Nat :=
  match c with
  | '"' | '\\' | '/' => some c.toNat
  | 'b' => some 8
  | 'f' => some 12
  | 'n' => some 10
  | 'r' => some 13
  | 't' => some 9
  | _ => none

/-- The 16-bit units and code points up to the closing quote, and what follows it. -/
def readUnits? : Text → Option (List Nat × Text)
  | [] => none
  | '"' :: rest => some ([], rest)
  | '\\' :: 'u' :: a :: b :: c :: d :: rest => do
    let n ← hexNumber? [a, b, c, d]
    let (ns, after) ← readUnits? rest
    return (n :: ns, after)
  | '\\' :: c :: rest => do
    let n ← escaped? c
    let (ns, after) ← readUnits? rest
    return (n :: ns, after)
  | c :: rest =>
    if c.toNat < 32 ∨ c = '\\' then none
    else (readUnits? rest).map fun (ns, after) => (c.toNat :: ns, after)

/-- The text of 16-bit units and code points: two units that belong together are one character. -/
def textOfUnits : List Nat → Text
  | a :: b :: rest =>
    if 0xd800 ≤ a ∧ a < 0xdc00 ∧ 0xdc00 ≤ b ∧ b < 0xe000 then
      Char.ofNat (0x10000 + (a - 0xd800) * 0x400 + (b - 0xdc00)) :: textOfUnits rest
    else Char.ofNat a :: textOfUnits (b :: rest)
  | [a] => [Char.ofNat a]
  | [] => []

/-! ## Numbers -/

/-- The decimal digits at the start of a text, and the rest. -/
def takeNumber (s : Text) : Text × Text := s.span Char.isDigit

/-- The fraction at the start of a text with its point, and the rest. -/
def takeFraction (s : Text) : Text × Text :=
  match s with
  | '.' :: rest =>
    match takeNumber rest with
    | ([], _) => ([], s)
    | (digits, after) => ('.' :: digits, after)
  | _ => ([], s)

/-- The exponent at the start of a text with its letter and sign, and the rest. -/
def takeExponent (s : Text) : Text × Text :=
  match s with
  | c :: rest =>
    let sign := rest.take (if rest.head? = some '+' ∨ rest.head? = some '-' then 1 else 0)
    match takeNumber (rest.drop sign.length) with
    | ([], _) => ([], s)
    | (digits, after) => if c = 'e' ∨ c = 'E' then (c :: sign ++ digits, after) else ([], s)
  | [] => ([], [])

/-- The number at the start of a text. -/
def readNumber? (s : Text) : Option (Json × Text) :=
  let (sign, rest) := if s.head? = some '-' then (['-'], s.drop 1) else ([], s)
  -- A zero in front is the whole integer part.
  let (whole, rest) := if rest.head? = some '0' then (['0'], rest.drop 1) else takeNumber rest
  if whole.isEmpty then none
  else
    let (fraction, rest) := takeFraction rest
    let (exponent, rest) := takeExponent rest
    let j := if fraction.isEmpty && exponent.isEmpty then
        (readInt? (sign ++ whole)).map int
      else (readFloat? (concat [sign, whole, fraction, exponent])).map float
    j.map (·, rest)

/-! ## Documents -/

/-- The words for values. -/
def namedValues : List (String × Json) :=
  [("null", null), ("true", bool true), ("false", bool false),
    ("NaN", float ((readFloat? "nan").getD 0)), ("Infinity", float ((readFloat? "inf").getD 0)),
    ("-Infinity", float ((readFloat? "-inf").getD 0))]

/-- The value that the text starts with a word for. -/
def readName? (s : Text) : Option (Json × Text) :=
  namedValues.findSome? fun (name, value) => (Text.dropHead? name s).map (value, ·)

/-- Why a text is no document. -/
inductive ReadFault where
  /-- It is not the written form of one. -/
  | malformed
  /-- Lists and maps are nested too deeply, the innermost one a list or a map. -/
  | tooDeep (isList : Bool)
deriving DecidableEq, Repr

/-- How deeply lists and maps may be nested. -/
def deepest : Nat := 980

/-- What has been read, if anything has. -/
def orMalformed {α : Type} (found : Option α) : Except ReadFault α :=
  found.elim (.error .malformed) .ok

mutual

/-- The value at the start of a text, and the rest. Lists and maps are nested `room` deep at most.
-/
def readValue (fuel room : Nat) (s : Text) : Except ReadFault (Json × Text) :=
  match fuel with
  | 0 => .error .malformed
  | fuel + 1 =>
    match skipGap s with
    | '"' :: rest => do
      let (units, after) ← orMalformed (readUnits? rest)
      return (text (textOfUnits units), after)
    | '[' :: rest =>
      if room = 0 then .error (.tooDeep true)
      else match skipGap rest with
        | ']' :: after => .ok (list [], after)
        | rest => do
          let (items, after) ← readItems fuel (room - 1) rest
          return (list items, after)
    | '\x7b' :: rest =>
      if room = 0 then .error (.tooDeep false)
      else match skipGap rest with
        | '\x7d' :: after => .ok (object [], after)
        | rest => do
          let (members, after) ← readMembers fuel (room - 1) rest
          return (object (OrderedMap.ofList members), after)
    | rest => orMalformed ((readName? rest).or (readNumber? rest))

/-- The items of a list up to its closing bracket, and what follows it. -/
def readItems (fuel room : Nat) (s : Text) : Except ReadFault (List Json × Text) :=
  match fuel with
  | 0 => .error .malformed
  | fuel + 1 => do
    let (item, rest) ← readValue fuel room s
    match skipGap rest with
    | ']' :: after => return ([item], after)
    | ',' :: rest =>
      let (items, after) ← readItems fuel room rest
      return (item :: items, after)
    | _ => throw .malformed

/-- The members of a map up to its closing brace, and what follows it. -/
def readMembers (fuel room : Nat) (s : Text) : Except ReadFault (List (Text × Json) × Text) :=
  match fuel with
  | 0 => .error .malformed
  | fuel + 1 =>
    match skipGap s with
    | '"' :: rest => do
      let (units, rest) ← orMalformed (readUnits? rest)
      match skipGap rest with
      | ':' :: rest =>
        let (value, rest) ← readValue fuel room rest
        let member := (textOfUnits units, value)
        match skipGap rest with
        | '\x7d' :: after => return ([member], after)
        | ',' :: rest =>
          let (members, after) ← readMembers fuel room rest
          return (member :: members, after)
        | _ => throw .malformed
      | _ => throw .malformed
    | _ => .error .malformed

end

/-- The document of a text. -/
def read (s : Text) : Except ReadFault Json := do
  -- Every second step at the latest takes a character.
  let (value, rest) ← readValue (2 * s.length + 2) deepest s
  if (skipGap rest).isEmpty then return value else throw .malformed

end SchemaDiagram.Json
