import SchemaDiagram.Text.Basic

/-! # UTF-8

The bytes of a file are the UTF-8 form of its text.

* **`encodeUtf8`** — the bytes of a text.
* **`decodeUtf8`** — the text of bytes, or where and why they are none. -/

namespace SchemaDiagram

/-- The bytes of a character. -/
def utf8Bytes (c : Char) : List UInt8 :=
  let n := c.toNat
  let tail (n : Nat) : UInt8 := UInt8.ofNat (0x80 + n % 0x40)
  if n < 0x80 then [UInt8.ofNat n]
  else if n < 0x800 then [UInt8.ofNat (0xc0 + n / 0x40), tail n]
  else if n < 0x10000 then [UInt8.ofNat (0xe0 + n / 0x1000), tail (n / 0x40), tail n]
  else [UInt8.ofNat (0xf0 + n / 0x40000), tail (n / 0x1000), tail (n / 0x40), tail n]

/-- The bytes of a text. -/
def encodeUtf8 (s : Text) : List UInt8 := s.flatMap utf8Bytes

/-- Why bytes are no character. -/
inductive Utf8Reason where
  /-- No character starts with this byte. -/
  | invalidStart
  /-- The bytes of the character are interrupted. -/
  | invalidContinuation
  /-- The bytes end within the character. -/
  | unexpectedEnd
deriving DecidableEq, Repr

/-- The wording of a reason. -/
def Utf8Reason.message : Utf8Reason → String
  | invalidStart => "invalid start byte"
  | invalidContinuation => "invalid continuation byte"
  | unexpectedEnd => "unexpected end of data"

/-- Where and why bytes are no text. -/
structure Utf8Fault where
  /-- The first byte of the part that is no character. -/
  first : UInt8
  /-- Its offset. -/
  position : Nat
  /-- How many bytes the part has. -/
  length : Nat
  /-- What is wrong with it. -/
  reason : Utf8Reason
deriving DecidableEq, Repr

/-- The wording of a fault. -/
def Utf8Fault.message (f : Utf8Fault) : Text :=
  let digits (n : Nat) : Text := [Nat.digitChar (n / 16), Nat.digitChar (n % 16)]
  let place : Text := if f.length = 1 then
      concat ["byte 0x", digits f.first.toNat, " in position ", Text.ofNat f.position]
    else
      concat ["bytes in position ", Text.ofNat f.position, "-",
        Text.ofNat (f.position + f.length - 1)]
  concat ["'utf-8' codec can't decode ", place, ": ", f.reason.message]

/-- How many bytes follow a first byte, and which second bytes are allowed after it; none for a byte
that starts no character. -/
def utf8Form? (first : Nat) : Option (Nat × Nat × Nat) :=
  if first < 0x80 then some (0, 0x80, 0xbf)
  else if first < 0xc2 then none
  else if first < 0xe0 then some (1, 0x80, 0xbf)
  else if first = 0xe0 then some (2, 0xa0, 0xbf)
  else if first = 0xed then some (2, 0x80, 0x9f)
  else if first < 0xf0 then some (2, 0x80, 0xbf)
  else if first = 0xf0 then some (3, 0x90, 0xbf)
  else if first < 0xf4 then some (3, 0x80, 0xbf)
  else if first = 0xf4 then some (3, 0x80, 0x8f)
  else none

/-- How many of the next `count` bytes continue a character, where the first of them lies between
`low` and `high`. -/
def continued (low high : Nat) : (count : Nat) → List UInt8 → Nat
  | 0, _ => 0
  | _, [] => 0
  | count + 1, b :: rest =>
    if low ≤ b.toNat ∧ b.toNat ≤ high then 1 + continued 0x80 0xbf count rest else 0

/-- The code point of a first byte followed by `count` bytes. -/
def utf8Value (first count : Nat) (tail : List UInt8) : Nat :=
  let start := match count with
    | 0 => first
    | 1 => first % 0x20
    | 2 => first % 0x10
    | _ => first % 0x08
  (tail.take count).foldl (fun n b => n * 0x40 + b.toNat % 0x40) start

/-- The character that a first byte and the bytes after it start with, and how many bytes after the
first one belong to it; or the length and reason of the fault. -/
def decodeChar (first : UInt8) (rest : List UInt8) : Except (Nat × Utf8Reason) (Char × Nat) :=
  match utf8Form? first.toNat with
  | none => .error (1, .invalidStart)
  | some (count, low, high) =>
    let found := continued low high count rest
    if found = count then .ok (Char.ofNat (utf8Value first.toNat count rest), count)
    -- The bytes so far could still become a character.
    else if found = rest.length then .error (1 + found, .unexpectedEnd)
    else .error (1 + found, .invalidContinuation)

/-- The text of bytes that start at offset `position`. -/
def decodeUtf8From (position : Nat) : List UInt8 → Except Utf8Fault Text
  | [] => .ok []
  | first :: rest =>
    match decodeChar first rest with
    | .error (length, reason) => .error ⟨first, position, length, reason⟩
    | .ok (c, count) => (decodeUtf8From (position + 1 + count) (rest.drop count)).map (c :: ·)
termination_by bytes => bytes.length
decreasing_by simp only [List.length_drop, List.length_cons]; omega

/-- The text of bytes. -/
def decodeUtf8 (bytes : List UInt8) : Except Utf8Fault Text := decodeUtf8From 0 bytes

end SchemaDiagram
