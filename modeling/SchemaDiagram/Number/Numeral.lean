import SchemaDiagram.Number.Binary
import SchemaDiagram.Text.Blank
import SchemaDiagram.Text.DecimalDigit
import SchemaDiagram.Text.Quoted

/-! # Reading numerals

A number may be written with decimal digits of any script, a sign and single underscores between
digits; spaces around it do not count.

* **`readInt?`** — a whole number of at most `longestInt` digits.
* **`digitsValue`** — the number of some digits, or why there is none.
* **`readFloat?`** — a number with a fraction or an exponent, an infinity or not a number; the
  nearest double, an infinity past the largest one. -/

namespace SchemaDiagram

/-- The digits that follow a digit, and the rest: an underscore counts as part of the number only
between two digits. -/
def moreDigits : Text → List Nat × Text
  | '_' :: c :: rest =>
    match digitValue? c with
    | some d => let (digits, after) := moreDigits rest; (d :: digits, after)
    | none => ([], '_' :: c :: rest)
  | c :: rest =>
    match digitValue? c with
    | some d => let (digits, after) := moreDigits rest; (d :: digits, after)
    | none => ([], c :: rest)
  | [] => ([], [])

/-- The digits at the start of the text, and the rest. -/
def takeDigits (s : Text) : List Nat × Text :=
  match s with
  | '_' :: _ => ([], s)
  | _ => moreDigits s

/-- The number that the digits denote, the first one counting most. -/
def numberOfDigits (digits : List Nat) : Nat := digits.foldl (fun n d => 10 * n + d) 0

/-- The sign at the start of the text (`true` for minus), and the rest. -/
def takeSign : Text → Bool × Text
  | '-' :: rest => (true, rest)
  | '+' :: rest => (false, rest)
  | s => (false, s)

/-- The most digits that a whole number may have. -/
def longestInt : Nat := 4300

/-- The whole number that the text denotes. -/
def readInt? (s : Text) : Option Int :=
  let (negative, rest) := takeSign s.trimSpaces
  match takeDigits rest with
  | (digits, []) =>
    if digits.isEmpty || longestInt < digits.length then none
    else
      let n : Int := numberOfDigits digits
      some (if negative then -n else n)
  | _ => none

/-- Why some characters are not read as a whole number. -/
inductive NumeralFault where
  /-- They are not digits of the base. -/
  | notDigits (text : Text) (base : Nat)
  /-- They are more than `longestInt` digits. -/
  | tooLong (digits : Nat)
deriving DecidableEq, Repr

/-- The wording of a fault. -/
def NumeralFault.message : NumeralFault → Text
  | notDigits text base =>
    concat ["invalid literal for int() with base ", Text.ofNat base, ": ", text.quoted]
  | tooLong digits =>
    concat ["Exceeds the limit (", Text.ofNat longestInt,
      " digits) for integer string conversion: value has ", Text.ofNat digits,
      " digits; use sys.set_int_max_str_digits() to increase the limit"]

/-- The number that decimal digits of any script denote. -/
def digitsValue (s : Text) : Except NumeralFault Nat :=
  match s.mapM digitValue? with
  | none => .error (.notDigits s 10)
  | some digits =>
    if digits.isEmpty then .error (.notDigits s 10)
    else if longestInt < digits.length then .error (.tooLong digits.length)
    else .ok (numberOfDigits digits)

/-- The double nearest to `± digits * 10 ^ exponent`; exponents far past either end of the range of
doubles are not computed. -/
def scaledFloat (negative : Bool) (digits : List Nat) (exponent : Int) : Float :=
  let n := numberOfDigits digits
  -- The number is below `10 ^ size`.
  let size : Int := digits.length + exponent
  if n = 0 ∨ size < -400 then nearestFloat negative 0 1
  else if 400 < size ∧ 400 + (digits.takeWhile (· = 0)).length < size then
    nearestFloat negative (Nat.pow 2 2000) 1
  else match exponent with
    | .ofNat e => nearestFloat negative (n * Nat.pow 10 e) 1
    | .negSucc e => nearestFloat negative n (Nat.pow 10 (e + 1))

/-- The exponent after `e`, if the text is one; no text at all is the exponent zero. -/
def readExponent? : Text → Option Int
  | [] => some 0
  | c :: rest =>
    if c = 'e' ∨ c = 'E' then
      let (negative, rest) := takeSign rest
      match takeDigits rest with
      | (digits, []) =>
        if digits.isEmpty then none
        else
          let n : Int := numberOfDigits digits
          some (if negative then -n else n)
      | _ => none
    else none

/-- The double that an unsigned numeral denotes. -/
def readMagnitude? (negative : Bool) (s : Text) : Option Float :=
  let (whole, rest) := takeDigits s
  let (fraction, rest) := match rest with
    | '.' :: rest => takeDigits rest
    | rest => ([], rest)
  if whole.isEmpty && fraction.isEmpty then none
  else (readExponent? rest).map fun e =>
    scaledFloat negative (whole ++ fraction) (e - fraction.length)

/-- The double that the text denotes. -/
def readFloat? (s : Text) : Option Float :=
  let (negative, rest) := takeSign s.trimSpaces
  let name := rest.map Char.toLower
  if name = "inf".toList ∨ name = "infinity".toList then
    some (Float.ofBits (UInt64.ofNat (infinityBits + if negative then Nat.pow 2 63 else 0)))
  else if name = "nan".toList then some (Float.ofBits (UInt64.ofNat (infinityBits + Nat.pow 2 51)))
  else readMagnitude? negative rest

end SchemaDiagram
