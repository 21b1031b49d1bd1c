import SchemaDiagram.Expression.Fault

/-! # Numerals in expressions

A numeral is a whole number in base 10, 2, 8 or 16, a number with a fraction or an exponent, or an
imaginary number. Single underscores may stand between its digits. A name cannot follow it directly,
but some words that go on with an expression can.

* **`numeralAt s`** — the numeral at the start of a text, or what is wrong with it.
* **`Numeral.read`** — the number that a numeral denotes. -/

namespace SchemaDiagram.Expression

/-! ## Where a numeral ends -/

/-- Whether the character is a digit in base 16. -/
def isBaseSixteenDigit (c : Char) : Bool :=
  c.isDigit || ('a' ≤ c && c ≤ 'f') || ('A' ≤ c && c ≤ 'F')

/-- Whether a letter, digit or underscore of ASCII is at the start of the text. -/
def startsWithNamePart (s : Text) : Bool := s.head?.any fun c => c.isAlphanum || c = '_'

/-- Whether the text starts with the word, and the word ends there. -/
def startsWithWord (word : String) (s : Text) : Bool :=
  match Text.dropHead? word.toList s with
  | some rest => !(rest.head?.any fun c => c.isAlphanum || c = '_' || 0x80 ≤ c.toNat)
  | none => false

/-- Whether the text starts with a word that may follow a numeral directly. -/
def startsWithJoiner (s : Text) : Bool :=
  (["and", "else", "for", "or", "not"].any fun word => startsWithWord word s) ||
    (["if", "in", "is"].any fun word => (Text.dropHead? word.toList s).isSome)

/-- The text that follows a numeral, unless it goes on with part of a name. -/
def endNumeral (kind : String) (s : Text) : Except SyntaxFault Text :=
  if startsWithNamePart s && !startsWithJoiner s then .error (.badNumber kind) else .ok s

/-- What follows digits of which the first one has been read. -/
def digitsRest (isDigit : Char → Bool) (bad : Char → SyntaxFault) :
    Text → Except SyntaxFault Text
  | '_' :: c :: rest => if isDigit c then digitsRest isDigit bad rest else .error (bad c)
  | ['_'] => .error (bad ' ')
  | c :: rest => if isDigit c then digitsRest isDigit bad rest else .ok (c :: rest)
  | [] => .ok []

/-- What follows digits in base 10 of which the first one has been read. -/
def decimalRest (s : Text) : Except SyntaxFault Text :=
  digitsRest Char.isDigit (fun _ => .badNumber "decimal") s

/-- What follows a numeral behind the two characters that tell its base. -/
def basedRest (kind : String) (isBaseDigit : Char → Bool) (s : Text) :
    Except SyntaxFault Text := do
  let bad (c : Char) : SyntaxFault :=
    if c.isDigit then .badDigit c kind else .badNumber kind
  let digits := Text.dropHead "_" s
  match digits with
  | [] => throw (.badNumber kind)
  | c :: rest =>
    if !isBaseDigit c then throw (bad c)
    let rest ← digitsRest isBaseDigit bad rest
    match rest with
    | d :: _ => if d.isDigit then throw (bad d)
    | [] => pure ()
    endNumeral kind rest

/-- What follows the sign of an imaginary number, if there is one. -/
def imaginaryRest : Text → Except SyntaxFault Text
  | 'j' :: rest | 'J' :: rest => endNumeral "imaginary" rest
  | s => endNumeral "decimal" s

/-- What follows the digits of an exponent behind its sign. -/
def signedExponentRest : Text → Except SyntaxFault Text
  | c :: rest => do
    if c.isDigit then imaginaryRest (← decimalRest rest) else throw (.badNumber "decimal")
  | [] => .error (.badNumber "decimal")

/-- What follows the exponent of a numeral, if it has one, and the sign of an imaginary number.
The letter of an exponent may turn out to start a word. -/
def exponentRest (s : Text) : Except SyntaxFault Text :=
  if s.head? = some 'e' ∨ s.head? = some 'E' then
    match s.drop 1 with
    | '+' :: rest | '-' :: rest => signedExponentRest rest
    | rest =>
      if rest.head?.any Char.isDigit then signedExponentRest rest
      else if startsWithWord "else" s then .ok s
      else .error (.badNumber "decimal")
  else imaginaryRest s

/-- What follows a fraction, where its point has been read. -/
def fractionRest : Text → Except SyntaxFault Text
  | c :: rest => do
    if c.isDigit then exponentRest (← decimalRest rest) else exponentRest (c :: rest)
  | [] => .ok []

/-- What follows the numeral in base 10 at the start of a text. -/
def plainRest (s : Text) : Except SyntaxFault Text := do
  let rest ← decimalRest s
  match rest with
  | '.' :: rest => fractionRest rest
  | _ =>
    let whole := s.take (s.length - rest.length)
    let goesOn := rest.head?.any fun c => "eEjJ".toList.contains c
    if s.head? = some '0' && whole.any (fun c => c ≠ '0' && c ≠ '_') && !goesOn then
      throw .leadingZeros
    exponentRest rest

/-- What follows the numeral at the start of a text that starts with a digit, or with a point and a
digit. -/
def numeralRest : Text → Except SyntaxFault Text
  | '0' :: c :: rest =>
    if c = 'x' || c = 'X' then basedRest "hexadecimal" isBaseSixteenDigit rest
    else if c = 'o' || c = 'O' then basedRest "octal" (fun d => '0' ≤ d && d ≤ '7') rest
    else if c = 'b' || c = 'B' then basedRest "binary" (fun d => d = '0' || d = '1') rest
    else plainRest ('0' :: c :: rest)
  | '.' :: rest => fractionRest rest
  | s => plainRest s

/-- The characters at the start of a text that a numeral could have, with the one behind them. A
sign counts only behind the letter of an exponent. -/
def numeralWindow (takesSign : Bool) : Text → Text
  | c :: rest =>
    if c.isAlphanum || c = '_' || c = '.' || (takesSign && (c = '+' || c = '-')) then
      c :: numeralWindow (c = 'e' || c = 'E') rest
    else [c]
  | [] => []

/-- The numeral at the start of a text that starts with one. -/
def numeralAt (s : Text) : Except SyntaxFault Text := do
  let window := numeralWindow false s
  let rest ← numeralRest window
  return window.take (window.length - rest.length)

/-! ## Their numbers -/

/-- The number that a numeral denotes. Of a number with a fraction or an exponent and of an
imaginary one only the kind is kept. -/
inductive Numeral where
  | whole (n : Nat)
  | real
  | imaginary
deriving DecidableEq, Repr

namespace Numeral

/-- The value of a digit in any base up to 16. -/
def digitValue (c : Char) : Nat :=
  if c.isDigit then c.toNat - '0'.toNat else c.toLower.toNat - 'a'.toNat + 10

/-- The number that some digits denote. -/
def ofDigits (base : Nat) (digits : Text) : Nat :=
  digits.foldl (fun n c => base * n + digitValue c) 0

/-- The number that a numeral denotes. A whole number in base 10 may have so many digits only. -/
def read (s : Text) : Except SyntaxFault Numeral :=
  let digits := s.filter (· ≠ '_')
  match digits.map Char.toLower with
  | '0' :: 'x' :: digits => .ok (whole (ofDigits 16 digits))
  | '0' :: 'o' :: digits => .ok (whole (ofDigits 8 digits))
  | '0' :: 'b' :: digits => .ok (whole (ofDigits 2 digits))
  | digits =>
    if digits.contains 'j' then .ok imaginary
    else if digits.contains '.' || digits.contains 'e' then .ok real
    else if longestInt < digits.length && digits.head? ≠ some '0' then
      .error (.longNumber digits.length)
    else .ok (whole (ofDigits 10 digits))

end Numeral

end SchemaDiagram.Expression
