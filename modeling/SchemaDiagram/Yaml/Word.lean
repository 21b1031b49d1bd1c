import SchemaDiagram.Json
import SchemaDiagram.Number.Numeral

/-! # Plain words

A word without quotes denotes no value, a truth value, a number or a moment if it has the form of
one, and else a text.

* **`Yaml.wordValue`** — the value of a word, or why it has none. -/

namespace SchemaDiagram.Yaml

/-- Why a file or a word of it has no value. -/
inductive Fault where
  /-- It is not well formed. -/
  | unreadable
  /-- A word has the form of a number or moment but denotes none. -/
  | meaningless (reason : Text)
deriving DecidableEq, Repr

/-! ## Names of values -/

/-- The words for no value. -/
def nullWords : List String := ["", "~", "null", "Null", "NULL"]

/-- The words for true. -/
def trueWords : List String := ["yes", "Yes", "YES", "true", "True", "TRUE", "on", "On", "ON"]

/-- The words for false. -/
def falseWords : List String := ["no", "No", "NO", "false", "False", "FALSE", "off", "Off", "OFF"]

/-- The words for an infinity, without a sign. -/
def infinityWords : List String := [".inf", ".Inf", ".INF"]

/-- The words for not a number. -/
def nanWords : List String := [".nan", ".NaN", ".NAN"]

/-- The key that stands for the members of other maps. -/
def mergeWord : Text := "<<"

/-- The word that is a value only as a key. -/
def valueWord : Text := "="

/-! ## Numbers -/

/-- Whether the character is a digit or an underscore. -/
def isDigitOrGap (c : Char) : Bool := c.isDigit || c = '_'

/-- The value of a digit of any base up to sixteen. -/
def digitOf (c : Char) : Nat :=
  if c.isDigit then c.toNat - '0'.toNat else c.toLower.toNat - 'a'.toNat + 10

/-- The characters without underscores. -/
def withoutGaps (s : Text) : Text := s.filter (· != '_')

/-- The number of some digits in a base. -/
def numberInBase (base : Nat) (digits : Text) : Nat :=
  digits.foldl (fun n c => base * n + digitOf c) 0

/-- The number behind the mark of its base; there has to be a digit. -/
def markedNumber (base : Nat) (s : Text) : Except Fault Nat :=
  let digits := withoutGaps s
  if digits.isEmpty then .error (.meaningless (NumeralFault.notDigits [] base).message)
  else .ok (numberInBase base digits)

/-- The number of some decimal digits, which must not be too many. -/
def decimalNumber (s : Text) : Except Fault Nat :=
  (digitsValue (withoutGaps s)).mapError fun f => .meaningless f.message

/-- Whether the text is one or two digits of a number below sixty. -/
def isSixtieth : Text → Bool
  | [c] => c.isDigit
  | [d, c] => d.isDigit && d.toNat < '6'.toNat && c.isDigit
  | _ => false

/-- The number of parts that count by sixties, the last one by ones. -/
def numberBySixties (parts : List Nat) : Nat := parts.foldl (fun n d => 60 * n + d) 0

/-- Whether the text starts with a digit other than zero and goes on with digits and gaps. -/
def isCount : Text → Bool
  | [] => false
  | c :: rest => c.isDigit && c != '0' && rest.all isDigitOrGap

/-- Whether the text starts with a digit and goes on with digits and gaps. -/
def isDigits : Text → Bool
  | [] => false
  | c :: rest => c.isDigit && rest.all isDigitOrGap

/-- The whole number without a sign that a word has the form of, if it has that form. -/
def natural? (word : Text) : Option (Except Fault Nat) :=
  match word with
  | ['0'] => some (.ok 0)
  | '0' :: 'b' :: c :: rest =>
    if (c :: rest).all fun c => c = '0' || c = '1' || c = '_' then some (markedNumber 2 (c :: rest))
    else none
  | '0' :: 'x' :: c :: rest =>
    if (c :: rest).all fun c => isDigitOrGap c || ('a' ≤ c.toLower && c.toLower ≤ 'f') then
      some (markedNumber 16 (c :: rest))
    else none
  | '0' :: rest =>
    -- A zero in front means base eight; with a higher digit the word is a text.
    if rest.all fun c => isDigitOrGap c && c != '8' && c != '9' then
      some (.ok (numberInBase 8 (withoutGaps rest)))
    else none
  | _ =>
    match Text.splitOn ':' word with
    | [count] => if isCount count then some (decimalNumber count) else none
    | count :: parts =>
      if isCount count && parts.all isSixtieth then
        some (((count :: parts).mapM decimalNumber).map numberBySixties)
      else none
    | [] => none

/-- Whether the text is empty or an exponent with its sign. -/
def isExponent : Text → Bool
  | [] => true
  | c :: sign :: digits =>
    (c = 'e' || c = 'E') && (sign = '+' || sign = '-') && digits != [] && digits.all Char.isDigit
  | _ => false

/-- Whether a word, whose sign has been taken off, is a number with a point; without a sign the
point may come first. -/
def isDecimal (signed : Bool) (word : Text) : Bool :=
  match Text.cutFirst '.' word with
  | some (whole, rest) =>
    let startsWell := if whole.isEmpty then !signed && isDigits (rest.take 1) else isDigits whole
    startsWell && isExponent (rest.dropWhile isDigitOrGap)
  | none => false

/-- The double that a numeral denotes, zero where it is none. -/
def doubleOf (s : Text) : Float := (readFloat? s).getD 0

/-- The number with a point that a word without a sign has the form of, counted by sixties before
the last colon, if it has that form. -/
def sixtyFloat? (word : Text) : Option Float :=
  match (Text.splitOn ':' word).reverse with
  | last :: part :: parts =>
    let isLast := match Text.cutFirst '.' last with
      | some (whole, rest) => isSixtieth whole && rest.all isDigitOrGap
      | none => false
    let isFirst := match (part :: parts).reverse with
      | first :: others => isDigits first && others.all isSixtieth
      | [] => false
    if isLast && isFirst then
      let add (sum : Float × Nat) (part : Text) : Float × Nat :=
        (sum.1 + doubleOf (withoutGaps part) * nearestFloat false sum.2 1, 60 * sum.2)
      some ((last :: part :: parts).foldl add (0, 1)).1
    else none
  | _ => none

/-- The double that a word has the form of, if it has that form. -/
def float? (word : Text) : Option Float :=
  let (negative, magnitude) := takeSign word
  let signed := magnitude.length < word.length
  let result (x : Float) : Float := if negative then -x else x
  if infinityWords.contains (String.ofList magnitude) then some (result (doubleOf "inf"))
  else if nanWords.contains (String.ofList word) then some (doubleOf "nan")
  else if isDecimal signed magnitude then some (result (doubleOf (withoutGaps magnitude)))
  else (sixtyFloat? magnitude).map result

/-- The whole number that a word has the form of, if it has that form. -/
def integer? (word : Text) : Option (Except Fault Int) :=
  let (negative, magnitude) := takeSign word
  (natural? magnitude).map fun n => n.map fun n => if negative then -(n : Int) else n

/-! ## Moments -/

/-- The number of the digits at the start of a text, at least `least` and at most `most` of them,
and the rest. -/
def takeField? (least most : Nat) (s : Text) : Option (Nat × Text) :=
  let digits := (s.take most).takeWhile Char.isDigit
  if digits.length < least then none
  else some (numberInBase 10 digits, s.drop digits.length)

/-- The number behind a mark, as `takeField?` reads it. -/
def fieldAfter? (mark : Char) (least most : Nat) (s : Text) : Option (Nat × Text) :=
  match s with
  | c :: rest => if c = mark then takeField? least most rest else none
  | [] => none

/-- The day at the start of a text, and the rest; month and day have at least `least` digits. -/
def takeDay? (least : Nat) (s : Text) : Option (Day × Text) := do
  let (year, rest) ← takeField? 4 4 s
  let (month, rest) ← fieldAfter? '-' least 2 rest
  let (day, rest) ← fieldAfter? '-' least 2 rest
  return (⟨year, month, day⟩, rest)

/-- The microseconds at the start of a text behind a point, and the rest; further digits do not
count. -/
def takeMicro (s : Text) : Nat × Text :=
  match s with
  | '.' :: rest =>
    let digits := rest.takeWhile Char.isDigit
    (numberInBase 10 ((digits ++ List.replicate 6 '0').take 6), rest.drop digits.length)
  | _ => (0, s)

/-- The time at the start of a text, and the rest. -/
def takeTime? (s : Text) : Option (DayTime × Text) := do
  let (hour, rest) ← takeField? 1 2 s
  let (minute, rest) ← fieldAfter? ':' 2 2 rest
  let (second, rest) ← fieldAfter? ':' 2 2 rest
  let (micro, rest) := takeMicro rest
  return (⟨hour, minute, second, micro⟩, rest)

/-- Whether a character may stand between the parts of a moment. -/
def isMomentGap (c : Char) : Bool := c = ' ' || c = '\t'

/-- The offset, if any, that is all of a text. -/
def zone? (s : Text) : Option (Option Int) :=
  match s.dropWhile isMomentGap with
  | [] => if s.isEmpty then some none else none
  | ['Z'] => some (some 0)
  | sign :: rest =>
    if sign = '+' || sign = '-' then do
      let (hours, rest) ← takeField? 1 2 rest
      let (minutes, rest) ← if rest.isEmpty then some (0, []) else fieldAfter? ':' 2 2 rest
      if !rest.isEmpty then none
      let seconds : Int := 60 * (60 * hours + minutes : Nat)
      return some (if sign = '-' then -seconds else seconds)
    else none

/-- The part of a text behind the mark between a day and its time. -/
def afterDay? (s : Text) : Option Text :=
  match s with
  | c :: rest =>
    if c = 'T' || c = 't' then some rest
    else if isMomentGap c then some (rest.dropWhile isMomentGap)
    else none
  | [] => none

/-- The moment that a word has the form of, if it has that form. -/
def moment? (word : Text) : Option Moment :=
  match takeDay? 2 word with
  | some (day, []) => some (.day day)
  | _ => do
    let (day, rest) ← takeDay? 1 word
    let (time, rest) ← takeTime? (← afterDay? rest)
    return .time day time (← zone? rest)

/-! ## Words -/

/-- The value of a word. -/
def wordValue (word : Text) : Except Fault Json :=
  let name := String.ofList word
  if nullWords.contains name then .ok .null
  else if trueWords.contains name then .ok (.bool true)
  else if falseWords.contains name then .ok (.bool false)
  else if word = mergeWord ∨ word = valueWord then .error .unreadable
  else match float? word, integer? word, moment? word with
    | some x, _, _ => .ok (.float x)
    | _, some n, _ => n.map .int
    | _, _, some m => (m.check.map .moment).mapError fun f => .meaningless f.message
    | none, none, none => .ok (.text word)

end SchemaDiagram.Yaml
