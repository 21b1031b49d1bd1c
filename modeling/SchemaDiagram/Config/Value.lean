import SchemaDiagram.Config.Problem
import SchemaDiagram.Json.Merge
import SchemaDiagram.Number.Mixed
import SchemaDiagram.Number.Numeral

/-! # Reading configuration values

Values come from files, the environment and the command line, so a number or truth value may be
given as a text. -/

namespace SchemaDiagram.Config

/-! ## Numerals -/

/-- The text without its underscores, which have to stand alone between two characters. -/
def withoutUnderscores? (s : Text) : Option Text :=
  if s.head? = some '_' || s.getLast? = some '_' || Text.hasPart ['_', '_'] s then none
  else some (s.filter (· != '_'))

/-- What is left of a numeral behind zeros and underscores, the last of which is given: a digit or a
minus sign ends them; before a point and at the end the last of them stays. -/
def behindZeros? (last : Char) : Text → Option Text
  | [] => some [last]
  | c :: rest =>
    if c = '0' || c = '_' then behindZeros? c rest
    else if c.isDigit || c = '-' then some (c :: rest)
    else if c = '.' then some (last :: c :: rest)
    else none

/-- The numeral without the zeros in front of it. -/
def withoutLeadingZeros? : Text → Option Text
  | [] => none
  | c :: rest =>
    if c = '0' then behindZeros? c rest
    else if c.isDigit || c = '-' then some (c :: rest)
    else none

/-- The part of a numeral before its point where zeros and nothing else follow the point, else the
numeral. -/
def withoutZeroPlaces (s : Text) : Text :=
  match Text.cutFirst '.' s with
  | some (head, '0' :: tail) => if tail.all (· = '0') then head else s
  | _ => s

/-- The numeral without a plus sign, which no minus sign may follow. -/
def withoutPlus? : Text → Option Text
  | '+' :: '-' :: _ => none
  | '+' :: rest => some rest
  | s => some s

/-- A minus sign, if there is one, and the rest of a numeral. -/
def cutMinus : Text → Text × Text
  | '-' :: rest => (['-'], rest)
  | s => ([], s)

/-- A minus sign, if there is one, and the digits of a whole number in their shortest form. -/
def integerNumeral? (s : Text) : Option Text := do
  let (minus, digits) := cutMinus (← withoutPlus? s.trimSpaces)
  let kept ← withoutLeadingZeros? digits
  withoutUnderscores? (minus ++ withoutZeroPlaces kept)

/-- Whether a zero stands in front of other digits. -/
def hasLeadingZero : Text → Bool
  | '0' :: _ :: _ => true
  | _ => false

/-- The whole number that a text denotes. Digits are those of ASCII; zeros may stand in front, and a
point and zeros behind. -/
def integerOfText (s : Text) : Except ConfigCause Int :=
  match integerNumeral? s with
  | none => .error .unreadableInteger
  | some numeral =>
    let (negative, digits) := takeSign numeral
    if longestInt < (digits.takeWhile Char.isDigit).length then .error .oversizedInteger
    else if digits.isEmpty || !digits.all Char.isDigit || hasLeadingZero digits then
      .error .unreadableInteger
    else
      let n : Int := numberOfDigits (digits.map fun c => c.toNat - '0'.toNat)
      .ok (if negative then -n else n)

/-- The number that a text of ASCII denotes in which no blank or underscore stands. -/
def plainNumber? (s : Text) : Option Float :=
  if s.all fun c => c.toNat < 128 && c != '_' && !isBlank c then readFloat? s else none

/-- The number that a text denotes: spaces may stand around it, or underscores inside it. -/
def numberOfText? (s : Text) : Option Float :=
  (plainNumber? s.trimSpaces).or ((withoutUnderscores? s).bind plainNumber?)

/-! ## Values -/

/-- The whole number that a double with a sign and at most 63 bits is equal to. -/
def wordOfFloat? (x : Float) : Option Int := (exactInt? x).filter Mixed.fitsWord

/-- Reads a whole number. -/
def integer (j : Json) : Checked Int :=
  match j with
  | .int n => .accepted n
  | .bool b => .accepted (if b then 1 else 0)
  | .float x =>
    if !x.isFinite then .refuse j .infiniteInteger
    else if (exactInt? x).isNone then .refuse j .fractionalInteger
    else .ofOption j .oversizedInteger (wordOfFloat? x)
  | .text s => .ofExcept j (integerOfText s)
  | _ => .refuse j .notInteger

/-- Reads a number. -/
def number (j : Json) : Checked Float :=
  match j with
  | .int n => .ofOption j .notNumber (floatOfInt? n)
  | .bool b => .accepted (if b then 1 else 0)
  | .float x => .accepted x
  | .text s => .ofOption j .unreadableNumber (numberOfText? s)
  | _ => .refuse j .notNumber

/-- The texts that stand for true. -/
def yesWords : List String := ["1", "on", "t", "true", "y", "yes"]

/-- The texts that stand for false. -/
def noWords : List String := ["0", "off", "f", "false", "n", "no"]

/-- The truth value that a whole number stands for. -/
def flagOfInteger? : Int → Option Bool
  | 0 => some false
  | 1 => some true
  | _ => none

/-- Reads a truth value. -/
def flag (j : Json) : Checked Bool :=
  match j with
  | .bool b => .accepted b
  | .int n =>
    if Mixed.fitsWord n then .ofOption j .unreadableFlag (flagOfInteger? n) else .refuse j .notFlag
  | .float x =>
    match wordOfFloat? x with
    | some n => .ofOption j .unreadableFlag (flagOfInteger? n)
    | none => .refuse j .notFlag
  | .text s =>
    let word := String.ofList (s.map Char.toLower)
    if yesWords.contains word then .accepted true
    else if noWords.contains word then .accepted false
    else .refuse j .unreadableFlag
  | _ => .refuse j .notFlag

/-- Reads one of some words, each with its name. -/
def choice {α : Type} (all : List α) (name : α → String) (j : Json) : Checked α :=
  let found : Option α := match j with
    | .text s => all.find? fun a => (name a).toList = s
    | _ => none
  .ofOption j (.notChoice (all.map name)) found

/-- Reads a value that may be absent. -/
def optional {α : Type} (read : Json → Checked α) (j : Json) : Checked (Option α) :=
  match j with
  | .null => .accepted none
  | j => (read j).map some

/-- Reads a value and checks a rule; the wording of a broken rule is made from the value. -/
def ruled {α : Type} (read : Json → Checked α) (holds : α → Bool) (wording : α → Text) (j : Json) :
    Checked α :=
  match read j with
  | .accepted x => if holds x then .accepted x else .refuse j (.brokenRule (wording x))
  | other => other

/-- Reads the value of a key; a missing key has its default. -/
def member {α : Type} (members : OrderedMap Json) (key : String) (default : α)
    (read : Json → Checked α) : Checked α :=
  match members.get? key with
  | some j => (read j).under key
  | none => .accepted default

/-- Reads the values of a record; keys that are no texts do not count. -/
def record {α : Type} (name : String) (read : OrderedMap Json → Checked α) (j : Json) : Checked α :=
  match j with
  | .object members => read members
  | .table entries => read (Json.textMembers entries)
  | j => .refuse j (.notRecord name)

end SchemaDiagram.Config
