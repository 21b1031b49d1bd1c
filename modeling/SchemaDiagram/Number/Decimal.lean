import SchemaDiagram.Number.Binary
import SchemaDiagram.Text.Basic

/-! # Decimal notations of doubles

Three notations are in use: the *shortest* digits that read back as the same double, a *fixed*
number of places, and six *significant* digits. All are computed from the exact value.

* **`shortestDigits`** — the shortest digits, of two equally long candidates the nearer one.
* **`roundedDigits`** — a given number of significant digits.
* **`NumberStyle`** — where positional notation ends and whether a whole number keeps `.0`.
* **`fixedText`** — a fixed number of places. -/

namespace SchemaDiagram

/-- A positive decimal number `0.d₁d₂… * 10 ^ point`: its digits as a number and the place of the
point relative to the first digit. -/
structure Decimal where
  /-- The significant digits, as a natural number. -/
  digits : Nat
  /-- How many digits stand before the point. -/
  point : Int
deriving DecidableEq, Repr

/-- The number of decimal digits of `n`. -/
def digitCount (n : Nat) : Nat := (Nat.toDigits 10 n).length

/-- The `k` with `10 ^ (k - 1) ≤ num / den < 10 ^ k`, for a positive quotient. -/
def decimalPoint (num den : Nat) : Int :=
  if den ≤ num then digitCount (num / den) else 1 - (digitCount ((den - 1) / num) : Int)

/-- The product with a power of ten, for a negative exponent as a larger denominator. -/
def timesTenPow (num den : Nat) (exponent : Int) : Nat × Nat :=
  match exponent with
  | .ofNat e => (num * Nat.pow 10 e, den)
  | .negSucc e => (num, den * Nat.pow 10 (e + 1))

/-- Among the decimals with `count` digits, one that reads back as `significand * 2 ^ exponent`:
its value lies between the midpoints to the two neighbouring doubles, themselves included where the
significand is even. Of two such decimals the nearer one is taken, of two equally near the even
one. -/
def candidate? (significand : Nat) (exponent point : Int) (count : Nat) : Option Decimal :=
  -- The neighbour below a power of two is only half as far away.
  let below := if significand = Nat.pow 2 52 ∧ -1074 < exponent then 1 else 2
  let scaled (m : Nat) : Nat × Nat :=
    let (a, b) := timesTwoPow m 4 exponent
    timesTenPow a b (count - point)
  let (low, den) := scaled (4 * significand - below)
  let (value, _) := scaled (4 * significand)
  let (high, _) := scaled (4 * significand + 2)
  let reads (d : Nat) : Bool :=
    if significand % 2 = 0 then low ≤ d * den && d * den ≤ high else low < d * den && d * den < high
  let down := value / den
  let up := down + 1
  let rest := value % den
  match reads down, reads up with
  -- Both neighbours on the grid read back.
  | true, true =>
    let isLower := 2 * rest < den ∨ (2 * rest = den ∧ down % 2 = 0)
    some (if isLower then ⟨down, point⟩ else ⟨up, point⟩)
  | true, false => some ⟨down, point⟩
  | false, true => some ⟨up, point⟩
  | false, false => none

/-- Normal form of a decimal found on the grid of `count` digits: a carry moves the point and
trailing zeros are dropped. -/
def Decimal.normalize (count : Nat) (d : Decimal) : Decimal :=
  let point := if digitCount d.digits > count then d.point + 1 else d.point
  let kept := (Text.ofNat d.digits).reverse.dropWhile (· = '0') |>.reverse
  ⟨Nat.ofDigitChars 10 kept 0, point⟩

/-- The first grid, of 1 up to 17 digits, with a decimal that reads back. -/
def shortestFrom (significand : Nat) (exponent point : Int) : (fuel count : Nat) → Decimal
  | 0, _ => ⟨significand, point⟩
  | fuel + 1, count =>
    match candidate? significand exponent point count with
    | some d => d.normalize count
    | none => shortestFrom significand exponent point fuel (count + 1)

/-- The shortest decimal that reads back as the positive double `significand * 2 ^ exponent`. -/
def shortestDigits (significand : Nat) (exponent : Int) : Decimal :=
  let (a, b) := timesTwoPow significand 1 exponent
  shortestFrom significand exponent (decimalPoint a b) 17 1

/-- The positive double `significand * 2 ^ exponent` rounded to `count` significant digits, a tie to
the even digit. -/
def roundedDigits (count significand : Nat) (exponent : Int) : Decimal :=
  let (a, b) := timesTwoPow significand 1 exponent
  let point := decimalPoint a b
  let (c, d) := timesTenPow a b (count - point)
  (⟨divNearest c d, point⟩ : Decimal).normalize count

/-- The choices of a decimal notation. -/
structure NumberStyle where
  /-- The least exponent (of the first digit) that is written positionally. -/
  leastExponent : Int
  /-- The first exponent that is no longer written positionally. -/
  exponentBound : Int
  /-- Whether a whole number ends in `.0`. -/
  keepsPoint : Bool

/-- An exponent with its sign and at least two digits. -/
def exponentText (e : Int) : Text :=
  let digits := Text.ofNat e.natAbs
  concat ["e", if e < 0 then "-" else "+", if digits.length < 2 then "0" else "", digits]

/-- A positive decimal in the given notation. -/
def NumberStyle.write (style : NumberStyle) (d : Decimal) : Text :=
  let digits := Text.ofNat d.digits
  let exponent := d.point - 1
  if style.leastExponent ≤ exponent ∧ exponent < style.exponentBound then
    if d.point ≤ 0 then
      "0.".toList ++ List.replicate (-d.point).toNat '0' ++ digits
    else
      let whole := d.point.toNat
      if digits.length ≤ whole then
        digits ++ List.replicate (whole - digits.length) '0' ++
          (if style.keepsPoint then ".0" else "").toList
      else digits.take whole ++ '.' :: digits.drop whole
  else
    let tail := digits.drop 1
    digits.take 1 ++ (if tail.isEmpty then [] else '.' :: tail) ++ exponentText exponent

/-- The notation of a value in a message or document: positional from `1e-4` up to below `1e16`, and
a whole number keeps its point. -/
def valueStyle : NumberStyle := ⟨-4, 16, true⟩

/-- The notation of a summary: positional from `1e-4` up to below `1e6`, without a needless point.
-/
def summaryStyle : NumberStyle := ⟨-4, 6, false⟩

/-- A double through a way of writing its positive magnitude. -/
def writeFloat (zeroText : Text) (magnitude : Nat → Int → Text) (x : Float) : Text :=
  match Binary.ofFloat x with
  | .nan => "nan"
  | .infinite negative => if negative then "-inf" else "inf"
  | .finite negative m e =>
    (if negative then ['-'] else []) ++ if m = 0 then zeroText else magnitude m e

/-- The shortest text that reads back as the double: `1.5`, `100.0`, `1e+16`. -/
def shortestText (x : Float) : Text :=
  writeFloat "0.0" (fun m e => valueStyle.write (shortestDigits m e)) x

/-- The double with six significant digits: `1.5`, `100`, `1e+06`. -/
def summaryText (x : Float) : Text :=
  writeFloat "0" (fun m e => summaryStyle.write (roundedDigits 6 m e)) x

/-- The positive double `significand * 2 ^ exponent` with `places` digits after the point, a tie to
the even digit. -/
def fixedDigits (places significand : Nat) (exponent : Int) : Text :=
  let (a, b) := timesTwoPow significand 1 exponent
  let n := divNearest (a * Nat.pow 10 places) b
  let digits := Text.padLeftWith '0' (places + 1) (Text.ofNat n)
  let whole := digits.length - places
  digits.take whole ++ '.' :: digits.drop whole

/-- The double with `places` digits after the point. -/
def fixedText (places : Nat) (x : Float) : Text :=
  writeFloat (fixedDigits places 0 0) (fixedDigits places) x

end SchemaDiagram
