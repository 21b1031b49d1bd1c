import SchemaDiagram.Number.Rounding

/-! # Doubles by value

A double is a sign, a significand and a power of two, an infinity or not a number. This module reads
those parts off the bits of a `Float` and finds the double nearest to a quotient of natural numbers,
so that every conversion to and from decimals is exact integer arithmetic.

* **`Binary.ofFloat x`** — the parts of `x`.
* **`nearestFloat negative num den`** — the double nearest to `± num / den`, the even one of two.
* **`exactInt?`**, **`floatOfInt?`** — the passage between doubles and integers. -/

namespace SchemaDiagram

/-- The value of a double. -/
inductive Binary where
  /-- No number. -/
  | nan
  /-- An infinity of the given sign. -/
  | infinite (negative : Bool)
  /-- The number `± significand * 2 ^ exponent`. -/
  | finite (negative : Bool) (significand : Nat) (exponent : Int)

/-- The bits of an infinity, without its sign. -/
def infinityBits : Nat := 0x7ff * Nat.pow 2 52

/-- The value that a pattern of 64 bits stands for. -/
def Binary.ofBits (bits : Nat) : Binary :=
  let negative := decide (Nat.pow 2 63 ≤ bits)
  let magnitude := bits % Nat.pow 2 63
  let field : Nat := magnitude / Nat.pow 2 52
  let fraction : Nat := magnitude % Nat.pow 2 52
  if infinityBits < magnitude then .nan
  else if magnitude = infinityBits then .infinite negative
  else if field = 0 then .finite negative fraction (-1074)
  else .finite negative (fraction + Nat.pow 2 52) ((field : Int) - 1075)

/-- The value of a double. -/
def Binary.ofFloat (x : Float) : Binary := .ofBits x.toBits.toNat

/-- The product with a power of two, for a negative exponent as a larger denominator. -/
def timesTwoPow (num den : Nat) (exponent : Int) : Nat × Nat :=
  match exponent with
  | .ofNat e => (num * Nat.pow 2 e, den)
  | .negSucc e => (num, den * Nat.pow 2 (e + 1))

/-- The bits of the double nearest to the positive quotient `num / den`: the exponent is the least
one for which the rounded significand has at most 53 bits, and not below that of the subnormal
numbers. A quotient past the largest double gives the infinity. -/
def nearestBits (num den : Nat) : Nat :=
  -- The logarithms give the exponent up to one.
  let guess : Int := (num.log2 : Int) - (den.log2 : Int) - 53
  let fits (e : Int) : Bool :=
    let (a, b) := timesTwoPow num den (-e)
    decide (a / b < Nat.pow 2 53)
  let exponent := max (if fits guess then guess else guess + 1) (-1074)
  let (a, b) := timesTwoPow num den (-exponent)
  let significand := divNearest a b
  -- A carry into the next power of two comes out right, for the fields are added.
  let bits := if significand < Nat.pow 2 52 then significand
    else (exponent + 1075).toNat * Nat.pow 2 52 + (significand - Nat.pow 2 52)
  min bits infinityBits

/-- The double nearest to `± num / den`, the one with the even significand of two. -/
def nearestFloat (negative : Bool) (num den : Nat) : Float :=
  let bits := if num = 0 then 0 else nearestBits num den
  Float.ofBits (UInt64.ofNat (if negative then Nat.pow 2 63 + bits else bits))

/-- The double nearest to an integer, unless the integer is past the largest double. -/
def floatOfInt? (n : Int) : Option Float :=
  let x := nearestFloat (decide (n < 0)) n.natAbs 1
  if x.isInf then none else some x

/-- The integer part below the number, unless it is an infinity or no number. -/
def floorOfFloat? (x : Float) : Option Int :=
  match Binary.ofFloat x with
  | .finite negative m e =>
    let (a, b) := timesTwoPow m 1 e
    some (Int.fdiv (if negative then -(a : Int) else a) b)
  | _ => none

/-- The integer that a double is equal to, if there is one. -/
def exactInt? (x : Float) : Option Int :=
  match Binary.ofFloat x with
  | .finite negative m e =>
    let (a, b) := timesTwoPow m 1 e
    if a % b = 0 then some (if negative then -((a / b : Nat) : Int) else ((a / b : Nat) : Int))
    else none
  | _ => none

/-- Whether the double is below the integer. -/
def floatLtInt (x : Float) (n : Int) : Bool :=
  match Binary.ofFloat x with
  | .nan => false
  | .infinite negative => negative
  | .finite negative m e =>
    let (a, b) := timesTwoPow m 1 e
    decide ((if negative then -(a : Int) else a) < n * b)

/-- Whether the integer is below the double. -/
def intLtFloat (n : Int) (x : Float) : Bool :=
  match Binary.ofFloat x with
  | .nan => false
  | .infinite negative => !negative
  | .finite negative m e =>
    let (a, b) := timesTwoPow m 1 e
    decide (n * b < (if negative then -(a : Int) else a))

/-- Whether the double is equal to the integer. -/
def floatEqInt (x : Float) (n : Int) : Bool := exactInt? x == some n

end SchemaDiagram
