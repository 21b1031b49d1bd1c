import SchemaDiagram.Number.Length
import SchemaDiagram.Number.Metric

/-! # Mixed numbers

A coordinate read from a document is a whole number, kept exactly, or a double. Whole numbers among
themselves are added, subtracted and multiplied exactly; a whole number meets a double as the
nearest double. Where that double does not exist the result is a *fault*, and every operation on a
fault gives that fault.

* **`Mixed`** — the numbers, with their operations and order. -/

namespace SchemaDiagram

/-- Why a calculation has no result. -/
inductive NumberFault where
  /-- A whole number is past the largest double. -/
  | wholeTooLarge
  /-- The quotient of two whole numbers is past the largest double. -/
  | quotientTooLarge
  /-- A divisor is zero. -/
  | zeroDivisor
  /-- An infinity has no integer part. -/
  | infinitePart
  /-- What is no number has no integer part. -/
  | undefinedPart
deriving DecidableEq, Repr

/-- The wording of a fault. -/
def NumberFault.message : NumberFault → String
  | .wholeTooLarge => "int too large to convert to float"
  | .quotientTooLarge => "integer division result too large for a float"
  | .zeroDivisor => "float division by zero"
  | .infinitePart => "cannot convert float infinity to integer"
  | .undefinedPart => "cannot convert float NaN to integer"

/-- The name of the kind of a fault. -/
def NumberFault.category : NumberFault → String
  | .zeroDivisor => "ZeroDivisionError"
  | .undefinedPart => "ValueError"
  | .wholeTooLarge | .quotientTooLarge | .infinitePart => "OverflowError"

/-- A whole number, a double, or the fault of a calculation. -/
inductive Mixed where
  /-- An exact whole number. -/
  | whole (n : Int)
  /-- A double. -/
  | real (x : Float)
  /-- A calculation without a result. -/
  | fault (f : NumberFault)

namespace Mixed

/-- The double that a number takes part as in calculations with doubles. -/
def toFloat : Mixed → Except NumberFault Float
  | whole n => (floatOfInt? n).elim (.error .wholeTooLarge) .ok
  | real x => .ok x
  | fault f => .error f

/-- The result of a calculation on doubles. -/
def ofExcept : Except NumberFault Float → Mixed
  | .ok x => real x
  | .error f => fault f

/-- The number that a double is: the whole number it is equal to, else itself. -/
def ofFloat (x : Float) : Mixed := (exactInt? x).elim (real x) whole

/-- An operation that is exact on whole numbers and else works on doubles. -/
def combine (exact : Int → Int → Int) (rounded : Float → Float → Float) (a b : Mixed) : Mixed :=
  match a, b with
  | whole m, whole n => whole (exact m n)
  | a, b => ofExcept do
    let x ← a.toFloat
    let y ← b.toFloat
    return rounded x y

/-- The quotient of two whole numbers, rounded once. -/
def quotient (m n : Int) : Mixed :=
  if n = 0 then fault .zeroDivisor
  else
    let x := nearestFloat (decide (m < 0) != decide (n < 0)) m.natAbs n.natAbs
    if x.isInf then fault .quotientTooLarge else real x

/-- The quotient of two numbers; a divisor that is zero is a fault. -/
def divide : Mixed → Mixed → Mixed
  | whole m, whole n => quotient m n
  | a, b => ofExcept do
    let x ← a.toFloat
    let y ← b.toFloat
    if y == 0 then throw .zeroDivisor
    return x / y

/-- Whether the first number is below the second one; a fault stands above all numbers. -/
def below : Mixed → Mixed → Bool
  | whole m, whole n => decide (m < n)
  | whole m, real y => intLtFloat m y
  | real x, whole n => floatLtInt x n
  | real x, real y => decide (x < y)
  | fault _, _ => false
  | _, fault _ => true

/-- Whether the two numbers are equal. -/
def same : Mixed → Mixed → Bool
  | whole m, whole n => m == n
  | whole m, real y => floatEqInt y m
  | real x, whole n => floatEqInt x n
  | real x, real y => x == y
  | _, _ => false

instance : Add Mixed := ⟨combine (· + ·) (· + ·)⟩

instance : Sub Mixed := ⟨combine (· - ·) (· - ·)⟩

instance : Mul Mixed := ⟨combine (· * ·) (· * ·)⟩

instance : Div Mixed := ⟨divide⟩

instance : NatCast Mixed := ⟨fun n => whole n⟩

instance : LT Mixed := ⟨fun a b => below a b = true⟩

instance : LE Mixed := ⟨fun a b => (below a b || same a b) = true⟩

instance : DecidableLT Mixed := fun a b => inferInstanceAs (Decidable (below a b = true))

instance : DecidableLE Mixed := fun a b =>
  inferInstanceAs (Decidable ((below a b || same a b) = true))

/-- Sums of whole numbers are exact. -/
@[simp] theorem whole_add_whole (m n : Int) : whole m + whole n = whole (m + n) := rfl

/-- Differences of whole numbers are exact. -/
@[simp] theorem whole_sub_whole (m n : Int) : whole m - whole n = whole (m - n) := rfl

/-- Products of whole numbers are exact. -/
@[simp] theorem whole_mul_whole (m n : Int) : whole m * whole n = whole (m * n) := rfl

/-- Whether a whole number takes 64 bits with its sign. -/
def fitsWord (n : Int) : Bool :=
  decide (-0x8000000000000000 ≤ n) && decide (n < 0x8000000000000000)

instance : Metric Mixed where
  length dx dy := ofExcept do
    let x ← dx.toFloat
    let y ← dy.toFloat
    return lengthOfFloats x y

/-- The fault of a number, if it is one. -/
def fault? : Mixed → Option NumberFault
  | fault f => some f
  | _ => none

/-- The number rounded to the nearest integer, a half upwards. -/
def roundHalfUp (a : Mixed) : Except NumberFault Int := do
  let x ← (a + real 0.5).toFloat
  match floorOfFloat? x with
  | some n => return n
  | none => throw (if x.isNaN then .undefinedPart else .infinitePart)

end Mixed

end SchemaDiagram
