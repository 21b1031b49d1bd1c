import SchemaDiagram.Expression.Text

/-! # Literals

A literal is an expression whose value shows: a constant, a tuple, a set or a dictionary of
literals, a number with a sign, or the sum of a real and an imaginary number. A set and the keys
of a dictionary hold no sets and dictionaries.

* **`Literal`** — what is known of the value of a literal.
* **`Literal.ofExpr`** — the value of an expression, or why it has none. -/

namespace SchemaDiagram.Expression

/-- What is known of the value of a literal. -/
inductive Literal where
  /-- A text, bytes, a truth value or a name of nothing. -/
  | plain
  /-- A whole number. -/
  | whole (n : Int)
  /-- A real number that need not be whole. -/
  | real
  /-- A number that need not be real. -/
  | complex
  | tuple (items : List Literal)
  | set
  | dict

/-- Why an expression is no literal. -/
inductive LiteralFault where
  /-- It is computed. -/
  | computed
  /-- A mapping is unpacked into a dictionary. -/
  | unpacked
  /-- A value that may change stands where none can. -/
  | changeable (kind : String)
  /-- A whole number is added to an imaginary one and has no nearest double. -/
  | tooLarge
deriving DecidableEq, Repr

/-- The wording of a fault. -/
def LiteralFault.message : LiteralFault → Text
  | computed => "malformed node or string"
  | unpacked => "malformed node or string: None"
  | changeable kind => concat ["unhashable type: '", kind.toList, "'"]
  | tooLarge => "int too large to convert to float"

namespace Literal

/-- Refuses a value that may change. -/
def checkFixed : Literal → Except LiteralFault Unit
  | tuple items => checkAll items
  | set => .error (.changeable "set")
  | dict => .error (.changeable "dict")
  | _ => .ok ()
where
  /-- Refuses values of which one may change. -/
  checkAll : List Literal → Except LiteralFault Unit
    | [] => .ok ()
    | item :: rest => do
      checkFixed item
      checkAll rest

/-- The least whole number that no double is nearest to. -/
def doubleLimit : Nat := Nat.pow 2 1024 - Nat.pow 2 970

/-- The value of a number. -/
def ofNumeral : Numeral → Literal
  | .whole n => whole n
  | .real => real
  | .imaginary => complex

/-- The value of a constant. -/
def ofConstant : Constant → Literal
  | .number n => ofNumeral n
  | _ => plain

/-- The value of a number, perhaps with a sign. -/
def signed? : Expr → Option Literal
  | .constant (.number n) => some (ofNumeral n)
  | .signed isMinus (.constant (.number n)) =>
    some (match ofNumeral n with
      | whole n => whole (if isMinus then -n else n)
      | value => value)
  | _ => none

/-- The sum of a number with a sign and an imaginary number. -/
def sum (a b : Expr) : Except LiteralFault Literal :=
  match signed? a, b with
  | some (whole n), .constant (.number .imaginary) =>
    if doubleLimit ≤ n.natAbs then .error .tooLarge else .ok complex
  | some real, .constant (.number .imaginary) => .ok complex
  | _, _ => .error .computed

mutual

/-- The value of an expression. -/
def ofExpr : Expr → Except LiteralFault Literal
  | .constant c => .ok (ofConstant c)
  | .tuple items => do return tuple (← ofItems items)
  | .set items => do
    ofMembers items
    return set
  | .dict entries => do
    ofEntries entries
    return dict
  | .call (some name) counts =>
    if name = "set".toList ∧ counts = ⟨0, 0, 0⟩ then .ok set else .error .computed
  | .sum _ a b => sum a b
  | .signed isMinus e =>
    match signed? (.signed isMinus e) with
    | some value => .ok value
    | none => .error .computed
  | _ => .error .computed

/-- The values of some expressions. -/
def ofItems : List Expr → Except LiteralFault (List Literal)
  | [] => .ok []
  | e :: rest => do
    let value ← ofExpr e
    return value :: (← ofItems rest)

/-- Refuses expressions that are no members of a set. -/
def ofMembers : List Expr → Except LiteralFault Unit
  | [] => .ok ()
  | e :: rest => do
    checkFixed (← ofExpr e)
    ofMembers rest

/-- Refuses expressions that are no keys and values. -/
def ofEntries : List (Option Expr × Expr) → Except LiteralFault Unit
  | [] => .ok ()
  | (some key, value) :: rest => do
    let key ← ofExpr key
    let _ ← ofExpr value
    checkFixed key
    ofEntries rest
  | (none, _) :: _ => .error .unpacked

end

end Literal

end SchemaDiagram.Expression
