import SchemaDiagram.Expression.Numeral

/-! # Expressions

Of an expression that has been read its literals are kept: constants, tuples, sets, dictionaries,
signed numbers, sums, and calls with the number of their arguments. Of all others only the kind is
known, which a message may name.

* **`Constant`**, **`Expr`** — constants and expressions.
* **`Expr.kind`** — the kind of an expression in messages.
* **`Expr.invalidTarget?`** — the part of an expression that no loop can give values to. -/

namespace SchemaDiagram.Expression

/-- A constant. -/
inductive Constant where
  | none
  | truth (b : Bool)
  | ellipsis
  | text
  | bytes
  | number (n : Numeral)
deriving DecidableEq, Repr

/-- The arguments of a call, counted. -/
structure Arguments where
  /-- Those without a name, starred ones as well. -/
  plain : Nat
  /-- Those with a name. -/
  named : Nat
  /-- The unpacked mappings. -/
  unpacked : Nat
deriving DecidableEq, Repr

/-- A kind of expression of which nothing else is kept. -/
inductive OtherExpr where
  | attribute
  | operation
  | lambda
  | conditional
  | assignment
  | generator
  | setComprehension
  | dictComprehension
  | yielding
  | awaiting
  | template
deriving DecidableEq, Repr

/-- An expression. -/
inductive Expr where
  | constant (c : Constant)
  | name (s : Text)
  | tuple (items : List Expr)
  | set (items : List Expr)
  /-- A dictionary; an unpacked mapping has no key. -/
  | dict (entries : List (Option Expr × Expr))
  | starred (e : Expr)
  /-- A number with a sign, a minus or a plus. -/
  | signed (isMinus : Bool) (e : Expr)
  /-- A sum or a difference. -/
  | sum (isMinus : Bool) (a b : Expr)
  /-- A comparison, of which it is known whether it starts with the question for a member. -/
  | comparison (left : Expr) (isMembership : Bool)
  /-- A call; what is called is known only where it is a name. -/
  | call (name : Option Text) (arguments : Arguments)
  | other (kind : OtherExpr)

namespace Expr

/-- The kind of an expression in messages. -/
def kind : Expr → String
  | constant .none => "None"
  | constant (.truth true) => "True"
  | constant (.truth false) => "False"
  | constant .ellipsis => "ellipsis"
  | constant _ => "literal"
  | name _ => "name"
  | tuple _ => "tuple"
  | set _ => "set display"
  | dict _ => "dict literal"
  | starred _ => "starred"
  | signed .. | sum .. | other .operation => "expression"
  | comparison .. => "comparison"
  | call .. => "function call"
  | other .attribute => "attribute"
  | other .lambda => "lambda"
  | other .conditional => "conditional expression"
  | other .assignment => "named expression"
  | other .generator => "generator expression"
  | other .setComprehension => "set comprehension"
  | other .dictComprehension => "dict comprehension"
  | other .yielding => "yield expression"
  | other .awaiting => "await expression"
  | other .template => "f-string expression"

/-- Whether the expression is the name of a command that takes no brackets elsewhere. -/
def isCommand : Expr → Bool
  | name s => s = "print".toList || s = "exec".toList
  | _ => false

mutual

/-- The part of an expression that no loop can give values to. The members that a loop runs over
may have been taken for the right side of a comparison. -/
def invalidTarget? : Expr → Option Expr
  | name _ | other .attribute => none
  | tuple items => invalidTargetAmong? items
  | starred e => invalidTarget? e
  | comparison left isMembership => if isMembership then invalidTarget? left else none
  | e => some e

/-- The first such part of some expressions. -/
def invalidTargetAmong? : List Expr → Option Expr
  | [] => none
  | e :: rest => (invalidTarget? e).or (invalidTargetAmong? rest)

end

end Expr

end SchemaDiagram.Expression
