import SchemaDiagram.Expression.Literal
import SchemaDiagram.Text.Blank

/-! # Calls in tags

A tag may call something instead of naming a style. What stands behind its equals sign is a name,
perhaps with arguments in parentheses, or arguments alone. Arguments are a literal, and a name
without them has none.

* **`HandlerCall.arguments`** — the arguments of a call.
* **`HandlerCall.check`** — refuses a call whose arguments are no literal. -/

namespace SchemaDiagram.HandlerCall

open Expression

/-- The arguments of a call. -/
def arguments (call : Text) : Text :=
  let s := Text.trim call
  match s.dropWhile fun c => isWordChar c || c = '.' with
  | [] => "()"
  | '(' :: rest =>
    if rest.getLast? = some ')' && !rest.contains '\n' then '(' :: rest else s
  | _ => s

/-- Why a call cannot be read. -/
inductive Fault where
  /-- Its arguments are no expression. -/
  | unreadable (f : SyntaxFault)
  /-- Its arguments are an expression without a value. -/
  | worthless (f : LiteralFault)
deriving DecidableEq, Repr

/-- The wording of a fault of a call. -/
def Fault.message (call : Text) : Fault → Text
  | unreadable f =>
    concat ["error parsing ", (arguments call).quoted, " in ", call.quoted, "; ", f.message]
  | worthless f => concat ["error parsing ", call.quoted, "; ", f.message]

/-- Refuses a call whose arguments are no literal. -/
def check (call : Text) : Except Fault Unit := do
  let e ← (Expr.ofText (arguments call)).mapError .unreadable
  let _ ← (Literal.ofExpr e).mapError .worthless

end SchemaDiagram.HandlerCall
