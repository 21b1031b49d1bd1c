import SchemaDiagram.Declaration.Endpoint
import SchemaDiagram.Model.Table
import SchemaDiagram.Settings.Typed

/-! # Reference lines

A reference line is `end operator end [settings]`. -/

namespace SchemaDiagram

/-- The reference that a line declares, with reports on its settings; only a report where it
declares none. -/
def readReference (text : Text) (line : Option Nat) (name : Option Text) :
    Option Relationship × List Diagnostic :=
  let (head, settingsText) := splitBracket text.trim
  match findOperator? head with
  | none => (none, [⟨.missingRefOperator text.trim, line⟩])
  | some (offset, operator) =>
    match Endpoint.read? (head.take offset), Endpoint.read? (head.drop (offset + operator.length))
    with
    | some left, some right =>
      let settings := parseSettings (settingsText.getD [])
      (some
        { fromTable := left.table
          fromColumns := left.columns
          toTable := right.table
          toColumns := right.columns
          cardinality := .ofOperator operator
          settings
          name },
        (interpretSettings settings .ref line).problems)
    | _, _ => (none, [⟨.unreadableEndpoints text.trim, line⟩])

end SchemaDiagram
