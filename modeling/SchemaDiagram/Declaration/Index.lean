import SchemaDiagram.Declaration.Endpoint
import SchemaDiagram.Model.Table
import SchemaDiagram.Settings.Typed

/-! # Index lines

An index line is a column or expression, or several in parentheses, with or without a settings
list. -/

namespace SchemaDiagram

/-- The text without the parentheses around it. -/
def dropParens (s : Text) : Text :=
  if s.head? = some '(' && s.getLast? = some ')' then (s.drop 1).dropLast else s

/-- The index that a line declares, with reports on its settings; only a report where it declares
none. -/
def readIndex (text : Text) (line : Option Nat) : Option IndexEntry × List Diagnostic :=
  let (head, settingsText) := splitBracket text.trim
  let columns := listedNames (dropParens head.trim)
  if columns.isEmpty then (none, [⟨.indexWithoutColumns text.trim, line⟩])
  else
    let settings := parseSettings (settingsText.getD [])
    (some ⟨columns, settings, text.trim⟩, (interpretSettings settings .index line).problems)

end SchemaDiagram
