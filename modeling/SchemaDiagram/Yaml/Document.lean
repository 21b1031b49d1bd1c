import SchemaDiagram.Text.Lines
import SchemaDiagram.Yaml.Node

/-! # Configuration files

A configuration file is written in YAML without references, tags, directives and block texts. A file
that uses one of these cannot be read.

* **`Yaml.read`** — the data document of a text, or why it has none. -/

namespace SchemaDiagram.Yaml

/-- Whether a character may stand in a file. -/
def isAllowed (c : Char) : Bool :=
  let n := c.toNat
  n = 9 || n = 10 || (0x20 ≤ n && n ≤ 0x7e) || n = 0x85 || (0xa0 ≤ n && n ≤ 0xfffd) || 0x10000 ≤ n

/-- The data document of a text. -/
def read (text : Text) : Except Fault Json :=
  let text := text.withLineFeeds
  match (if text.all isAllowed then Tokens.ofText? text else none).bind Node.ofTokens? with
  | some node => node.value
  | none => .error .unreadable

end SchemaDiagram.Yaml
