import SchemaDiagram.Text.Printable
import SchemaDiagram.Text.Basic

/-! # Quoted texts in messages

A message shows an offending text between quotes. Single quotes are used unless the text holds a
single quote and no double one. The backslash and the chosen quote are escaped, line feed, carriage
return and tab have their short escapes, and every other character that is not printable is shown
by its code with two, four or eight hexadecimal digits. -/

namespace SchemaDiagram.Text

/-- The last `width` hexadecimal digits of `n`. -/
def hexDigits : (width : Nat) → (n : Nat) → Text
  | 0, _ => []
  | width + 1, n => hexDigits width (n / 16) ++ [Nat.digitChar (n % 16)]

/-- Digits fill the width that is asked for. -/
@[simp] theorem length_hexDigits (width n : Nat) : (hexDigits width n).length = width := by
  induction width generalizing n with
  | zero => rfl
  | succ width ih => simp [hexDigits, ih]

/-- The quote that needs fewer escapes, the single one where both do. -/
def quoteFor (s : Text) : Char := if s.contains '\x27' && !s.contains '"' then '"' else '\x27'

/-- A character as it stands between the quotes `mark`. -/
def escapeIn (mark c : Char) : Text :=
  if c = '\\' || c = mark then ['\\', c]
  else if c = '\n' then "\\n"
  else if c = '\r' then "\\r"
  else if c = '\t' then "\\t"
  else if isPrintable c then [c]
  else if c.toNat < 0x100 then "\\x" ++ hexDigits 2 c.toNat
  else if c.toNat < 0x10000 then "\\u" ++ hexDigits 4 c.toNat
  else "\\U" ++ hexDigits 8 c.toNat

/-- The text between quotes. -/
def quoted (s : Text) : Text :=
  let mark := quoteFor s
  mark :: s.flatMap (escapeIn mark) ++ [mark]

end SchemaDiagram.Text
