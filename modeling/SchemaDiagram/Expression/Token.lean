import SchemaDiagram.Expression.Name
import SchemaDiagram.Expression.Template

/-! # Tokens of expressions

An expression is read token by token: names, words that are reserved, numerals, texts and signs.
Outside of brackets the end of a line is a token as well, and so is the first deeper indentation.
Where a character belongs to no token the tokens end early.

* **`Token`**, **`TokenKind`** — a token with its line and the brackets that are open behind it.
* **`TokensEnd`** — why the tokens end.
* **`tokensOf`** — the tokens of a text. -/

namespace SchemaDiagram.Expression

/-- What a token is. -/
inductive TokenKind where
  | name
  | word
  | numeral
  | quotation
  | sign
  | lineEnd
  | indent
  | dedent
  | finish
deriving DecidableEq, Repr

/-- A token. -/
structure Token where
  /-- What it is. -/
  kind : TokenKind
  /-- Its characters. -/
  text : Text
  /-- How many brackets are open behind it. -/
  depth : Nat
  /-- The number of its first line. -/
  line : Nat
  /-- The end of the text had to be seen to know that the token ends there. -/
  isLast : Bool
deriving DecidableEq, Repr

/-- A bracket that is open, with the number of its line. -/
structure OpenBracket where
  /-- The bracket. -/
  mark : Char
  /-- The number of its line. -/
  line : Nat
deriving DecidableEq, Repr

/-- Why there are no more tokens. -/
inductive TokensEnd where
  /-- The text has ended. -/
  | complete
  /-- What follows makes the text no expression, whatever stands before. -/
  | refused (f : SyntaxFault)
  /-- Who wants more is told what is wrong; some bracket may be open. -/
  | halted (f : SyntaxFault) (innermost : Option OpenBracket)
deriving DecidableEq, Repr

/-- The words that are no names. -/
def reservedWords : List Text :=
  ["False", "None", "True", "and", "as", "assert", "async", "await", "break", "class", "continue",
    "def", "del", "elif", "else", "except", "finally", "for", "from", "global", "if", "import",
    "in", "is", "lambda", "nonlocal", "not", "or", "pass", "raise", "return", "try", "while",
    "with", "yield"].map String.toList

/-- The signs of several characters, the longest first. -/
def longSigns : List Text :=
  ["**=", "//=", ">>=", "<<=", "...", "!=", "%=", "&=", "**", "*=", "+=", "-=", "->", "//", "/=",
    ":=", "<<", "<=", "<>", "==", ">=", ">>", "@=", "^=", "|="].map String.toList

/-- The sign at the start of a text that is not empty. -/
def signAt (s : Text) : Text := (longSigns.find? (·.isPrefixOf s)).getD (s.take 1)

/-! ## Reading tokens -/

/-- A place in a text that is read token by token. -/
structure TokenReader where
  /-- What has not been read. -/
  rest : Text
  /-- The number of the line. -/
  line : Nat
  /-- The brackets that are open, the last one first. -/
  brackets : List OpenBracket
  /-- The columns at which deeper lines start, the last one first. A tab counts up to eight
  columns, and one in the second number. -/
  indents : List (Nat × Nat)
  /-- A line starts here, outside of brackets. -/
  isLineStart : Bool
deriving DecidableEq, Repr

/-- A step of a reader: the tokens that it finds, and where it goes on. -/
abbrev TokenStep := Except TokensEnd (List Token × TokenReader)

namespace TokenReader

/-- A reader at the start of a text whose first line has the given number. -/
def ofText (line : Nat) (s : Text) : TokenReader := ⟨s, line, [], [], true⟩

/-- The end of the tokens at a place where something is wrong. -/
def halt (r : TokenReader) (f : SyntaxFault) : TokensEnd := .halted f r.brackets.head?

/-- A token before `rest`, and what follows it. A text ends with its quotes, and a sign of three
characters is not followed by a fourth. -/
def take (r : TokenReader) (kind : TokenKind) (text rest : Text) : TokenStep :=
  let isClosed := kind = .quotation || (kind = .sign && text.length = 3)
  .ok ([⟨kind, text, r.brackets.length, r.line, rest.isEmpty && !isClosed⟩], { r with rest })

/-- A token without characters. -/
def mark (r : TokenReader) (kind : TokenKind) : Token := ⟨kind, [], 0, r.line, false⟩

/-- The blanks at the start of a line. -/
structure Indent where
  /-- The column behind them. -/
  column : Nat
  /-- The same where a tab counts one. -/
  narrow : Nat
  /-- The column of the first backslash that joins the line with the next one, or zero. -/
  held : Nat
  /-- How many lines are joined. -/
  joined : Nat
deriving DecidableEq, Repr

/-- The columns of blanks. -/
def Indent.columns (i : Indent) : Nat × Nat :=
  if i.held = 0 then (i.column, i.narrow) else (i.held, i.held)

/-- The blanks at the start of a line, where some have been read, and what follows them. A
backslash that joins no lines is left. -/
def indentFrom (i : Indent) : Text → Indent × Text
  | ' ' :: rest => indentFrom { i with column := i.column + 1, narrow := i.narrow + 1 } rest
  | '\t' :: rest =>
    indentFrom { i with column := (i.column / 8 + 1) * 8, narrow := i.narrow + 1 } rest
  | '\x0c' :: rest => indentFrom { i with column := 0, narrow := 0 } rest
  | '\\' :: '\n' :: c :: rest =>
    let held := if i.held = 0 then i.column else i.held
    indentFrom { i with held, joined := i.joined + 1 } (c :: rest)
  | rest => (i, rest)

/-- The start of a line outside of brackets: a deeper line opens an indentation, and a less deep
one closes some. Lines without tokens do not count. -/
def startLine (r : TokenReader) : TokenStep :=
  let (indent, rest) := indentFrom ⟨0, 0, 0, 0⟩ r.rest
  let columns := indent.columns
  let here := { r with rest, line := r.line + indent.joined, isLineStart := false }
  if rest.head? = some '\\' then .error (here.halt .strayBackslash)
  else if rest.head?.any fun c => c = '#' || c = '\n' then
    match rest.dropWhile (· ≠ '\n') with
    | _ :: rest => .ok ([], { here with rest, line := here.line + 1, isLineStart := true })
    | [] => .ok ([], { here with rest := [] })
  else
    let (last, lastNarrow) := r.indents.headD (0, 0)
    if columns.1 = last then
      if columns.2 = lastNarrow then .ok ([], here) else .error (here.halt .indented)
    else if last < columns.1 then
      if columns.2 ≤ lastNarrow then .error (here.halt .indented)
      else .ok ([here.mark .indent], { here with indents := columns :: r.indents })
    else
      let kept := r.indents.dropWhile fun indent => columns.1 < indent.1
      if kept.headD (0, 0) ≠ columns then .error (here.halt .indented)
      else .ok (List.replicate (r.indents.length - kept.length) (here.mark .dedent),
        { here with indents := kept })

/-- The sign at the start of the rest. -/
def takeSign (r : TokenReader) (c : Char) (rest : Text) : TokenStep :=
  let sign := signAt r.rest
  if sign.length ≠ 1 then r.take .sign sign (r.rest.drop sign.length)
  else if "([\x7b".toList.contains c then
    if mostBrackets ≤ r.brackets.length then .error (.refused .tooManyBrackets)
    else ({ r with brackets := ⟨c, r.line⟩ :: r.brackets }).take .sign sign rest
  else if ")]\x7d".toList.contains c then
    match r.brackets with
    | [] => .error (.refused (.unmatched c))
    | opening :: brackets =>
      if areBrackets opening.mark c then ({ r with brackets }).take .sign sign rest
      else .error (.refused (.mismatched c opening.mark
        (if opening.line = r.line then none else some opening.line)))
  else if isPrintable c then r.take .sign sign rest
  else .error (.refused (.strayCharacter c))

/-- The name or reserved word at the start of the rest. -/
def takeName (r : TokenReader) : TokenStep :=
  let name := r.rest.takeWhile looksLikeName
  match if name.all fun c => c.toNat < 0x80 then none else strayInName? name with
  | some c => .error (.refused (.strayCharacter c))
  | none =>
    r.take (if reservedWords.contains name then .word else .name) name (r.rest.drop name.length)

/-- The text in quotes at the start of the rest. -/
def takeQuotation (r : TokenReader) (q : Quotation) (behind : Text) : TokenStep := do
  let (inside, rest, line) ← (q.split r.line behind).mapError .refused
  let letters := (r.rest.takeWhile Char.isAlpha).length
  let text := r.rest.take (letters + q.size + inside.length + q.size)
  let (tokens, after) ← r.take .quotation text rest
  return (tokens, { after with line })

/-- The numeral at the start of the rest. -/
def takeNumeral (r : TokenReader) : TokenStep := do
  let text ← (numeralAt r.rest).mapError .refused
  r.take .numeral text (r.rest.drop text.length)

/-- One step. -/
def step (r : TokenReader) : TokenStep :=
  if r.isLineStart then r.startLine
  else match r.rest with
    | [] =>
      match r.brackets with
      | [] => .ok ([r.mark .finish], r)
      | opening :: _ => .error (r.halt (.neverClosed opening.mark))
    | c :: rest =>
      if " \t\x0c".toList.contains c then .ok ([], { r with rest })
      else if c = '#' then .ok ([], { r with rest := rest.dropWhile (· ≠ '\n') })
      else if c = '\n' then
        let after := { r with rest, line := r.line + 1, isLineStart := r.brackets.isEmpty }
        if r.brackets.isEmpty then .ok ([r.mark .lineEnd], after) else .ok ([], after)
      else if c = '\\' then
        match rest with
        | '\n' :: d :: rest => .ok ([], { r with rest := d :: rest, line := r.line + 1 })
        | _ => .error (r.halt .strayBackslash)
      else match quotationAt? r.rest with
        | some (q, behind) => r.takeQuotation q behind
        | none =>
          if c.isDigit || (c = '.' && rest.head?.any Char.isDigit) then r.takeNumeral
          else if looksLikeName c then r.takeName
          else r.takeSign c rest

end TokenReader

/-- The tokens that a reader finds in `steps` steps at most, and why there are no more. -/
def tokensFrom (r : TokenReader) : (steps : Nat) → List Token × TokensEnd
  | 0 => ([], .complete)
  | steps + 1 =>
    match r.step with
    | .error e => ([], e)
    | .ok (tokens, after) =>
      if tokens.any (·.kind = .finish) then (tokens, .complete)
      else
        let (more, e) := tokensFrom after steps
        (tokens ++ more, e)

/-- The tokens of a text whose first line has the given number, and why there are no more. -/
def tokensOf (line : Nat) (s : Text) : List Token × TokensEnd :=
  tokensFrom (.ofText line s) (2 * s.length + 2)

end SchemaDiagram.Expression
