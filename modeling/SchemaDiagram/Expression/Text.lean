import SchemaDiagram.Expression.Grammar
import SchemaDiagram.Text.Lines

/-! # Expressions as texts

A text is an expression if the grammar reads all its tokens. If not, it is read a second time with
an eye on common mistakes. A mistake in the tokens themselves counts more than one in their order,
also where it stands behind.

* **`Expr.ofText`** — the expression that a text is, or what is wrong with it. -/

namespace SchemaDiagram.Expression

/-- The readings of all rules, nested at most `depth` deep. -/
def ruleReading : (depth : Nat) → Rule → Reading Expr
  | 0, _ => Reading.nothing
  | depth + 1, r => fun source place memory =>
    Reading.remembered r (Grammar.rule (ruleReading depth) r) source place memory

/-- What is wrong with tokens of which `reached` have been looked at when a mistake was met. The
end of the tokens counts more, if it is a mistake, and so does a bracket that is still open on an
earlier line. -/
def ReadingSource.verdict (source : ReadingSource) (reached : Nat) (f : SyntaxFault) :
    SyntaxFault :=
  match source.finish with
  | .refused f => f
  | .halted _ (some opening) =>
    if opening.line < (source.tokens[reached - 1]?).elim 0 Token.line then .neverClosed opening.mark
    else f
  | _ => f

/-- What is wrong with the tokens of a reading that was refused. Nothing else counts once the end
has been seen. -/
def Refusal.verdict (r : Refusal) (source : ReadingSource) : SyntaxFault :=
  if r.isAtEnd || (source.tokens[r.reached - 1]?).any Token.isLast then r.fault
  else source.verdict r.reached r.fault

/-- Reads tokens, given the reading of the start rule. No more than twenty rules are nested
between two tokens. -/
def readTokens (start : (Rule → Reading Expr) → Reading Expr) (source : ReadingSource) :
    Except SyntaxFault Expr :=
  let reading := start (ruleReading (20 * (source.tokens.size + 2)))
  match reading { source with isStrict := false } 0 ⟨0, ∅⟩ with
  | .error r => .error (r.verdict source)
  | .ok (some e, _) => .ok e
  | .ok (none, _, first) =>
    match reading { source with isStrict := true } 0 ⟨first.reached, ∅⟩ with
    | .error r => .error (r.verdict source)
    | .ok (_, _, second) =>
      if (source.tokens[first.reached - 1]?).any fun t => t.kind = .indent || t.kind = .dedent then
        .error .indented
      else .error (source.verdict second.reached .unreadable)

/-- A fault of an expression in a field as a fault of the whole. Faults of tokens are told as they
are. -/
def SyntaxFault.ofField : SyntaxFault → SyntaxFault
  | inField f => inField f
  | openText line => openText line
  | openLongText line => openLongText line
  | unmatched c => unmatched c
  | mismatched closing opening line => mismatched closing opening line
  | tooManyBrackets => tooManyBrackets
  | badNumber kind => badNumber kind
  | badDigit d kind => badDigit d kind
  | leadingZeros => leadingZeros
  | strayCharacter c => strayCharacter c
  | f => inField f

/-- Refuses the expression of a field that starts on a line of the given number. Templates are
nested at most `depth` deep. -/
def checkField : (depth line : Nat) → Text → Except SyntaxFault Unit
  | 0, _, _ => .error .unreadable
  | depth + 1, line, s =>
    let (tokens, finish) := tokensOf line (concat ["(", s, ")\n"])
    match readTokens Grammar.field ⟨tokens.toArray, finish, checkField depth, false⟩ with
    | .ok _ => .ok ()
    | .error f => .error f.ofField

/-- The expression that a text is. -/
def Expr.ofText (s : Text) : Except SyntaxFault Expr :=
  if s.contains (Char.ofNat 0) then .error .nullCharacter
  else
    let (tokens, finish) := tokensOf 1 s.withLineFeeds
    readTokens Grammar.whole ⟨tokens.toArray, finish, checkField s.length, false⟩

end SchemaDiagram.Expression
