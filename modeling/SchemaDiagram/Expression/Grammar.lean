import SchemaDiagram.Expression.Parameters

/-! # The grammar of expressions

Each rule is a reading that is given the readings of all rules. Square brackets do not occur.

* **`Grammar.rule`** — the reading of a rule.
* **`Grammar.whole`**, **`Grammar.field`** — an expression up to the end of the text, and the one
  in a field of a template. -/

namespace SchemaDiagram.Expression.Grammar

open Reading

variable (self : Rule → Reading Expr)

/-! ## Small parts -/

/-- A name that is given the value of an expression. -/
def assignment : Reading Expr := do
  let _ ← name
  sign ":="
  let _ ← self .expression
  return .other .assignment

/-- An expression that is not given to a name. -/
def unassigned : Reading Expr := do
  let e ← self .expression
  notAhead (sign ":=")
  return e

/-- An expression, perhaps given to a name. -/
def named : Reading Expr :=
  assignment self <|> whenStrict (self .assignmentMistake) <|> unassigned self

/-- Such an expression, or a starred one. -/
def starNamed : Reading Expr := (do
  sign "*"
  return .starred (← self .bitwiseOr)) <|> named self

/-- Expressions between commas; a comma makes a tuple. -/
def expressions (p : Reading Expr) : Reading Expr := do
  let first ← p
  let rest ← many (do sign ","; p)
  let comma ← optional (sign ",")
  return if rest.isEmpty && comma.isNone then first else .tuple (first :: rest)

/-- Expressions between commas, some of them starred. -/
def starExpressions : Reading Expr := expressions (self .starExpression)

/-- A starred expression among arguments. -/
def starred : Reading Expr := (do
  sign "*"
  return .starred (← self .expression)) <|> do
  sign "*"
  refuse .bareStar

/-- What a generator gives to its caller. -/
def yielding : Reading Expr := (do
  word "yield"
  word "from"
  let _ ← self .expression
  return .other .yielding) <|> do
  word "yield"
  let _ ← optional (starExpressions self)
  return .other .yielding

/-! ## Comprehensions -/

/-- What a loop gives values to. -/
def starTargets : Reading Unit := (do
  let _ ← self .starTarget
  notAhead (sign ",")) <|> do
  let _ ← self .starTarget
  let _ ← many (do sign ","; self .starTarget)
  let _ ← optional (sign ",")

/-- A loop that gives values to something else. -/
def targetMistake : Reading Unit := complaints [do
  let _ ← optional (word "async")
  word "for"
  let e ← starExpressions self
  return e.invalidTarget?.map fun part => .assigned part.kind]

/-- A loop in a comprehension, with its conditions. -/
def loop : Reading Unit := do
  let head ← optional do
    let _ ← optional (word "async")
    word "for"
    starTargets self
    word "in"
  match head with
  | some _ =>
    let _ ← self .disjunction
    let _ ← many (do word "if"; self .disjunction)
  | none => whenStrict (targetMistake self)

/-- The loops in a comprehension. -/
def loops : Reading Unit := do let _ ← many1 (loop self)

/-- A mistake in a comprehension. -/
def comprehensionMistake : Reading Expr := complaints [
  do
    let _ ← oneOf ["(", "\x7b"]
    let _ ← starred self
    loops self
    return some .starredComprehension,
  do
    sign "\x7b"
    let _ ← starNamed self
    sign ","
    let _ ← commaList (starNamed self)
    loops self
    return some .bareComprehension,
  do
    sign "\x7b"
    let _ ← starNamed self
    sign ","
    loops self
    return some .bareComprehension]

/-- A generator in parentheses. -/
def generator : Reading Expr := (do
  sign "("
  let _ ← assignment self <|> unassigned self
  loops self
  sign ")"
  return .other .generator) <|> whenStrict (comprehensionMistake self)

/-! ## Parentheses -/

/-- A tuple in parentheses. -/
def tuple : Reading Expr := do
  sign "("
  let items ← optional do
    let first ← starNamed self
    sign ","
    let rest ← optional (commaList (starNamed self))
    return first :: rest.getD []
  sign ")"
  return .tuple (items.getD [])

/-- A mistake in a group. -/
def groupMistake : Reading Expr := complaints [
  do
    sign "("
    let _ ← starred self
    sign ")"
    return some .starredGroup,
  do
    sign "("
    sign "**"
    let _ ← self .expression
    sign ")"
    return some .doubleStarredGroup]

/-- An expression in parentheses. -/
def group : Reading Expr := (do
  sign "("
  let e ← yielding self <|> named self
  sign ")"
  return e) <|> whenStrict (groupMistake self)

/-! ## Braces -/

/-- A key with its value. -/
def entry : Reading (Option Expr × Expr) := do
  let key ← self .expression
  sign ":"
  return (some key, ← self .expression)

/-- A key with its value, or an unpacked mapping. -/
def dictItem : Reading (Option Expr × Expr) := (do
  sign "**"
  return (none, ← self .bitwiseOr)) <|> entry self

/-- A key without a value that it could have. -/
def valueMistakes : List (Reading (Option SyntaxFault)) := [
  do
    let _ ← self .expression
    sign ":"
    sign "*"
    let _ ← self .bitwiseOr
    return some .starredValue,
  do
    let _ ← self .expression
    sign ":"
    ahead (oneOf ["\x7d", ","])
    return some .valueMissing]

/-- A key without a colon or a value. -/
def entryMistake : Reading (Option SyntaxFault) := complaints ((do
  let _ ← self .expression
  notAhead (sign ":")
  return some .colonMissing) :: valueMistakes self)

/-- A mistake in a dictionary. -/
def dictMistake : Reading Expr := complaints ((do
  let _ ← commaSeparated (dictItem self)
  sign ","
  entryMistake self) :: valueMistakes self)

/-- A dictionary. Its mistakes are always looked for. -/
def dict : Reading Expr := (do
  sign "\x7b"
  let items ← optional (commaList (dictItem self))
  sign "\x7d"
  return .dict (items.getD [])) <|> do
  sign "\x7b"
  dictMistake self

/-- A set. -/
def set : Reading Expr := do
  sign "\x7b"
  let items ← commaList (starNamed self)
  sign "\x7d"
  return .set items

/-- A dictionary made by loops. -/
def dictComprehension : Reading Expr := (do
  sign "\x7b"
  let _ ← entry self
  loops self
  sign "\x7d"
  return .other .dictComprehension) <|> whenStrict (complaints [do
  sign "\x7b"
  sign "**"
  let _ ← self .bitwiseOr
  loops self
  sign "\x7d"
  return some .doubleStarredComprehension])

/-- A set made by loops. -/
def setComprehension : Reading Expr := (do
  sign "\x7b"
  let _ ← named self
  loops self
  sign "\x7d"
  return .other .setComprehension) <|> whenStrict (comprehensionMistake self)

/-! ## Texts -/

/-- The texts of some tokens side by side, behind texts that are bytes or not. -/
def textsOf (isBytes : Option Bool) : List Token → Reading Constant
  | [] => pure (if isBytes = some true then .bytes else .text)
  | t :: rest =>
    match quotationAt? t.text with
    | none => nothing
    | some (q, _) => do
      let inside := q.inside t.text
      if !q.isTemplate then
        match if q.isBytes then checkBytes q.isRaw inside else checkText q.isRaw inside with
        | .error f => refuse (.badText f)
        | .ok _ => pure ()
      if isBytes = some !q.isBytes then refuse (.badText .mixed)
      if q.isTemplate then
        let check ← checkField
        let breaks := inside.count '\n'
        let line (rest : Text) : Nat :=
          if breaks = 0 then t.line else t.line + breaks - rest.count '\n'
        match checkTemplate (fun e rest => check (line (e ++ rest)) e) q.isRaw inside with
        | .error f => refuse f
        | .ok _ => pure ()
      textsOf (some q.isBytes) rest

/-- Texts side by side. -/
def texts : Reading Expr := do
  let tokens ← many1 (kind .quotation)
  let c ← textsOf none tokens
  let isTemplate := tokens.any fun t => (quotationAt? t.text).any (·.1.isTemplate)
  return if isTemplate then .other .template else .constant c

/-! ## Atoms -/

/-- A number. -/
def numeral : Reading Expr := do
  let t ← kind .numeral
  match Numeral.read t.text with
  | .ok n => return .constant (.number n)
  | .error f => refuse f

/-- An expression without signs outside of brackets. -/
def atom : Reading Expr :=
  (.name <$> name) <|>
  (do word "True"; return .constant (.truth true)) <|>
  (do word "False"; return .constant (.truth false)) <|>
  (do word "None"; return .constant .none) <|>
  (do ahead (kind .quotation); self .texts) <|>
  numeral <|>
  (do ahead (sign "("); tuple self <|> group self <|> generator self) <|>
  (do
    ahead (sign "\x7b")
    dict self <|> set self <|> dictComprehension self <|> setComprehension self) <|>
  (do sign "..."; return .constant .ellipsis)

/-- The name of an expression that is one. -/
def calledName : Expr → Option Text
  | .name s => some s
  | _ => none

/-- What may follow an expression directly, as what it makes of the expression. -/
def attachment : Reading (Expr → Expr) := (do
  sign "."
  let _ ← name
  return fun _ => .other .attribute) <|> (do
  let _ ← generator self
  return fun e => .call (calledName e) ⟨1, 0, 0⟩) <|> do
  sign "("
  let arguments ← optional (self .arguments)
  sign ")"
  return fun e => match arguments with
    | some (.call _ counts) => .call (calledName e) counts
    | _ => .call (calledName e) ⟨0, 0, 0⟩

/-- An atom with attributes and calls. -/
def primary : Reading Expr := do
  let e ← atom self
  let attached ← many (attachment self)
  return attached.foldl (fun e f => f e) e

/-- The signs that attach something to an expression. -/
def attaching : Reading Unit := do let _ ← oneOf ["(", "[", "."]

/-- Such an expression that something else is attached to. -/
def targetPrimary : Reading Expr := do
  let e ← atom self
  ahead attaching
  let attached ← many do
    let f ← attachment self
    ahead attaching
    return f
  return attached.foldl (fun e f => f e) e

/-! ## Targets of loops -/

/-- A name, or targets in parentheses. -/
def targetAtom : Reading Expr := (.name <$> name) <|> (do
  sign "("
  let e ← self .target
  sign ")"
  return e) <|> do
  sign "("
  let items ← optional ((do
    let first ← self .starTarget
    let rest ← many1 (do sign ","; self .starTarget)
    let _ ← optional (sign ",")
    return first :: rest) <|> do
    let first ← self .starTarget
    sign ","
    return [first])
  sign ")"
  return .tuple (items.getD [])

/-- What a loop gives a value to. -/
def target : Reading Expr := (do
  let _ ← self .targetPrimary
  sign "."
  let _ ← name
  notAhead attaching
  return .other .attribute) <|> targetAtom self

/-- The same with a star. -/
def starTarget : Reading Expr := (do
  sign "*"
  notAhead (sign "*")
  return .starred (← self .starTarget)) <|> self .target

/-! ## Arguments -/

/-- A mistake at a named argument. -/
def nameMistake : Reading Arguments := complaints [
  do
    let t ← token fun t => t.kind = .word && ["True", "False", "None"].any (·.toList = t.text)
    sign "="
    return some (.assigned (String.ofList t.text)),
  do
    let _ ← name
    sign "="
    let _ ← self .expression
    loops self
    return some .assignedName,
  do
    notAhead (do let _ ← name; sign "=")
    let _ ← self .expression
    sign "="
    return some .assignedArgument]

/-- An argument with a name. -/
def namedArgument : Reading Arguments := do
  let _ ← name
  sign "="
  let _ ← self .expression
  return ⟨0, 1, 0⟩

/-- An argument with a name, or a starred one. -/
def namedOrStarred : Reading Arguments :=
  whenStrict (nameMistake self) <|> namedArgument self <|> (do
    let _ ← starred self
    return ⟨1, 0, 0⟩)

/-- An argument with a name, or an unpacked mapping. -/
def namedOrUnpacked : Reading Arguments :=
  whenStrict (nameMistake self) <|> namedArgument self <|> do
    sign "**"
    let _ ← self .expression
    return ⟨0, 0, 1⟩

/-- All arguments of some counts together. -/
def totalArguments : List Arguments → Arguments
  | [] => ⟨0, 0, 0⟩
  | a :: rest =>
    let b := totalArguments rest
    ⟨a.plain + b.plain, a.named + b.named, a.unpacked + b.unpacked⟩

/-- Arguments from the first one with a name on. -/
def lateArguments : Reading Arguments := (do
  let first ← commaSeparated (namedOrStarred self)
  sign ","
  let rest ← commaSeparated (namedOrUnpacked self)
  return totalArguments (first ++ rest)) <|>
  (totalArguments <$> commaSeparated (namedOrStarred self)) <|>
  (totalArguments <$> commaSeparated (namedOrUnpacked self))

/-- Arguments without names, at least one. -/
def plainArguments : Reading Arguments := do
  let items ← commaSeparated (starred self <|> do
    let e ← assignment self <|> unassigned self
    notAhead (sign "=")
    return e)
  return ⟨items.length, 0, 0⟩

/-- Arguments, at least one. -/
def someArguments : Reading Arguments := (do
  let plain ← plainArguments self
  let late ← optional (do sign ","; lateArguments self)
  return totalArguments (plain :: late.toList)) <|> lateArguments self

/-- A mistake among arguments. -/
def argumentsMistake : Reading Expr := complaints [
  do
    let _ ← (do
      let _ ← plainArguments self
      sign ","
      lateArguments self) <|> lateArguments self
    sign ","
    let _ ← commaSeparated (do
      let _ ← starred self
      notAhead (sign "="))
    return some .lateStar,
  do
    let _ ← self .expression
    loops self
    sign ","
    let _ ← optional ((do let _ ← someArguments self) <|> do
      let _ ← self .expression
      loops self)
    return some .bareGenerator,
  do
    let _ ← name
    sign "="
    let _ ← self .expression
    loops self
    return some .assignedName,
  do
    let counts ← someArguments self
    loops self
    return if 1 < counts.plain then some .bareGenerator else none,
  do
    let _ ← someArguments self
    sign ","
    let _ ← self .expression
    loops self
    return some .bareGenerator,
  do
    let counts ← someArguments self
    sign ","
    let _ ← someArguments self
    return some (.lateArgument (counts.unpacked ≠ 0))]

/-- The arguments of a call, as a call of nothing. -/
def arguments : Reading Expr := (do
  let counts ← someArguments self
  let _ ← optional (sign ",")
  ahead (sign ")")
  return .call none counts) <|> whenStrict (argumentsMistake self)

/-! ## Signs -/

/-- Operands with signs between them, where the first two are joined first. -/
def joined (operand : Reading Expr) (signs : List String) (join : Text → Expr → Expr → Expr) :
    Reading Expr := do
  let first ← operand
  let rest ← many do
    let s ← oneOf signs
    return (s, ← operand)
  return rest.foldl (fun a (s, b) => join s a b) first

/-- Some operation on its operands. -/
def operation (_ : Text) (_ _ : Expr) : Expr := .other .operation

/-- A power, or less. -/
def power : Reading Expr := (do
  let _ ← self .awaited
  sign "**"
  let _ ← self .factor
  return .other .operation) <|> self .awaited

/-- An expression with a sign before it. -/
def factor : Reading Expr := (do
  sign "+"
  return .signed false (← self .factor)) <|> (do
  sign "-"
  return .signed true (← self .factor)) <|> (do
  sign "~"
  let _ ← self .factor
  return .other .operation) <|> power self

/-- The sign or words of a comparison, and whether they ask for a member. -/
def comparing : Reading Bool :=
  (do let _ ← oneOf ["==", "!=", "<=", "<", ">=", ">"]; return false) <|>
  (do word "not"; word "in"; return false) <|>
  (do word "in"; return true) <|>
  (do word "is"; word "not"; return false) <|>
  (do word "is"; return false)

/-- A comparison, or less. -/
def comparison : Reading Expr := (do
  let left ← self .bitwiseOr
  let signs ← many1 do
    let isMembership ← comparing
    let _ ← self .bitwiseOr
    return isMembership
  return .comparison left (signs.headD false)) <|> self .bitwiseOr

/-- Operands with a word between them, or a single one. -/
def withWord (operand : Reading Expr) (s : String) : Reading Expr := (do
  let _ ← operand
  let _ ← many1 (do word s; operand)
  return .other .operation) <|> operand

/-! ## Expressions -/

/-- A parameter's default. -/
def parameterDefault : Reading Unit := (do
  sign "="
  let _ ← self .expression) <|> whenStrict (complaints [do
  sign "="
  ahead (oneOf [")", ","])
  return some (.badParameters .emptyDefault)])

/-- A lambda. -/
def lambda : Reading Expr := do
  word "lambda"
  let _ ← optional (Parameters.all (parameterDefault self))
  sign ":"
  let _ ← self .expression
  return .other .lambda

/-- An expression without looking at mistakes on its outside. -/
def plainExpression : Reading Expr := (do
  let _ ← self .disjunction
  word "if"
  let _ ← self .disjunction
  word "else"
  let _ ← self .expression
  return .other .conditional) <|> self .disjunction <|> lambda self

/-- Names that are words of statements. -/
def statementWords : List String := ["_", "case", "match"]

/-- A name that may turn out to be such a word. -/
def statementWord : Reading Token :=
  token fun t => t.kind = .name && statementWords.any fun s => t.text.isPrefixOf s.toList

/-- Two expressions side by side, or a condition without its other case. -/
def expressionMistake : Reading Expr := complaints [
  do
    notAhead (do let _ ← name; kind .quotation)
    notAhead statementWord
    let first ← self .disjunction
    let _ ← leniently (plainExpression self)
    return if first.isCommand || (← depth) = 0 then none else some .commaMissing,
  do
    let _ ← self .disjunction
    word "if"
    let _ ← self .disjunction
    notAhead (word "else" <|> sign ":")
    return some .elseMissing]

/-- A command with its argument behind it. -/
def commandMistake : Reading Expr := complaints [do
  let command ← name
  notAhead (sign "(")
  let _ ← starExpressions self
  return if (Expr.name command).isCommand then some (.bracketsMissing command) else none]

/-- An equals sign, or an assignment sign. -/
def equals : Reading Unit := sign "=" <|> sign ":="

/-- An assignment to something that is no name, or with the wrong sign. -/
def assignmentMistake : Reading Expr := complaints [
  do
    let e ← self .expression
    sign ":="
    let _ ← self .expression
    return some (.assignedInside e.kind),
  do
    let _ ← name
    sign "="
    let _ ← self .bitwiseOr
    notAhead equals
    return some .assignedName,
  do
    notAhead (tuple self <|> generator self)
    notAhead (word "True" <|> word "None" <|> word "False")
    let e ← self .bitwiseOr
    sign "="
    let _ ← self .bitwiseOr
    notAhead equals
    return some (.assignedHere e.kind)]

/-- The reading of a rule. -/
def rule : Rule → Reading Expr
  | .expression =>
    whenStrict (expressionMistake self) <|> whenStrict (commandMistake self) <|>
      plainExpression self
  | .starExpression => (do sign "*"; return .starred (← self .bitwiseOr)) <|> self .expression
  | .disjunction => withWord (self .conjunction) "or"
  | .conjunction => withWord (self .inversion) "and"
  | .inversion =>
    (do word "not"; let _ ← self .inversion; return .other .operation) <|> comparison self
  | .bitwiseOr => joined (self .bitwiseXor) ["|"] operation
  | .bitwiseXor => joined (self .bitwiseAnd) ["^"] operation
  | .bitwiseAnd => joined (self .shift) ["&"] operation
  | .shift => joined (self .sum) ["<<", ">>"] operation
  | .sum => joined (self .term) ["+", "-"] fun s a b => .sum (s = ['-']) a b
  | .term => joined (self .factor) ["*", "/", "//", "%", "@"] operation
  | .factor => factor self
  | .awaited =>
    (do word "await"; let _ ← self .primary; return .other .awaiting) <|> self .primary
  | .primary => primary self
  | .texts => texts
  | .arguments => arguments self
  | .starTarget => starTarget self
  | .target => target self
  | .targetPrimary => targetPrimary self
  | .assignmentMistake => assignmentMistake self

/-- An expression up to the end of the text. -/
def whole : Reading Expr := do
  let e ← expressions (self .expression)
  let _ ← many (kind .lineEnd)
  let _ ← kind .finish
  return e

/-- The expression in a field of a template, with parentheses around it. -/
def field : Reading Expr := starExpressions self

end SchemaDiagram.Expression.Grammar
