import Std.Data.HashMap
import SchemaDiagram.Expression.Basic
import SchemaDiagram.Expression.Token

/-! # Reading expressions

A reading goes through the tokens of an expression and finds something, finds nothing, or meets a
mistake that settles what is wrong. Readings are tried in order, and the first one that finds
something wins. What a rule of the grammar finds at a place is remembered. Rules that only look
for mistakes are switched on when an expression has turned out to be unreadable.

* **`Reading`** — readings, a monad in which `p <|> q` tries `q` where `p` finds nothing.
* **`Reading.many`**, **`optional`**, **`ahead`**, **`notAhead`** — repetition, options, looking
  ahead.
* **`Reading.complaints`** — mistakes that are looked for one after another.
* **`Reading.remembered`** — a rule whose findings are remembered. -/

namespace SchemaDiagram.Expression

/-- The rules of the grammar whose findings are remembered. -/
inductive Rule where
  | expression
  | starExpression
  | disjunction
  | conjunction
  | inversion
  | bitwiseOr
  | bitwiseXor
  | bitwiseAnd
  | shift
  | sum
  | term
  | factor
  | awaited
  | primary
  | texts
  | arguments
  | starTarget
  | target
  | targetPrimary
  | assignmentMistake
deriving DecidableEq, Repr, Hashable

/-- The tokens that are read. -/
structure ReadingSource where
  /-- The tokens. -/
  tokens : Array Token
  /-- Why there are no more. -/
  finish : TokensEnd
  /-- How expressions in the fields of templates are checked, given the number of their line. -/
  checkField : Nat → Text → Except SyntaxFault Unit
  /-- Mistakes are looked for. -/
  isStrict : Bool

/-- What is remembered of readings. -/
structure ReadingMemory where
  /-- How many tokens have been looked at. -/
  reached : Nat
  /-- What rules have found at a place, and where it ends. -/
  known : Std.HashMap (Rule × Nat) (Option Expr × Nat)

/-- A mistake that settles what is wrong. -/
structure Refusal where
  /-- The mistake. -/
  fault : SyntaxFault
  /-- There were no more tokens. -/
  isAtEnd : Bool
  /-- How many tokens have been looked at. -/
  reached : Nat

/-- A reading: given the tokens, the number of those before it and what is remembered, it tells
what it finds, and the number of tokens that have been read then. -/
def Reading (α : Type) :=
  ReadingSource → Nat → ReadingMemory → Except Refusal (Option α × Nat × ReadingMemory)

namespace Reading

variable {α β : Type}

/-- The reading that finds nothing. -/
def nothing : Reading α := fun _ place memory => .ok (none, place, memory)

/-- Reads on where something was found. -/
def andThen (p : Reading α) (f : α → Reading β) : Reading β := fun source place memory =>
  match p source place memory with
  | .ok (some a, place, memory) => f a source place memory
  | .ok (none, place, memory) => .ok (none, place, memory)
  | .error e => .error e

instance : Monad Reading where
  pure a := fun _ place memory => .ok (some a, place, memory)
  bind := andThen

/-- Tries the second reading at the same place where the first one finds nothing. -/
def orElse (p : Reading α) (q : Unit → Reading α) : Reading α := fun source place memory =>
  match p source place memory with
  | .ok (none, _, memory) => q () source place memory
  | r => r

instance : OrElse (Reading α) := ⟨orElse⟩

/-- Meets a mistake. -/
def refuse (f : SyntaxFault) : Reading α := fun _ _ memory => .error ⟨f, false, memory.reached⟩

/-! ## Tokens -/

/-- The next token, which is not read yet. -/
def peek : Reading Token := fun source place memory =>
  let reached := max memory.reached (place + 1)
  match source.tokens[place]?, source.finish with
  | some token, _ => .ok (some token, place, { memory with reached })
  | none, .refused f | none, .halted f _ => .error ⟨f, true, reached⟩
  | none, .complete => .ok (none, place, memory)

/-- A token of which something holds. -/
def token (p : Token → Bool) : Reading Token := do
  let t ← peek
  if p t then fun _ place memory => .ok (some t, place + 1, memory) else nothing

/-- The sign. -/
def sign (s : String) : Reading Unit := do
  let _ ← token fun t => t.kind = .sign && t.text = s.toList

/-- The reserved word. -/
def word (s : String) : Reading Unit := do
  let _ ← token fun t => t.kind = .word && t.text = s.toList

/-- A token of the kind. -/
def kind (k : TokenKind) : Reading Token := token (·.kind = k)

/-- One of the signs. -/
def oneOf (signs : List String) : Reading Text := do
  return (← token fun t => t.kind = .sign && signs.any (·.toList = t.text)).text

/-- A name. -/
def name : Reading Text := do return (← kind .name).text

/-- How many brackets are open behind the last token. -/
def depth : Reading Nat := fun source place memory =>
  .ok (some ((source.tokens[place - 1]?).elim 0 Token.depth), place, memory)

/-- How expressions in the fields of templates are checked. -/
def checkField : Reading (Nat → Text → Except SyntaxFault Unit) := fun source place memory =>
  .ok (some source.checkField, place, memory)

/-! ## Repetition and looking ahead -/

/-- Something that may be missing. -/
def optional (p : Reading α) : Reading (Option α) := (some <$> p) <|> pure none

/-- As many findings as there are, `n` at most, behind those `found`, in reverse. -/
def upTo (p : Reading α) (found : List α) : (n : Nat) → Reading (List α)
  | 0 => pure found.reverse
  | n + 1 => fun source place memory =>
    match p source place memory with
    | .ok (some a, place, memory) => upTo p (a :: found) n source place memory
    | .ok (none, _, memory) => .ok (some found.reverse, place, memory)
    | .error e => .error e

/-- As many findings as there are. -/
def many (p : Reading α) : Reading (List α) := fun source place memory =>
  upTo p [] (source.tokens.size - place + 1) source place memory

/-- At least one finding. -/
def many1 (p : Reading α) : Reading (List α) := do
  let first ← p
  let rest ← many p
  return first :: rest

/-- Findings with commas between them, at least one. -/
def commaSeparated (p : Reading α) : Reading (List α) := do
  let first ← p
  let rest ← many (do sign ","; p)
  return first :: rest

/-- Such findings, perhaps with a comma behind the last one. -/
def commaList (p : Reading α) : Reading (List α) := do
  let items ← commaSeparated p
  let _ ← optional (sign ",")
  return items

/-- Looks whether something follows. -/
def isAhead (p : Reading α) : Reading Bool := fun source place memory =>
  match p source place memory with
  | .ok (found, _, memory) => .ok (some found.isSome, place, memory)
  | .error e => .error e

/-- Finds nothing unless something follows. -/
def ahead (p : Reading α) : Reading Unit := do if !(← isAhead p) then nothing

/-- Finds nothing if something follows. -/
def notAhead (p : Reading α) : Reading Unit := do if ← isAhead p then nothing

/-! ## Mistakes -/

/-- Something that is looked for only together with mistakes. -/
def whenStrict (p : Reading α) : Reading α := fun source place memory =>
  if source.isStrict then p source place memory else .ok (none, place, memory)

/-- Reads without looking for mistakes. -/
def leniently (p : Reading α) : Reading α := fun source place memory =>
  p { source with isStrict := false } place memory

/-- The first finding of some readings. -/
def firstOf : List (Reading α) → Reading α
  | [] => nothing
  | p :: rest => p <|> firstOf rest

/-- Looks for mistakes one after another. The first one that is found settles what is wrong,
unless it turns out to be none; either way nothing else is found here. -/
def complaints (mistakes : List (Reading (Option SyntaxFault))) : Reading α := do
  match ← firstOf mistakes with
  | some f => refuse f
  | none => nothing

/-! ## Rules -/

/-- A rule whose findings at each place are remembered. -/
def remembered (rule : Rule) (p : Reading Expr) : Reading Expr := fun source place memory =>
  match memory.known[(rule, place)]? with
  | some (found, stop) => .ok (found, stop, memory)
  | none =>
    match p source place memory with
    | .ok (found, stop, memory) =>
      let ⟨reached, known⟩ := memory
      .ok (found, stop, ⟨reached, known.insert (rule, place) (found, stop)⟩)
    | .error e => .error e

end Reading

end SchemaDiagram.Expression
