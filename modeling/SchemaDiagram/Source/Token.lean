import SchemaDiagram.Source.Quote
import SchemaDiagram.Source.Span
import SchemaDiagram.Text.Blank
import SchemaDiagram.Text.LowerCase
import SchemaDiagram.Text.WordChar

/-! # Tokens

A cleaned text is a sequence of *lexemes* between blanks: line ends, doc comments, literals, words,
operators and single characters. A token is a lexeme with its span and line. No text is refused: a
character that has no other meaning is a token of its own.

* **`Lexeme.first`** — the lexeme at the start of a text; nothing is lost
  (`Lexeme.first_append`).
* **`tokenize s`** — the tokens of a text. -/

namespace SchemaDiagram

/-- What a token is. -/
inductive TokenKind where
  | word
  | string
  | doc
  | newline
  | openBrace
  | closeBrace
  | openBracket
  | closeBracket
  | openParen
  | closeParen
  | colon
  | comma
  | dot
  | tilde
  | operator
  | other
deriving DecidableEq, Repr

namespace TokenKind

/-- The name of a kind; a bracket or mark is its own name. -/
def name : TokenKind → String
  | word => "word"
  | string => "string"
  | doc => "doc"
  | newline => "newline"
  | openBrace => "\x7b"
  | closeBrace => "\x7d"
  | openBracket => "["
  | closeBracket => "]"
  | openParen => "("
  | closeParen => ")"
  | colon => ":"
  | comma => ","
  | dot => "."
  | tilde => "~"
  | operator => "op"
  | other => "other"

/-- The kind of a character that is a token by itself. -/
def ofChar (c : Char) : TokenKind :=
  match c with
  | '\x7b' => openBrace
  | '\x7d' => closeBrace
  | '[' => openBracket
  | ']' => closeBracket
  | '(' => openParen
  | ')' => closeParen
  | ':' => colon
  | ',' => comma
  | '.' => dot
  | '~' => tilde
  | '<' | '>' | '-' | '=' => operator
  | _ => other

/-- Whether the kind is an opening bracket or parenthesis. -/
def opens (k : TokenKind) : Bool := k = openBracket || k = openParen

/-- Whether the kind is a closing bracket or parenthesis. -/
def closes (k : TokenKind) : Bool := k = closeBracket || k = closeParen

end TokenKind

/-- A token with its place in the text. -/
structure Token where
  /-- What the token is. -/
  kind : TokenKind
  /-- The characters of the token; of a doc comment, what stands after its mark. -/
  value : Text
  /-- Where the token stands. -/
  span : Span
  /-- The line on which it starts, counted from one. -/
  line : Nat
deriving DecidableEq, Repr

/-- Whether the token is the given word, in any case. -/
def Token.isWord (t : Token) (word : Text) : Bool := t.kind = .word && t.value.lower = word

/-- A lexeme and the text after it. -/
structure Lexeme where
  /-- What the lexeme is. -/
  kind : TokenKind
  /-- The characters of the lexeme. -/
  text : Text
  /-- The text after the lexeme. -/
  after : Text

namespace Lexeme

/-- The lexeme that the text `c :: rest` starts with, where `c` is not blank or is a line end. -/
def first (c : Char) (rest : Text) : Lexeme :=
  let s := c :: rest
  if c = '\n' then ⟨.newline, [c], rest⟩
  -- Other comments are blank already.
  else if "///".toList.isPrefixOf s then
    ⟨.doc, s.takeWhile (· != '\n'), s.dropWhile (· != '\n')⟩
  else match Quote.opening? s with
    | some q => let (body, after) := q.literal s; ⟨.string, body, after⟩
    | none =>
      if isWordChar c then ⟨.word, s.takeWhile isWordChar, s.dropWhile isWordChar⟩
      else if "<>".toList.isPrefixOf s then ⟨.operator, s.take 2, s.drop 2⟩
      else ⟨.ofChar c, [c], rest⟩

/-- Cutting a lexeme off loses nothing. -/
theorem first_append (c : Char) (rest : Text) :
    (first c rest).text ++ (first c rest).after = c :: rest := by
  unfold first
  dsimp only
  split
  next => rfl
  next =>
    split
    next => exact List.takeWhile_append_dropWhile
    next =>
      split
      next q hq => exact Quote.literal_append (Quote.isPrefix_of_opening? hq)
      next =>
        split
        next => exact List.takeWhile_append_dropWhile
        next =>
          split
          next => exact List.take_append_drop 2 (c :: rest)
          next => rfl

/-- A lexeme has at least one character. -/
theorem text_first_ne_nil (c : Char) (rest : Text) : (first c rest).text ≠ [] := by
  unfold first
  dsimp only
  split
  next => simp
  next hc =>
    split
    next => simp [hc]
    next =>
      split
      next q _ => exact Quote.literal_ne_nil q _
      next =>
        split
        next h => simp [h]
        next => split <;> simp

/-- What follows a lexeme is shorter than the text. -/
theorem length_after_lt (c : Char) (rest : Text) :
    (first c rest).after.length < (c :: rest).length := by
  have happ := congrArg List.length (first_append c rest)
  have hpos := List.length_pos_iff.2 (text_first_ne_nil c rest)
  rw [List.length_append] at happ
  omega

/-- The token that the lexeme is at the given place. -/
def toToken (lexeme : Lexeme) (offset line : Nat) : Token :=
  { kind := lexeme.kind
    value := if lexeme.kind = .doc then Text.trim (lexeme.text.drop 3) else lexeme.text
    span := ⟨offset, offset + lexeme.text.length⟩
    line }

end Lexeme

/-- The tokens of a text that starts at the given offset and line. -/
def tokensFrom (offset line : Nat) : Text → List Token
  | [] => []
  | c :: rest =>
    if isBlank c && c != '\n' then tokensFrom (offset + 1) line rest
    else
      let lexeme := Lexeme.first c rest
      lexeme.toToken offset line ::
        tokensFrom (offset + lexeme.text.length) (line + lexeme.text.count '\n') lexeme.after
termination_by s => s.length
decreasing_by
  · simp
  · exact Lexeme.length_after_lt c rest

/-- The tokens of a text. -/
def tokenize (s : Text) : List Token := tokensFrom 0 1 s

@[simp] theorem tokensFrom_nil (offset line : Nat) : tokensFrom offset line [] = [] := by
  rw [tokensFrom]

end SchemaDiagram
