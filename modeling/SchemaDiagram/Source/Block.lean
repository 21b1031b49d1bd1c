import SchemaDiagram.Model.Diagnostic
import SchemaDiagram.Source.Token

/-! # Blocks

A cleaned text is a sequence of *blocks* `keyword name as alias [settings] { body }` and of
references on one line. A body holds blocks again, properties `key: value` and lines. Every node
keeps its span, so that an edit can replace a part of the text in place.

Nothing is refused: an unclosed brace, a stray closing brace and a statement that does not belong at
the top level are reported, and reading goes on behind them.

* **`scanLine`** — the tokens of a logical line: it ends at a line end or brace outside brackets.
* **`closeBrace`** — the tokens up to the closing brace of a block.
* **`contentsFrom`** — the blocks, lines and properties of a token sequence.
* **`parseBlocks`** — the tree of a text. -/

namespace SchemaDiagram

/-- A line of a body that is no property. -/
structure BodyLine where
  /-- The characters from the first to the last token of the line. -/
  text : Text
  /-- Where the line stands. -/
  span : Span
  /-- The line number of its first token. -/
  line : Nat
  /-- The doc comments before the line and at its end. -/
  doc : List Text
deriving DecidableEq, Repr

/-- A line `key: value` of a body. -/
structure Property where
  /-- The word before the colon. -/
  key : Text
  /-- What stands after the colon, without blanks around it. -/
  value : Text
  /-- Where the property stands. -/
  span : Span
  /-- Where its value stands; an empty span behind the colon where there is none. -/
  valueSpan : Span
  /-- The line number of its key. -/
  line : Nat
deriving DecidableEq, Repr

/-- A block with its body. -/
structure Block where
  /-- The first word in small letters, empty where the block starts with something else. -/
  keyword : Text
  /-- Where the block stands, from its first token to its closing brace. -/
  span : Span
  /-- The line number of its first token. -/
  line : Nat
  /-- The name parts without quotes, joined by dots. -/
  name : Option Text
  /-- Where the name stands. -/
  nameSpan : Option Span
  /-- The name after `as`. -/
  aliasName : Option Text
  /-- What lies between the brackets of the settings list. -/
  settingsSpan : Option Span
  /-- The offset of the opening brace. -/
  openBrace : Option Nat
  /-- What lies between the braces; of a reference on one line, its endpoints. -/
  bodySpan : Option Span
  /-- The blocks of the body. -/
  children : List Block
  /-- The lines of the body. -/
  lines : List BodyLine
  /-- The properties of the body. -/
  properties : List Property
  /-- The doc comments before the block. -/
  doc : List Text
  /-- Whether the block is a reference on one line. -/
  shortForm : Bool

namespace Block

/-- The settings list with its brackets. -/
def bracketSpan (b : Block) : Option Span :=
  b.settingsSpan.map fun span => ⟨span.start - 1, span.stop + 1⟩

/-- The characters of the settings list, none where the block has no list. -/
def settingsText (b : Block) (text : Text) : Text := (b.settingsSpan.map (·.slice text)).getD []

/-- The characters of the body. -/
def bodyText (b : Block) (text : Text) : Text := (b.bodySpan.map (·.slice text)).getD []

/-- The blocks of the body with the given keyword. -/
def childrenNamed (b : Block) (keyword : Text) : List Block :=
  b.children.filter (·.keyword = keyword.lower)

/-- The last property with the given key, in any case. -/
def property? (b : Block) (key : Text) : Option Property :=
  b.properties.reverse.find? (·.key.lower = key.lower)

end Block

/-! ## Headers -/

/-- The parts of a block header after the keyword. -/
structure Header where
  /-- The name parts without quotes, joined by dots. -/
  name : Option Text
  /-- Where the name stands. -/
  nameSpan : Option Span
  /-- The name after `as`. -/
  aliasName : Option Text
  /-- What lies between the brackets of the settings list. -/
  settingsSpan : Option Span
  /-- The tokens that belong to none of these, in order. -/
  leftovers : List Token

namespace Header

/-- Whether a token may stand in a name. -/
def isNamePart (t : Token) : Bool := t.kind = .word || t.kind = .string

/-- The tokens of a dotted name without its dots, and the tokens after it. The word `as` is no part
of a name, except as its first part. -/
def takeName (isFirst : Bool) : List Token → List Token × List Token
  | [] => ([], [])
  | [t] => if isNamePart t && (isFirst || !t.isWord "as") then ([t], []) else ([], [t])
  | t :: d :: rest =>
    if isNamePart t && (isFirst || !t.isWord "as") then
      if d.kind = .dot then let (parts, after) := takeName false rest; (t :: parts, after)
      else ([t], d :: rest)
    else ([], t :: d :: rest)

/-- The name after the word `as`, and the tokens after it. -/
def takeAlias : List Token → Option Text × List Token
  | t :: name :: rest =>
    if t.isWord "as" && isNamePart name then (some (unquote name.value), rest)
    else (none, t :: name :: rest)
  | tokens => (none, tokens)

/-- The bracket that closes the bracket before these tokens, and the tokens after it. -/
def closeBracket? (depth : Nat) : List Token → Option (Token × List Token)
  | [] => none
  | t :: rest =>
    match t.kind with
    | .openBracket => closeBracket? (depth + 1) rest
    | .closeBracket => if depth = 0 then some (t, rest) else closeBracket? (depth - 1) rest
    | _ => closeBracket? depth rest

/-- The span between the brackets of a settings list, and the tokens after it that a header has no
place for. An unclosed list is left over from its bracket, without the tokens in it. -/
def takeSettings : List Token → Option Span × List Token
  | [] => (none, [])
  | t :: rest =>
    if t.kind = .openBracket then
      match closeBracket? 0 rest with
      | some (close, after) => (some ⟨t.span.stop, close.span.start⟩, after)
      | none => (none, [t])
    else (none, t :: rest)

/-- The span from the first to the last of some tokens. -/
def spanOf? (tokens : List Token) : Option Span :=
  match tokens.head?, tokens.getLast? with
  | some first, some last => some ⟨first.span.start, last.span.stop⟩
  | _, _ => none

/-- The header that the tokens between keyword and brace are. -/
def ofTokens (tokens : List Token) : Header :=
  let (nameTokens, rest) := takeName true tokens
  let (aliasName, rest) := takeAlias rest
  let (settingsSpan, rest) := takeSettings rest
  { name := if nameTokens.isEmpty then none
      else some (Text.join ['.'] (nameTokens.map (unquote ·.value)))
    nameSpan := spanOf? nameTokens
    aliasName
    settingsSpan
    leftovers := rest.filter (·.kind != .newline) }

end Header

/-! ## Logical lines and bodies -/

/-- The words that start a top-level block. -/
def topLevelKeywords : List Text :=
  ["table", "ref", "enum", "project", "note", "tablepartial", "tablegroup"]

/-- Whether the first token behind line ends and doc comments starts a top-level block; `note` with
a colon is a property. -/
def startsBlock : List Token → Bool
  | [] => false
  | t :: rest =>
    match t.kind with
    | .newline | .doc => startsBlock rest
    | .word =>
      let word := t.value.lower
      topLevelKeywords.contains word &&
        (word != "note".toList || (rest.head?.map (·.kind)) != some .colon)
    | _ => false

/-- The tokens of a logical line. -/
structure LineScan where
  /-- The tokens of the line. -/
  segment : List Token
  /-- The tokens after it: none, or a line end or brace and what follows. -/
  rest : List Token
  /-- The outermost bracket that is still open where the next block starts. -/
  unclosed : Option Token

/-- Adds a token in front of a line. -/
def LineScan.cons (t : Token) (scan : LineScan) : LineScan :=
  { scan with segment := t :: scan.segment }

/-- Scans a logical line, where `opened` holds the brackets that are open, the innermost first. The
line ends at a line end or brace outside brackets; at the top level an open bracket ends with the
line before the next block. -/
def scanLine (topLevel : Bool) (opened : List Token) : List Token → LineScan
  | [] => ⟨[], [], none⟩
  | t :: rest =>
    if t.kind.opens then (scanLine topLevel (t :: opened) rest).cons t
    else if t.kind.closes then (scanLine topLevel opened.tail rest).cons t
    else if opened.isEmpty &&
        (t.kind = .newline || t.kind = .openBrace || t.kind = .closeBrace) then
      ⟨[], t :: rest, none⟩
    -- A bracket is open here, so the next block starts inside a broken statement.
    else if topLevel && t.kind = .newline && startsBlock rest then
      ⟨[], t :: rest, opened.getLast?⟩
    else (scanLine topLevel opened rest).cons t

/-- A line and what follows it are the tokens. -/
theorem scanLine_append (topLevel : Bool) (opened tokens : List Token) :
    (scanLine topLevel opened tokens).segment ++ (scanLine topLevel opened tokens).rest
      = tokens := by
  fun_induction scanLine topLevel opened tokens <;> simp_all [LineScan.cons]

/-- The tokens up to the brace that closes `depth` further blocks and this one, that brace, and the
tokens after it. -/
def closeBrace (depth : Nat) : List Token → Option (List Token × Token × List Token)
  | [] => none
  | t :: rest =>
    if t.kind = .closeBrace && depth = 0 then some ([], t, rest)
    else
      let inner := match t.kind with
        | .openBrace => depth + 1
        | .closeBrace => depth - 1
        | _ => depth
      (closeBrace inner rest).map fun (body, close, after) => (t :: body, close, after)

/-- The body, its closing brace and what follows are the tokens. -/
theorem eq_of_closeBrace {depth : Nat} {tokens body after : List Token} {close : Token}
    (h : closeBrace depth tokens = some (body, close, after)) :
    tokens = body ++ close :: after := by
  induction tokens generalizing depth body with
  | nil => simp [closeBrace] at h
  | cons t rest ih =>
    rw [closeBrace] at h
    split at h
    next => simp_all
    next =>
      obtain ⟨⟨inner, c, a⟩, hin, heq⟩ := Option.map_eq_some_iff.1 h
      simp only [Prod.mk.injEq] at heq
      obtain ⟨rfl, rfl, rfl⟩ := heq
      rw [ih hin, List.cons_append]

/-- What a token sequence holds, and what is wrong with it. -/
structure Contents where
  /-- The blocks in order. -/
  children : List Block
  /-- The lines in order. -/
  lines : List BodyLine
  /-- The properties in order. -/
  properties : List Property
  /-- The reports in the order in which the problems were met. -/
  problems : List Diagnostic

namespace Contents

/-- No contents. -/
def empty : Contents := ⟨[], [], [], []⟩

/-- Puts reports in front. -/
def report (problems : List Diagnostic) (c : Contents) : Contents :=
  { c with problems := problems ++ c.problems }

/-- Puts a block in front. -/
def addBlock (b : Block) (c : Contents) : Contents := { c with children := b :: c.children }

/-- Puts a line in front. -/
def addLine (l : BodyLine) (c : Contents) : Contents := { c with lines := l :: c.lines }

/-- Puts a property in front. -/
def addProperty (p : Property) (c : Contents) : Contents :=
  { c with properties := p :: c.properties }

end Contents

/-- A report on the line of a token. -/
def Token.report (t : Token) (problem : Problem) : Diagnostic := ⟨problem, some t.line⟩

/-- The line or property that the tokens `first :: others` are; doc comments among them are kept
for a line. -/
def readBodyLine (source : Text) (doc : List Text) (first : Token) (others : List Token) :
    BodyLine ⊕ Property :=
  -- A doc comment at the end of the line is no part of its text.
  let inlineDoc := (others.filter (·.kind = .doc)).map (·.value)
  let body := others.filter (·.kind != .doc)
  let last := (body.getLast?).getD first
  let span : Span := ⟨first.span.start, last.span.stop⟩
  let line : BodyLine := ⟨span.slice source, span, first.line, doc ++ inlineDoc⟩
  match first.kind, body with
  | .word, second :: values =>
    if second.kind = .colon then
      let valueSpan : Span := match values with
        | [] => ⟨second.span.stop, second.span.stop⟩
        -- The value runs to the end of the line, whatever its tokens are.
        | value :: _ => ⟨value.span.start, last.span.stop⟩
      .inr ⟨first.value, (valueSpan.slice source).trim, span, valueSpan, first.line⟩
    else .inl line
  | _, _ => .inl line

/-- The reference on one line that the tokens `head :: others` are, or the reports on why they are
no statement. -/
def readShortRef (source : Text) (doc : List Text) (head : Token) (others : List Token) :
    Except (List Diagnostic) Block :=
  -- Without endpoints the statement is reported twice: for what it lacks, and as skipped.
  let unexpected := head.report (.unexpectedStatement head.value)
  let header := others.takeWhile (·.kind != .colon)
  let body := ((others.dropWhile (·.kind != .colon)).drop 1).filter (·.kind != .doc)
  if !head.isWord "ref" || others.all (·.kind != .colon) then .error [unexpected]
  else match body.head?, body.getLast? with
    | some first, some last =>
      let parts := Header.ofTokens header
      let span : Span := ⟨first.span.start, last.span.stop⟩
      .ok
        { keyword := "ref"
          span := ⟨head.span.start, last.span.stop⟩
          line := head.line
          name := parts.name
          nameSpan := parts.nameSpan
          aliasName := none
          settingsSpan := none
          openBrace := none
          bodySpan := some span
          children := []
          lines := [⟨span.slice source, span, first.line, []⟩]
          properties := []
          doc
          shortForm := true }
    | _, _ => .error [head.report .missingEndpoints, unexpected]

/-- The reports on the tokens that a block header has no place for. -/
def Header.reports (header : Header) (head : Token) : List Diagnostic :=
  (header.leftovers.filter (·.kind != .doc)).map fun t =>
    t.report (.unexpectedInHeader t.value head.value)

/-- The block with the given first token, header, braces and contents. -/
def makeBlock (doc : List Text) (head : Token) (header : Header) (brace close : Token)
    (contents : Contents) : Block :=
  { keyword := if head.kind = .word then head.value.lower else []
    span := ⟨head.span.start, close.span.stop⟩
    line := head.line
    name := header.name
    nameSpan := header.nameSpan
    aliasName := header.aliasName
    settingsSpan := header.settingsSpan
    openBrace := some brace.span.start
    bodySpan := some ⟨brace.span.stop, close.span.start⟩
    children := contents.children
    lines := contents.lines
    properties := contents.properties
    doc
    shortForm := false }

/-- The contents of a token sequence; `doc` holds the doc comments that wait for the next
statement. A block whose brace is not closed is left at its brace. -/
def contentsFrom (source : Text) (topLevel : Bool) (doc : List Text) :
    List Token → Contents
  | [] => .empty
  | t :: rest =>
    match t.kind with
    | .newline => contentsFrom source topLevel doc rest
    | .doc => contentsFrom source topLevel (doc ++ [t.value]) rest
    -- The waiting doc comments survive a stray brace.
    | .closeBrace => (contentsFrom source topLevel doc rest).report [t.report .unmatchedBrace]
    | .openBrace =>
      match _h : closeBrace 0 rest with
      | none => (contentsFrom source topLevel [] rest).report [t.report (.unclosedBrace t.value)]
      | some (body, close, after) =>
        let inner := contentsFrom source false [] body
        ((contentsFrom source topLevel [] after).addBlock
          (makeBlock doc t (.ofTokens []) t close inner)).report inner.problems
    | kind =>
      -- The statement starts with this token; its line may end at a brace, and then it is a header.
      let scan := scanLine topLevel (if kind.opens then [t] else []) rest
      let unclosed := scan.unclosed.toList.map fun o => o.report (.unclosedBracket o.value)
      let other (after : Contents) : Contents :=
        if topLevel then
          match readShortRef source doc t scan.segment with
          | .ok block => after.addBlock block
          | .error problems => after.report problems
        else match readBodyLine source doc t scan.segment with
          | .inl line => after.addLine line
          | .inr property => after.addProperty property
      match _h : scan.rest with
      | [] => (other .empty).report unclosed
      | brace :: behind =>
        if brace.kind = .openBrace then
          match _h' : closeBrace 0 behind with
          | none =>
            (contentsFrom source topLevel [] behind).report
              (unclosed ++ [t.report (.unclosedBrace t.value)])
          | some (body, close, after) =>
            let header := Header.ofTokens scan.segment
            let inner := contentsFrom source false [] body
            ((contentsFrom source topLevel [] after).addBlock
              (makeBlock doc t header brace close inner)).report
                (unclosed ++ header.reports t ++ inner.problems)
        else (other (contentsFrom source topLevel [] (brace :: behind))).report unclosed
termination_by tokens => tokens.length
decreasing_by
  all_goals simp only [List.length_cons]
  · omega
  · omega
  · omega
  · omega
  · have := congrArg List.length (eq_of_closeBrace _h)
    simp only [List.length_append, List.length_cons] at this
    omega
  · have := congrArg List.length (eq_of_closeBrace _h)
    simp only [List.length_append, List.length_cons] at this
    omega
  all_goals
    -- What stands behind the scanned line is a tail of the tokens, and so is what follows a block.
    have hscan := congrArg List.length
      (scanLine_append topLevel (if kind.opens then [t] else []) rest)
    have hrest : scan.rest.length = behind.length + 1 := by rw [_h]; rfl
    rw [List.length_append] at hscan
    have hle : scan.rest.length ≤ rest.length := by
      have : scan = scanLine topLevel (if kind.opens then [t] else []) rest := rfl
      rw [this]
      omega
  · omega
  · have := congrArg List.length (eq_of_closeBrace _h')
    simp only [List.length_append, List.length_cons] at this
    omega
  · have := congrArg List.length (eq_of_closeBrace _h')
    simp only [List.length_append, List.length_cons] at this
    omega
  · omega

/-! ## Trees -/

/-- The identity by which names are compared: quotes and blanks do not count. -/
def normalizeName (name : Text) : Text := name.filter fun c => !isQuoteChar c && !isBlank c

/-- The blocks of a text. -/
structure BlockTree where
  /-- The cleaned text. -/
  text : Text
  /-- The top-level blocks in order. -/
  blocks : List Block
  /-- The reports in the order in which the problems were met. -/
  problems : List Diagnostic

/-- The blocks of a cleaned text. -/
def parseBlocks (text : Text) : BlockTree :=
  let contents := contentsFrom text true [] (tokenize text)
  ⟨text, contents.children, contents.problems⟩

namespace BlockTree

/-- The top-level blocks with the given keyword. -/
def withKeyword (tree : BlockTree) (keyword : Text) : List Block :=
  tree.blocks.filter (·.keyword = keyword.lower)

/-- The top-level blocks with the given keyword whose name is the given one up to quotes and
blanks. -/
def find (tree : BlockTree) (keyword name : Text) : List Block :=
  (tree.withKeyword keyword).filter fun b => b.name.map normalizeName = some (normalizeName name)

end BlockTree

end SchemaDiagram
