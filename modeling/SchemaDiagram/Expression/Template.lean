import SchemaDiagram.Expression.Quotation

/-! # Templates

A template is a text with fields in braces. A field holds an expression, perhaps an equals sign,
perhaps an exclamation mark with the letter of a conversion, and perhaps a colon with a layout,
which is a template itself. A doubled brace outside of fields stands for a single one.

* **`fieldExpression`** — the expression of a field.
* **`checkTemplate`** — refuses a template that cannot be read, where a given function checks its
  expressions. -/

namespace SchemaDiagram.Expression

/-! ## The expression of a field -/

/-- The most brackets that may be open at a time. -/
def mostBrackets : Nat := 200

/-- Whether a closing bracket belongs to an opening one. -/
def areBrackets (opening closing : Char) : Bool :=
  [('(', ')'), ('[', ']'), ('{', '\x7d')].contains (opening, closing)

/-- Whether a comparison of two characters starts with the first one. -/
def startsComparison (c : Char) (rest : Text) : Bool :=
  "!=<>".toList.contains c && rest.head? = some '='

/-- The expression that follows the characters `seen`, in reverse, and the rest from the character
on that ends it. Some brackets are open, and perhaps a text, between one or three quotes. The next
`skip` characters have been looked at. -/
def fieldFrom (seen : Text) (brackets : List Char) (quote : Option (Char × Bool)) (skip : Nat) :
    Text → Except TemplateFault (Text × Text)
  | [] =>
    match quote, brackets with
    | some _, _ => .error .openText
    | none, opening :: _ => .error (.unmatched opening)
    | none, [] => .error .unclosedField
  | c :: rest =>
    if skip ≠ 0 then fieldFrom (c :: seen) brackets quote (skip - 1) rest
    else if c = '\\' then .error .backslash
    else match quote with
      | some (mark, isLong) =>
        if c = mark && (!isLong || [c, c].isPrefixOf rest) then
          fieldFrom (c :: seen) brackets none (if isLong then 2 else 0) rest
        else fieldFrom (c :: seen) brackets quote 0 rest
      | none =>
        if c = '\x27' || c = '"' then
          let isLong := [c, c].isPrefixOf rest
          fieldFrom (c :: seen) brackets (some (c, isLong)) (if isLong then 2 else 0) rest
        else if "([\x7b".toList.contains c then
          if mostBrackets ≤ brackets.length then .error .tooManyBrackets
          else fieldFrom (c :: seen) (c :: brackets) none 0 rest
        else if c = '#' then .error .comment
        else if brackets.isEmpty && startsComparison c rest then
          fieldFrom (c :: seen) brackets none 1 rest
        else if brackets.isEmpty && "!:=\x7d".toList.contains c then .ok (seen.reverse, c :: rest)
        else if ")]\x7d".toList.contains c then
          match brackets with
          | [] => .error (.unmatched c)
          | opening :: brackets =>
            if areBrackets opening c then fieldFrom (c :: seen) brackets none 0 rest
            else .error (.mismatched c opening)
        else fieldFrom (c :: seen) brackets none 0 rest

/-- The expression of a field, and the rest from the character on that ends it. -/
def fieldExpression (s : Text) : Except TemplateFault (Text × Text) := fieldFrom [] [] none 0 s

/-! ## Words between fields -/

/-- Whether the character is a brace. -/
def isBrace (c : Char) : Bool := c = '{' || c = '\x7d'

/-- The words `seen`, in reverse, that a brace ends, and the rest. In a whole template a doubled
brace belongs to the words, and its second half is left out; a closing brace does not stand alone
there. -/
def endWords (isWhole : Bool) (seen : Text) (brace : Char) (rest : Text) :
    Except TemplateFault (Text × Text × Bool) :=
  if isWhole && rest.head? = some brace then .ok ((brace :: seen).reverse, rest.drop 1, true)
  else if isWhole && brace = '\x7d' then .error .strayBrace
  else .ok (seen.reverse, brace :: rest, false)

/-- The words that follow the characters `seen`, in reverse, up to a brace, and the rest. The last
part tells whether the brace is doubled. Braces around the name of a character do not count. -/
def wordsFrom (isWhole isRaw inName : Bool) (seen : Text) :
    Text → Except TemplateFault (Text × Text × Bool)
  | [] => .ok (seen.reverse, [], false)
  | [c] =>
    if isBrace c && !inName then endWords isWhole seen c []
    else .ok ((c :: seen).reverse, [], false)
  | c :: d :: rest =>
    if inName then wordsFrom isWhole isRaw (c ≠ '\x7d') (c :: seen) (d :: rest)
    else if c = '\\' && !isRaw then
      if d = 'N' then
        match rest with
        | e :: rest => wordsFrom isWhole isRaw (e = '{') (e :: d :: c :: seen) rest
        | [] => .ok ((d :: c :: seen).reverse, [], false)
      else if isBrace d then endWords isWhole (c :: seen) d rest
      else wordsFrom isWhole isRaw false (d :: c :: seen) rest
    else if isBrace c then endWords isWhole seen c (d :: rest)
    else wordsFrom isWhole isRaw false (c :: seen) (d :: rest)

/-! ## Whole templates -/

/-- How the expression of a field is checked, given the rest that follows it. -/
abbrev FieldCheck := (expression rest : Text) → Except SyntaxFault Unit

/-- What follows a field behind its opening brace, where `layoutRest` gives what follows its
layout. -/
def fieldRest (check : FieldCheck) (layoutRest : Text → Except SyntaxFault Text) (s : Text) :
    Except SyntaxFault Text := do
  let (expression, rest) ← (fieldExpression s).mapError .badTemplate
  if expression.all fun c => " \t\n\x0c".toList.contains c then
    throw (.badTemplate (.emptyField (rest.headD '\x7d')))
  check expression rest
  let rest := match rest with
    | '=' :: rest => rest.dropWhile fun c => " \t\n\x0b\x0c\r".toList.contains c
    | rest => rest
  let rest ← match rest with
    | ['!'] => throw (.badTemplate .unclosedField)
    | '!' :: c :: rest =>
      if "sra".toList.contains c then pure rest else throw (.badTemplate .badConversion)
    | rest => pure rest
  let rest ← match rest with
    | [':'] => throw (.badTemplate .unclosedField)
    | ':' :: rest => layoutRest rest
    | rest => pure rest
  match rest with
  | '\x7d' :: rest => return rest
  | _ => throw (.badTemplate .unclosedField)

/-- What follows a template up to its end, which a layout has at a closing brace. At most `steps`
words and fields are read. -/
def templateRest (isWhole isRaw : Bool) (afterField : Text → Except SyntaxFault Text) :
    (steps : Nat) → Text → Except SyntaxFault Text
  | 0, s => .ok s
  | steps + 1, s => do
    let (words, rest, isDoubled) ← (wordsFrom isWhole isRaw false [] s).mapError .badTemplate
    (checkText isRaw words).mapError .badText
    if isDoubled then templateRest isWhole isRaw afterField steps rest
    else match rest with
      | '{' :: rest => templateRest isWhole isRaw afterField steps (← afterField rest)
      | _ =>
        if !isWhole && rest.isEmpty then throw (.badTemplate .unclosedField)
        return rest

/-- What follows a field behind its opening brace, where layouts are nested at most `depth` deep. -/
def nestedFieldRest (check : FieldCheck) (isRaw : Bool) :
    (depth : Nat) → Text → Except SyntaxFault Text
  | 0, _ => .error (.badTemplate .tooDeep)
  | depth + 1, s =>
    fieldRest check
      (fun s => templateRest false isRaw (nestedFieldRest check isRaw depth) (s.length + 1) s) s

/-- Refuses a template that cannot be read. -/
def checkTemplate (check : FieldCheck) (isRaw : Bool) (s : Text) : Except SyntaxFault Unit := do
  let _ ← templateRest true isRaw (nestedFieldRest check isRaw 2) (s.length + 1) s

end SchemaDiagram.Expression
