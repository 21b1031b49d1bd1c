import SchemaDiagram.Declaration.Endpoint
import SchemaDiagram.Model.Table
import SchemaDiagram.Settings.Typed
import SchemaDiagram.Text.WordChar

/-! # Field declarations

A field declaration is `name type [settings]`. The name is a word or stands between double quotes;
the type is a dotted word or stands between double quotes, and may have arguments in parentheses and
array suffixes `[]`. Several declarations may stand on one line: one ends where its settings list
closes.

* **`splitDeclarations`** — the declarations of a line.
* **`readField`** — the field that a declaration declares. -/

namespace SchemaDiagram

/-- The length of a text up to the double quote that closes it; a backslash takes the next character
with it. -/
def closingQuote? : Text → Option Nat
  | [] => none
  | c :: rest =>
    if c = '"' then some 1
    else if c = '\\' then
      match rest with
      | [] => none
      | _ :: rest => (closingQuote? rest).map (· + 2)
    else (closingQuote? rest).map (· + 1)

/-- The length of the name at the start of a declaration, zero where there is none. -/
def nameLength : Text → Nat
  | [] => 0
  | c :: rest =>
    if c = '"' then ((closingQuote? rest).map (· + 1)).getD 0
    else ((c :: rest).takeWhile isWordChar).length

/-- The name at the start of a trimmed declaration with its quotes, and the offset of what follows
it behind blanks. -/
def cutName? (s : Text) : Option (Text × Nat) :=
  let n := nameLength s
  let blanks := ((s.drop n).takeWhile isBlank).length
  if n = 0 || blanks = 0 || (s.drop (n + blanks)).isEmpty then none else some (s.take n, n + blanks)

/-- The offset of the bracket that closes the `depth` brackets before a text that starts at offset
`pos`, or the end of the text. -/
def matchingBracket (quote : Option Char) (depth pos : Nat) : Text → Nat
  | [] => pos
  | c :: rest =>
    match quote with
    | some q => matchingBracket (if c = q then none else some q) depth (pos + 1) rest
    | none =>
      if isQuoteChar c then matchingBracket (some c) depth (pos + 1) rest
      else if c = '[' then matchingBracket none (depth + 1) (pos + 1) rest
      else if c = ']' then
        if depth ≤ 1 then pos else matchingBracket none (depth - 1) (pos + 1) rest
      else matchingBracket none depth (pos + 1) rest

/-- What lies between the brackets of the first settings list, in a text that starts at offset
`pos`: the first bracket outside quotes and parentheses that is no array suffix opens it. -/
def settingsBounds? (quote : Option Char) (depth pos : Nat) : Text → Option Span
  | [] => none
  | c :: rest =>
    match quote with
    | some q => settingsBounds? (if c = q then none else some q) depth (pos + 1) rest
    | none =>
      if isQuoteChar c then settingsBounds? (some c) depth (pos + 1) rest
      else if c = '(' then settingsBounds? none (depth + 1) (pos + 1) rest
      else if c = ')' then settingsBounds? none (depth - 1) (pos + 1) rest
      else if c = '[' ∧ depth = 0 then
        match rest with
        -- An array suffix of the type.
        | ']' :: rest => settingsBounds? none depth (pos + 2) rest
        | rest => some ⟨pos + 1, matchingBracket none 1 (pos + 1) rest⟩
      else settingsBounds? none depth (pos + 1) rest

/-- The end of the first of several declarations; none where the text is one declaration. -/
def declarationEnd? (s : Text) : Option Nat :=
  match cutName? s with
  | none => none
  | some (_, offset) =>
    match settingsBounds? none 0 0 (s.drop offset) with
    | none => none
    | some bounds =>
      if (s.length - offset) ≤ bounds.stop + 1 then none else some (offset + bounds.stop + 1)

/-- A declaration is not empty. -/
theorem declarationEnd?_pos {s : Text} {n : Nat} (h : declarationEnd? s = some n) : 0 < n := by
  unfold declarationEnd? at h
  split at h
  next => simp at h
  next =>
    split at h
    next => simp at h
    next =>
      split at h
      next => simp at h
      next => simp only [Option.some.injEq] at h; omega

/-- Nothing is added where blanks at the end are dropped. -/
theorem length_trimRight_le (s : Text) : (Text.trimRight s).length ≤ s.length := by
  obtain ⟨blanks, hs, _⟩ := Text.exists_eq_trimRight_append s
  have := congrArg List.length hs
  rw [List.length_append] at this
  omega

/-- Nothing is added where blanks at both ends are dropped. -/
theorem length_trim_le (s : Text) : (Text.trim s).length ≤ s.length := by
  have h₁ := length_trimRight_le s.trimLeft
  have h₂ := congrArg List.length (Text.takeWhile_append_trimLeft s)
  rw [List.length_append] at h₂
  simp only [Text.trim]
  omega

/-- The declarations of a trimmed line. -/
def splitTrimmed (s : Text) : List Text :=
  if _hs : s = [] then []
  else match _h : declarationEnd? s with
    | none => [s]
    | some n => Text.trimRight (s.take n) :: splitTrimmed (Text.trim (s.drop n))
termination_by s.length
decreasing_by
  have h₁ := length_trim_le (s.drop n)
  have h₂ := declarationEnd?_pos _h
  have h₃ := List.length_pos_iff.2 _hs
  rw [List.length_drop] at h₁
  omega

/-- The declarations of a line. -/
def splitDeclarations (s : Text) : List Text := splitTrimmed s.trim

/-- The text behind arguments in parentheses, which blanks may precede, where there are any. -/
def dropArguments (s : Text) : Text :=
  match s.trimLeft with
  | '(' :: rest =>
    match Text.cutFirst ')' rest with
    | some (_, after) => after
    | none => s
  | _ => s

/-- Whether the text consists of array suffixes. -/
def isArraySuffix : Text → Bool
  | [] => true
  | '[' :: ']' :: rest => isArraySuffix rest
  | _ => false

/-- Whether the text is a type: a dotted word or a text between double quotes, arguments and array
suffixes. -/
def isType (s : Text) : Bool :=
  let isTypeChar (c : Char) : Bool := isWordChar c || c = '.'
  let base? := match s with
    | '"' :: rest => (Text.cutFirst '"' rest).map (·.2)
    | s => if (s.takeWhile isTypeChar).isEmpty then none else some (s.dropWhile isTypeChar)
  match base? with
  | some rest => isArraySuffix (dropArguments rest)
  | none => false

/-- The reference in the settings of a field, or the report on a target that is no single
column. -/
def readInlineRef (value : Text) (line : Option Nat) : Option InlineRef × List Diagnostic :=
  match findOperator? value with
  | none => (none, [])
  | some (offset, operator) =>
    match Endpoint.read? (value.drop (offset + operator.length)) with
    -- A field refers to one column.
    | some ⟨table, [column]⟩ => (some ⟨operator, table, column⟩, [])
    | _ => (none, [⟨.unreadableTarget value.trim, line⟩])

/-- The field with the given name, type and settings list. Doc comments are its note unless the list
has one. -/
def makeField (name type settingsText : Text) (doc : List Text) (line : Option Nat) :
    Field × List Diagnostic :=
  let settings := parseSettings settingsText
  let typed := interpretSettings settings .field line
  let (inlineRef, refProblems) := match typed.text? "ref" with
    | some value => readInlineRef value line
    | none => (none, [])
  let docNote := if doc.isEmpty then none else some (Text.join ['\n'] doc)
  ({ name
     type
     isPrimaryKey := typed.flag "pk" || typed.flag "primary key"
     isUnique := typed.flag "unique"
     isNotNull := typed.flag "not null"
     isForeignKey := inlineRef.isSome
     isIncrement := typed.flag "increment"
     note := (typed.text? "note").or docNote
     default := typed.text? "default"
     enumValues := none
     inlineRef
     settings },
    typed.problems ++ refProblems)

/-- The field that a declaration declares, with reports on its settings; only a report where it
declares none. -/
def readField (text : Text) (doc : List Text) (line : Option Nat) :
    Option Field × List Diagnostic :=
  let text := text.trim
  match cutName? text with
  | none => (none, [⟨.unreadableField text, line⟩])
  | some (quotedName, offset) =>
    let name := unquote quotedName
    let rest := text.drop offset
    let (typePart, settingsText) := match settingsBounds? none 0 0 rest with
      | none => (rest, [])
      | some bounds => (rest.take (bounds.start - 1), bounds.slice rest)
    let type := Text.collapse typePart
    if isType type then
      let (field, problems) := makeField name (unquote type) settingsText doc line
      (some field, problems)
    else (none, [⟨.unreadableType type name, line⟩])

end SchemaDiagram
