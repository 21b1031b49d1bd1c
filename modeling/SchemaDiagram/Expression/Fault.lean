import SchemaDiagram.Number.Numeral

/-! # What is wrong with an expression

An expression may fail to be read for a character that belongs to no token, for a text in quotes
whose inside cannot be read, or for tokens in an order that no expression has. Where the mistake
is a common one the message names it.

* **`TextFault`**, **`TemplateFault`**, **`ParameterFault`** — what is wrong inside quotes, in the
  fields of a template and in the parameters of a lambda.
* **`SyntaxFault`** — what is wrong with an expression.
* **`SyntaxFault.message`** — its wording. -/

namespace SchemaDiagram.Expression

/-- A character in single quotes. -/
def charInQuotes (c : Char) : Text := ['\x27', c, '\x27']

/-- The code of a character in base 16, with at least four digits. -/
def codePointText (c : Char) : Text :=
  Text.padLeftWith '0' 4 ((Nat.toDigits 16 c.toNat).map Char.toUpper)

/-! ## Inside quotes -/

/-- What is wrong inside the quotes of a text. -/
inductive TextFault where
  /-- The characters from `start` up to, but without, `stop` are an escape that is cut short. -/
  | shortEscape (start stop : Nat) (shape : String)
  /-- They name no character by its code. -/
  | codeTooLarge (start stop : Nat)
  /-- They name a character by no name. -/
  | namelessEscape (start stop : Nat)
  /-- They name a character by a name that none has. -/
  | unknownName (start stop : Nat)
  /-- An escape in bytes has not two digits. -/
  | shortByte (place : Nat)
  /-- A character of bytes is past ASCII. -/
  | wideByte
  /-- Bytes and texts stand side by side. -/
  | mixed
deriving DecidableEq, Repr

namespace TextFault

/-- The wording of a fault in the characters from `start` up to, but without, `stop`. -/
def rangeMessage (start stop : Nat) (reason : Text) : Text :=
  concat ["(unicode error) 'unicodeescape' codec can't decode bytes in position ",
    Text.ofNat start, "-", Text.ofNat (stop - 1), ": ", reason]

/-- The wording of a fault. -/
def message : TextFault → Text
  | shortEscape start stop shape =>
    rangeMessage start stop (concat ["truncated \\", shape.toList, " escape"])
  | codeTooLarge start stop => rangeMessage start stop "illegal Unicode character"
  | namelessEscape start stop => rangeMessage start stop "malformed \\N character escape"
  | unknownName start stop => rangeMessage start stop "unknown Unicode character name"
  | shortByte place => concat ["(value error) invalid \\x escape at position ", Text.ofNat place]
  | wideByte => "bytes can only contain ASCII literal characters"
  | mixed => "cannot mix bytes and nonbytes literals"

end TextFault

/-! ## In templates -/

/-- What is wrong with the fields of a template. -/
inductive TemplateFault where
  /-- A field stands in the layout of a field that stands in a layout. -/
  | tooDeep
  /-- A field has a backslash. -/
  | backslash
  /-- A field has a comment. -/
  | comment
  /-- A field has more open brackets than can be counted. -/
  | tooManyBrackets
  /-- A bracket has no partner. -/
  | unmatched (c : Char)
  /-- A closing bracket meets an opening one of another kind. -/
  | mismatched (closing opening : Char)
  /-- A text in a field does not end. -/
  | openText
  /-- A field does not end. -/
  | unclosedField
  /-- A conversion is none of the known ones. -/
  | badConversion
  /-- A closing brace stands alone. -/
  | strayBrace
  /-- A field has no expression before the character that ends it. -/
  | emptyField (next : Char)
deriving DecidableEq, Repr

/-- The wording of a fault. -/
def TemplateFault.message : TemplateFault → Text
  | tooDeep => "f-string: expressions nested too deeply"
  | backslash => "f-string expression part cannot include a backslash"
  | comment => "f-string expression part cannot include '#'"
  | tooManyBrackets => "f-string: too many nested parenthesis"
  | unmatched c => concat ["f-string: unmatched ", charInQuotes c]
  | mismatched closing opening =>
    concat ["f-string: closing parenthesis ", charInQuotes closing,
      " does not match opening parenthesis ", charInQuotes opening]
  | openText => "f-string: unterminated string"
  | unclosedField => "f-string: expecting '\x7d'"
  | badConversion => "f-string: invalid conversion character: expected 's', 'r', or 'a'"
  | strayBrace => "f-string: single '\x7d' is not allowed"
  | emptyField next =>
    if next = '\x7d' then "f-string: empty expression not allowed"
    else concat ["f-string: expression required before ", charInQuotes next]

/-! ## In the parameters of a lambda -/

/-- What is wrong with the parameters of a lambda. -/
inductive ParameterFault where
  /-- A parameter without a default follows one with a default. -/
  | defaultMissing
  /-- Parameters stand in parentheses. -/
  | parenthesized
  /-- A slash stands first. -/
  | slashFirst
  /-- A second slash stands behind parameters. -/
  | slashTwice
  /-- A slash stands behind a star. -/
  | slashAfterStar
  /-- A star follows a slash directly. -/
  | starAfterSlash
  /-- A star without a name is not followed by a parameter. -/
  | bareStar
  /-- A starred parameter has a default. -/
  | starDefault
  /-- A second star stands behind parameters. -/
  | starTwice
  /-- A double starred parameter has a default. -/
  | doubleStarDefault
  /-- A parameter follows the double starred one. -/
  | afterDoubleStar
  /-- An equals sign has no default behind it. -/
  | emptyDefault
deriving DecidableEq, Repr

/-- The wording of a fault. -/
def ParameterFault.message : ParameterFault → String
  | defaultMissing => "non-default argument follows default argument"
  | parenthesized => "Lambda expression parameters cannot be parenthesized"
  | slashFirst => "at least one argument must precede /"
  | slashTwice => "/ may appear only once"
  | slashAfterStar => "/ must be ahead of *"
  | starAfterSlash => "expected comma between / and *"
  | bareStar => "named arguments must follow bare *"
  | starDefault => "var-positional argument cannot have default value"
  | starTwice => "* argument may appear only once"
  | doubleStarDefault => "var-keyword argument cannot have default value"
  | afterDoubleStar => "arguments cannot follow var-keyword argument"
  | emptyDefault => "expected default value expression"

/-! ## Everywhere -/

/-- What is wrong with an expression. -/
inductive SyntaxFault where
  /-- A text does not end before the end of a line. -/
  | openText (line : Nat)
  /-- A text between three quotes does not end. -/
  | openLongText (line : Nat)
  /-- A closing bracket has no partner. -/
  | unmatched (c : Char)
  /-- A closing bracket meets an opening one of another kind, perhaps one on an earlier line. -/
  | mismatched (closing opening : Char) (line : Option Nat)
  /-- More brackets are open than can be counted. -/
  | tooManyBrackets
  /-- A number goes on with something that is no digit. -/
  | badNumber (kind : String)
  /-- A digit is none of its base. -/
  | badDigit (d : Char) (kind : String)
  /-- A whole number starts with a zero. -/
  | leadingZeros
  /-- A character cannot stand in a name. -/
  | strayCharacter (c : Char)
  /-- A character has a null code. -/
  | nullCharacter
  /-- A backslash stands before something other than the end of a line. -/
  | strayBackslash
  /-- A bracket is still open at the end. -/
  | neverClosed (c : Char)
  /-- A line starts with blanks. -/
  | indented
  /-- A whole number has too many digits. -/
  | longNumber (digits : Nat)
  /-- A text cannot be read. -/
  | badText (f : TextFault)
  /-- A template cannot be read. -/
  | badTemplate (f : TemplateFault)
  /-- An expression in a field of a template cannot be read. -/
  | inField (f : SyntaxFault)
  /-- The parameters of a lambda cannot be read. -/
  | badParameters (f : ParameterFault)
  /-- No expression has these tokens. -/
  | unreadable
  /-- Two expressions stand side by side in brackets. -/
  | commaMissing
  /-- A condition has no other case. -/
  | elseMissing
  /-- A command is followed by its argument without brackets. -/
  | bracketsMissing (command : Text)
  /-- A name is given a value by a single equals sign. -/
  | assignedName
  /-- Something that is no name is given a value by a single equals sign. -/
  | assignedHere (kind : String)
  /-- Something that is no name is given a value. -/
  | assigned (kind : String)
  /-- Something that is no name stands before an assignment sign. -/
  | assignedInside (kind : String)
  /-- An argument is named by something that is no name. -/
  | assignedArgument
  /-- A starred expression stands alone in parentheses. -/
  | starredGroup
  /-- A double starred expression stands alone in parentheses. -/
  | doubleStarredGroup
  /-- A star has nothing behind it. -/
  | bareStar
  /-- A generator stands beside other arguments without parentheses. -/
  | bareGenerator
  /-- An argument without a name follows a named or an unpacked one. -/
  | lateArgument (isUnpacked : Bool)
  /-- A star follows an unpacked argument. -/
  | lateStar
  /-- A key has no colon behind it. -/
  | colonMissing
  /-- A key has no value. -/
  | valueMissing
  /-- A value is starred. -/
  | starredValue
  /-- A comprehension unpacks a sequence. -/
  | starredComprehension
  /-- A comprehension unpacks a mapping. -/
  | doubleStarredComprehension
  /-- A comprehension collects several things without parentheses. -/
  | bareComprehension
deriving DecidableEq, Repr

/-- The wording of a fault. -/
def SyntaxFault.message : SyntaxFault → Text
  | openText line =>
    concat ["unterminated string literal (detected at line ", Text.ofNat line, ")"]
  | openLongText line =>
    concat ["unterminated triple-quoted string literal (detected at line ", Text.ofNat line, ")"]
  | unmatched c => concat ["unmatched ", charInQuotes c]
  | mismatched closing opening line =>
    concat ["closing parenthesis ", charInQuotes closing, " does not match opening parenthesis ",
      charInQuotes opening, line.elim [] fun n => concat [" on line ", Text.ofNat n]]
  | tooManyBrackets => "too many nested parentheses"
  | badNumber kind => concat ["invalid ", kind.toList, " literal"]
  | badDigit d kind => concat ["invalid digit ", charInQuotes d, " in ", kind.toList, " literal"]
  | leadingZeros => "leading zeros in decimal integer literals are not permitted; " ++
      "use an 0o prefix for octal integers".toList
  | strayCharacter c =>
    if isPrintable c then
      concat ["invalid character ", charInQuotes c, " (U+", codePointText c, ")"]
    else concat ["invalid non-printable character U+", codePointText c]
  | nullCharacter => "source code string cannot contain null bytes"
  | strayBackslash => "unexpected character after line continuation character"
  | neverClosed c => concat [charInQuotes c, " was never closed"]
  | indented => "unexpected indent"
  | longNumber digits => concat [(NumeralFault.tooLong digits).message, " - Consider hexadecimal ",
      "for huge integer literals to avoid decimal conversion limits."]
  | badText f => f.message
  | badTemplate f => f.message
  | inField f => concat ["f-string: ", f.message]
  | badParameters f => f.message.toList
  | unreadable => "invalid syntax"
  | commaMissing => "invalid syntax. Perhaps you forgot a comma?"
  | elseMissing => "expected 'else' after 'if' expression"
  | bracketsMissing command => concat ["Missing parentheses in call to '", command,
      "'. Did you mean ", command, "(...)?"]
  | assignedName => "invalid syntax. Maybe you meant '==' or ':=' instead of '='?"
  | assignedHere kind => concat ["cannot assign to ", kind.toList,
      " here. Maybe you meant '==' instead of '='?"]
  | assigned kind => concat ["cannot assign to ", kind.toList]
  | assignedInside kind => concat ["cannot use assignment expressions with ", kind.toList]
  | assignedArgument => "expression cannot contain assignment, perhaps you meant \"==\"?"
  | starredGroup => "cannot use starred expression here"
  | doubleStarredGroup => "cannot use double starred expression here"
  | bareStar => "Invalid star expression"
  | bareGenerator => "Generator expression must be parenthesized"
  | lateArgument true => "positional argument follows keyword argument unpacking"
  | lateArgument false => "positional argument follows keyword argument"
  | lateStar => "iterable argument unpacking follows keyword argument unpacking"
  | colonMissing => "':' expected after dictionary key"
  | valueMissing => "expression expected after dictionary key and ':'"
  | starredValue => "cannot use a starred expression in a dictionary value"
  | starredComprehension => "iterable unpacking cannot be used in comprehension"
  | doubleStarredComprehension => "dict unpacking cannot be used in dict comprehension"
  | bareComprehension => "did you forget parentheses around the comprehension target?"

end SchemaDiagram.Expression
