import SchemaDiagram.Failure

/-! # Problems of a configuration

A configuration is checked as a whole: every value that is refused is reported with its place, the
value itself and the cause.

* **`ConfigCause`** — why a value is refused, with a code and a wording.
* **`Checked`** — a result, or the problems of all its parts.
* **`ConfigFault`** — why there is no configuration. -/

namespace SchemaDiagram

/-- Why a configuration value is refused. -/
inductive ConfigCause where
  /-- A whole number is asked for and the number has a fraction. -/
  | fractionalInteger
  /-- A whole number is asked for and the number is infinite or no number. -/
  | infiniteInteger
  /-- A whole number is asked for and the double is past 63 bits or the text is too long. -/
  | oversizedInteger
  /-- A whole number is asked for and the text is not one. -/
  | unreadableInteger
  /-- A whole number is asked for and the value is neither a number nor a text. -/
  | notInteger
  /-- A number is asked for and the text is not one. -/
  | unreadableNumber
  /-- A number is asked for and the value is neither a number nor a text. -/
  | notNumber
  /-- A truth value is asked for and the value does not name one. -/
  | unreadableFlag
  /-- A truth value is asked for and the value is of another kind. -/
  | notFlag
  /-- A text is asked for. -/
  | notText
  /-- A list is asked for. -/
  | notList
  /-- The values of a record are asked for. -/
  | notRecord (name : String)
  /-- One of some words is asked for. -/
  | notChoice (choices : List String)
  /-- There is no section of this name. -/
  | unknownSection
  /-- The value breaks a rule. -/
  | brokenRule (rule : Text)

namespace ConfigCause

/-- The code of a cause. -/
def code : ConfigCause → String
  | fractionalInteger => "int_from_float"
  | infiniteInteger => "finite_number"
  | oversizedInteger => "int_parsing_size"
  | unreadableInteger => "int_parsing"
  | notInteger => "int_type"
  | unreadableNumber => "float_parsing"
  | notNumber => "float_type"
  | unreadableFlag => "bool_parsing"
  | notFlag => "bool_type"
  | notText => "string_type"
  | notList => "list_type"
  | notRecord _ => "model_type"
  | notChoice _ => "literal_error"
  | unknownSection => "extra_forbidden"
  | brokenRule _ => "value_error"

/-- Some words in quotes, the last two joined by `or`. -/
def alternatives : List String → Text
  | [] => []
  | [word] => Text.quoted word
  | [word, last] => concat [Text.quoted word, " or ", Text.quoted last]
  | word :: words => concat [Text.quoted word, ", ", alternatives words]

/-- The wording of a cause. -/
def message : ConfigCause → Text
  | fractionalInteger => "Input should be a valid integer, got a number with a fractional part"
  | infiniteInteger => "Input should be a finite number"
  | oversizedInteger => "Unable to parse input string as an integer, exceeded maximum size"
  | unreadableInteger => "Input should be a valid integer, unable to parse string as an integer"
  | notInteger => "Input should be a valid integer"
  | unreadableNumber => "Input should be a valid number, unable to parse string as a number"
  | notNumber => "Input should be a valid number"
  | unreadableFlag => "Input should be a valid boolean, unable to interpret input"
  | notFlag => "Input should be a valid boolean"
  | notText => "Input should be a valid string"
  | notList => "Input should be a valid list"
  | notRecord name =>
    "Input should be a valid dictionary or instance of ".toList ++ name.toList
  | notChoice choices => "Input should be ".toList ++ alternatives choices
  | unknownSection => "Extra inputs are not permitted"
  | brokenRule rule => "Value error, ".toList ++ rule

end ConfigCause

/-- A value that is refused. -/
structure ConfigProblem where
  /-- The keys that lead to the value. -/
  location : List Text
  /-- The value as it was given. -/
  input : Json
  /-- Why it is refused. -/
  cause : ConfigCause

namespace ConfigProblem

/-- The keys that lead to the value, with dots between them. -/
def field (p : ConfigProblem) : Text := Text.join ['.'] p.location

/-- The problem seen from one level further out. -/
def under (key : Text) (p : ConfigProblem) : ConfigProblem :=
  { p with location := key :: p.location }

/-- The failure of a configuration whose first problem this is. -/
def failure (p : ConfigProblem) : Failure := .configInvalidValue p.field p.input p.cause.message

end ConfigProblem

/-- A result, or all problems that were met. -/
inductive Checked (α : Type) where
  /-- The parts are fine. -/
  | accepted (value : α)
  /-- Some parts are not. -/
  | refused (problems : List ConfigProblem)
  /-- The home of a user that some part names is not known, so the check comes to no end. -/
  | undecided

namespace Checked

variable {α β : Type}

/-- A refused value. -/
def refuse (input : Json) (cause : ConfigCause) : Checked α := refused [⟨[], input, cause⟩]

/-- The value, or the refusal of what it was to be read from. -/
def ofOption (input : Json) (cause : ConfigCause) (value : Option α) : Checked α :=
  value.elim (refuse input cause) accepted

/-- The value, or the refusal of what it was to be read from for the given cause. -/
def ofExcept (input : Json) : Except ConfigCause α → Checked α
  | .ok x => accepted x
  | .error cause => refuse input cause

/-- A function of the result. -/
def map (f : α → β) : Checked α → Checked β
  | accepted x => accepted (f x)
  | refused ps => refused ps
  | undecided => undecided

/-- A function applied to a result; the problems of both are kept. -/
def apply : Checked (α → β) → Checked α → Checked β
  | accepted f, accepted x => accepted (f x)
  | refused ps, accepted _ => refused ps
  | accepted _, refused ps => refused ps
  | refused ps, refused more => refused (ps ++ more)
  | undecided, _ | _, undecided => undecided

/-- The result of a part, with its key in front of the places of its problems. -/
def under (key : Text) : Checked α → Checked α
  | refused ps => refused (ps.map (·.under key))
  | other => other

/-- The problems of a check in order. -/
def problems : Checked α → List ConfigProblem
  | refused ps => ps
  | _ => []

/-- The results of all parts of a list, the first of which has the given index. -/
def eachFrom (f : Json → Checked α) (index : Nat) : List Json → Checked (List α)
  | [] => accepted []
  | item :: items =>
    (((f item).under (Text.ofNat index)).map fun x xs => x :: xs).apply
      (eachFrom f (index + 1) items)

/-- The results of all parts of a list; places are counted from zero. -/
def each (f : Json → Checked α) (items : List Json) : Checked (List α) := eachFrom f 0 items

end Checked

/-- Why there is no configuration. -/
inductive ConfigFault where
  /-- A file or a value is refused. -/
  | refused (failure : Failure)
  /-- A file is not well formed. -/
  | unreadable (path : Text)
  /-- A word of a file has the form of a number or a day and denotes none. -/
  | meaninglessWord (reason : Text)
  /-- A variable of the environment for this section holds no data document. -/
  | unreadableVariable (section_ : Text)
  /-- A variable holds lists and maps that are nested too deeply, the innermost one a list or a
  map. -/
  | deepVariable (isList : Bool)
  /-- The name of a section is no text. -/
  | keyNotText
  /-- A path starts at the home of a user who is not known. -/
  | unknownHome

namespace ConfigFault

/-- The failure that a fault is reported as, if it is. -/
def failure? : ConfigFault → Option Failure
  | refused failure => some failure
  | unreadable path => some (.configUnparsable path "not a readable document")
  | _ => none

/-- The wording of a fault. -/
def message : ConfigFault → Text
  | refused failure => failure.message
  | unreadable path => "not a readable document: ".toList ++ path
  | meaninglessWord reason => reason
  | unreadableVariable section_ =>
    concat ["error parsing value for field \"", section_, "\" from source \"EnvSettingsSource\""]
  | deepVariable isList =>
    concat ["maximum recursion depth exceeded while decoding a JSON ",
      if isList then "array" else "object", " from a unicode string"]
  | keyNotText => "keywords must be strings"
  | unknownHome => "Could not determine home directory."

end ConfigFault

end SchemaDiagram
