import SchemaDiagram.Command.File
import SchemaDiagram.Number.Numeral
import SchemaDiagram.Model.Display
import SchemaDiagram.Text.Quoted
import SchemaDiagram.Text.Similar

/-! # Arguments of a command

A command has options and arguments. An option is given by its long name, with a value behind an
equals sign or as the next word, or by its short name, with the value behind it or as the next
word; short flags may share a dash. After a lone `--` every word is an argument.

Values are checked in this order: the options that are given, in the order of their first mention;
the arguments; the options that are missing.

* **`CommandSpec`** — what a command takes, with its line of usage.
* **`readWords`** — tells options from arguments.
* **`CommandSpec.read`** — the checked values, or what is wrong with them first. -/

namespace SchemaDiagram

/-! ## What a command takes -/

/-- What a value has to be. -/
inductive ValueRule where
  /-- Any text. -/
  | any
  /-- A number. -/
  | number
  /-- A file that exists. -/
  | file
  /-- A folder that exists. -/
  | folder
  /-- A file that may be written. -/
  | target
  /-- A line style. -/
  | lineStyle
  /-- One of some words. -/
  | oneOf (words : List Text)
deriving DecidableEq, Repr

/-- An option. -/
structure OptionSpec where
  /-- Its names with their dashes. -/
  names : List Text
  /-- What its value has to be; a flag has none. -/
  rule : Option ValueRule
  /-- Whether it has to be given. -/
  required : Bool
deriving DecidableEq, Repr

namespace OptionSpec

/-- A flag. -/
def flag (names : List Text) : OptionSpec := ⟨names, none, false⟩

/-- An option with a value that may be left out. -/
def optional (names : List Text) (rule : ValueRule) : OptionSpec := ⟨names, some rule, false⟩

/-- An option with a value that has to be given. -/
def needed (names : List Text) (rule : ValueRule) : OptionSpec := ⟨names, some rule, true⟩

/-- Asks for the usage of a command. -/
def help : OptionSpec := flag ["--help"]

/-- Whether it has the given name. -/
def hasName (o : OptionSpec) (name : Text) : Bool := o.names.contains name

end OptionSpec

/-- An argument. -/
structure ArgumentSpec where
  /-- Its name in the line of usage. -/
  label : Text
  /-- What it has to be. -/
  rule : ValueRule
  /-- Whether all further words belong to it. -/
  repeated : Bool
deriving DecidableEq, Repr

/-- The name of an argument in messages. -/
def ArgumentSpec.shown (a : ArgumentSpec) : Text :=
  if a.repeated then a.label ++ "...".toList else a.label

/-- What a command takes. -/
structure CommandSpec where
  /-- The words that name the command. -/
  path : Text
  /-- Its options. -/
  options : List OptionSpec
  /-- Its arguments. -/
  arguments : List ArgumentSpec
deriving DecidableEq, Repr

/-- The options with the one that asks for help. -/
def CommandSpec.allOptions (c : CommandSpec) : List OptionSpec := c.options ++ [.help]

/-! ## What can be wrong -/

/-- What is wrong with the arguments of a command. -/
inductive UsageFault where
  /-- There is no option of this name. -/
  | unknownOption (name : Text) (similar : List Text)
  /-- The option needs a value. -/
  | valueMissing (name : Text)
  /-- The option is a flag. -/
  | valueNotTaken (name : Text)
  /-- The option has to be given. -/
  | optionMissing (names : List Text)
  /-- The argument has to be given. -/
  | argumentMissing (label : Text)
  /-- A value is not what it has to be; `owner` is how its option or argument is shown. -/
  | invalidValue (owner : Text) (reason : Text)
  /-- A value is no path at all, since it holds a null character. -/
  | impossiblePath
  /-- There are more words than arguments. -/
  | extraWords (words : List Text)
  /-- There is no command of this name. -/
  | unknownCommand (name : Text) (similar : List Text)
  /-- No command is given. -/
  | commandMissing
deriving DecidableEq, Repr

/-- Names between single quotes with slashes between them. -/
def quotedNames (names : List Text) : Text :=
  Text.join " / " (names.map fun name => concat ["'", name, "'"])

/-- Asks whether one of some similar names was meant. -/
def suggestion : List Text → Text
  | [] => []
  | [one] => concat [" Did you mean ", one.quoted, "?"]
  | several => concat [" (Did you mean one of: ", Text.join ", " (several.map Text.quoted), "?)"]

/-- The wording of a fault. -/
def UsageFault.message : UsageFault → Text
  | unknownOption name similar =>
    concat ["No such option ", name.quoted, ".", suggestion similar]
  | valueMissing name => concat ["Option ", name.quoted, " requires an argument."]
  | valueNotTaken name => concat ["Option ", name.quoted, " does not take a value."]
  | optionMissing names => concat ["Missing option ", quotedNames names, "."]
  | argumentMissing label => concat ["Missing argument '", label, "'."]
  | invalidValue owner reason => concat ["Invalid value for ", owner, ": ", reason]
  | impossiblePath => "embedded null byte"
  | extraWords [word] => concat ["Got unexpected extra argument (", word, ")"]
  | extraWords words => concat ["Got unexpected extra arguments (", Text.join " " words, ")"]
  | unknownCommand name similar =>
    concat ["No such command ", name.quoted, ".", suggestion similar]
  | commandMissing => "Missing command."

/-- Whether the line of usage helps with a fault: it does not tell which options take a value. -/
def UsageFault.asksForUsage : UsageFault → Bool
  | valueMissing _ | valueNotTaken _ => false
  | _ => true

/-! ## Telling options from arguments -/

/-- An option that is given, with its value; that of a flag is empty. -/
abbrev GivenOption := OptionSpec × Text

/-- The words of a command, told apart. -/
structure Words where
  /-- The options in the order in which they are given. -/
  given : List GivenOption
  /-- The other words. -/
  rest : List Text

/-- What a word says: options with their values, and perhaps an option, under the name that was
used, whose value is the next word. -/
structure OptionWord where
  /-- The options that are complete. -/
  given : List GivenOption
  /-- The option that waits for its value. -/
  waiting : Option (OptionSpec × Text)

/-- Whether a name is that of a long option. -/
def isLongName (name : Text) : Bool := "--".toList.isPrefixOf name

/-- Reads short options behind a dash. -/
def readShort (options : List OptionSpec) : Text → Except UsageFault OptionWord
  | [] => .ok ⟨[], none⟩
  | c :: rest =>
    let name : Text := ['-', c]
    match options.find? (·.hasName name) with
    | none => .error (.unknownOption name [])
    | some o =>
      if o.rule.isNone then
        (readShort options rest).map fun w => { w with given := (o, []) :: w.given }
      -- What stands behind an option with a value is that value, not further flags.
      else if rest.isEmpty then .ok ⟨[], some (o, name)⟩
      else .ok ⟨[(o, rest)], none⟩

/-- Reads a word that starts with a dash. -/
def readOption (options : List OptionSpec) (word : Text) : Except UsageFault OptionWord :=
  let (name, value) := match Text.cutFirst '=' word with
    | some (name, value) => (name, some value)
    | none => (word, none)
  match if isLongName name then options.find? (·.hasName name) else none with
  | some o =>
    match o.rule, value with
    | none, none => .ok ⟨[(o, [])], none⟩
    | none, some _ => .error (.valueNotTaken name)
    | some _, some value => .ok ⟨[(o, value)], none⟩
    | some _, none => .ok ⟨[], some (o, name)⟩
  | none =>
    if isLongName word then
      let known := (options.flatMap (·.names)).filter isLongName
      .error (.unknownOption name (similarWords name known))
    else readShort options (word.drop 1)

/-- Whether a word can be an option. -/
def isOptionWord : Text → Bool
  | '-' :: _ :: _ => true
  | _ => false

/-- Tells options from arguments. Options may stand behind arguments if they are `mixed` with them.
An option that waits for its value takes the next word, whatever it is. -/
def readWords (options : List OptionSpec) (mixed : Bool) (waiting : Option (OptionSpec × Text)) :
    List Text → Except UsageFault Words
  | [] =>
    match waiting with
    -- The words have ended before the value came.
    | some (_, name) => .error (.valueMissing name)
    | none => .ok ⟨[], []⟩
  | word :: words =>
    match waiting with
    | some (o, _) => do
      let after ← readWords options mixed none words
      return { after with given := (o, word) :: after.given }
    | none =>
      if word = "--".toList then .ok ⟨[], words⟩
      else if isOptionWord word then do
        let found ← readOption options word
        let after ← readWords options mixed found.waiting words
        return { after with given := found.given ++ after.given }
      else if mixed then do
        let after ← readWords options mixed none words
        return { after with rest := word :: after.rest }
      else .ok ⟨[], word :: words⟩

/-! ## Checking values -/

/-- What is wrong with a value, if anything is. -/
def ValueRule.problem? (rule : ValueRule) (files : FileView) (value : Text) : Option Text :=
  match rule with
  | .any => none
  | .number =>
    if (readFloat? value).isSome then none
    else some (value.quoted ++ " is not a valid float.".toList)
  | .file =>
    match files value with
    | .missing => some (concat ["File ", value.quoted, " does not exist."])
    | .folder => some (concat ["File ", value.quoted, " is a directory."])
    | .file _ => none
  | .folder =>
    match files value with
    | .missing => some (concat ["Directory ", value.quoted, " does not exist."])
    | .file _ => some (concat ["Directory ", value.quoted, " is a file."])
    | .folder => none
  | .target =>
    match files value with
    | .folder => some (concat ["File ", value.quoted, " is a directory."])
    | _ => none
  | .lineStyle =>
    if (LineStyle.ofName? value).isSome then none
    else some (concat ["'", value, "' is not one of ",
      Text.join ", " (LineStyle.all.map fun style => style.name.toList)])
  | .oneOf words =>
    if words.contains value then none
    else some (concat [value.quoted, " is not one of ",
      Text.join ", " (words.map Text.quoted), "."])

/-- Whether a value has to be a path. -/
def ValueRule.isPath : ValueRule → Bool
  | file | folder | target => true
  | _ => false

/-- Accepts a value or says what is wrong with it. -/
def ValueRule.check (rule : ValueRule) (files : FileView) (owner value : Text) :
    Except UsageFault Unit :=
  if rule.isPath && value.contains '\x00' then .error .impossiblePath
  else match rule.problem? files value with
    | some reason => .error (.invalidValue owner reason)
    | none => .ok ()

/-- The value of an option that is given several times is the last one. -/
def lastGiven (given : List GivenOption) (o : OptionSpec) : Option Text :=
  (given.reverse.find? (·.1 = o)).map (·.2)

/-- The checked values of a command. -/
structure CommandValues where
  /-- The options that are given. -/
  given : List GivenOption
  /-- The arguments. -/
  arguments : List Text

namespace CommandValues

/-- The value of the option of a name. -/
def text? (v : CommandValues) (name : Text) : Option Text :=
  (v.given.reverse.find? (·.1.hasName name)).map (·.2)

/-- Whether the option of a name is given. -/
def has (v : CommandValues) (name : Text) : Bool := (v.text? name).isSome

/-- The number that is given under a name. -/
def number? (v : CommandValues) (name : Text) : Option Float := (v.text? name).bind readFloat?

end CommandValues

/-- Checks the options that are given, by their last value, in the order of their first mention. -/
def checkOptions (files : FileView) (given : List GivenOption) : Except UsageFault Unit :=
  (given.map (·.1)).eraseDups.forM fun o =>
    match o.rule, lastGiven given o with
    | some rule, some value => rule.check files (quotedNames o.names) value
    | _, _ => .ok ()

/-- Checks the arguments one after another; the words that are left over come back. -/
def checkArguments (files : FileView) :
    List ArgumentSpec → List Text → Except UsageFault (List Text)
  | [], words => .ok words
  | a :: arguments, words =>
    let (own, others) := if a.repeated then (words, []) else (words.take 1, words.drop 1)
    if own.isEmpty then .error (.argumentMissing a.shown)
    else do
      own.forM fun word => a.rule.check files (concat ["'", a.shown, "'"]) word
      checkArguments files arguments others

/-- Refuses a command without one of its options. -/
def checkMissing (options : List OptionSpec) (given : List GivenOption) : Except UsageFault Unit :=
  match options.find? fun o => o.required && !given.any (·.1 = o) with
  | some o => .error (.optionMissing o.names)
  | none => .ok ()

namespace CommandSpec

/-- Whether a command is asked for its usage only. -/
def asksHelp (given : List GivenOption) : Bool := given.any (·.1 = .help)

/-- The values of the words of a command; none where it is asked for its usage only. -/
def read (c : CommandSpec) (files : FileView) (words : List Text) :
    Except UsageFault (Option CommandValues) := do
  let found ← readWords c.allOptions true none words
  if asksHelp found.given then return none
  -- A bad value is reported before a missing one.
  checkOptions files found.given
  let extra ← checkArguments files c.arguments found.rest
  checkMissing c.options found.given
  if !extra.isEmpty then throw (.extraWords extra)
  return some ⟨found.given, found.rest⟩

/-- The line of usage. -/
def usage (c : CommandSpec) : Text :=
  concat ["Usage: ", c.path, " [OPTIONS]", c.arguments.flatMap fun a => ' ' :: a.shown]

end CommandSpec

end SchemaDiagram
