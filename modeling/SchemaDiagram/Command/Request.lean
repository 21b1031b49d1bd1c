import SchemaDiagram.Command.Argument
import SchemaDiagram.Edit.Change

/-! # Requests

What a command is asked to do, once its words have been read and checked.

* **`Request`** — what is asked for.
* **`Subcommand`** — a command with the request that its values make.
* **`rootSpec`**, **`rootCommands`** — the program and its commands. -/

namespace SchemaDiagram

/-- What a command is asked to do. -/
inductive Request where
  /-- Read a file and summarize it, or write its model. -/
  | parse (file : Text) (asJson : Bool)
  /-- Draw a file. -/
  | render (file : Text) (output : Option Text) (lineStyle : Option LineStyle)
    (theme : Option Theme)
  /-- Route the connections of a file. -/
  | routes (file : Text) (lineStyle : Option LineStyle)
  /-- Write a change into a file. -/
  | edit (file : Text) (change : Change)
  /-- Draw a file now and after every change. -/
  | watch (file output : Text)

/-- A command and the request that it makes. -/
structure Subcommand where
  /-- Its name. -/
  name : Text
  /-- What it takes. -/
  spec : CommandSpec
  /-- The request that its values make. -/
  request : CommandValues → Except UsageFault Request

/-! ## Values -/

namespace CommandValues

/-- An argument by its place. -/
def argument (v : CommandValues) (n : Nat) : Text := (v.arguments[n]?).getD []

/-- The file that a command is about. -/
def file (v : CommandValues) : Text := (v.argument 0).normalPath

/-- A path that is given under a name. -/
def path? (v : CommandValues) (name : Text) : Option Text := (v.text? name).map Text.normalPath

/-- A number that has to be given under a name. -/
def number (v : CommandValues) (name : Text) : Scalar := .float ((v.number? name).getD 0)

/-- The line style. -/
def lineStyle? (v : CommandValues) : Option LineStyle :=
  (v.text? "--line-style").bind LineStyle.ofName?

/-- The color theme. -/
def theme? (v : CommandValues) : Option Theme :=
  (v.text? "--theme").bind fun s => Theme.all.find? fun t => t.name.toList = s

end CommandValues

/-- The value that a person means: a truth value, a whole number, another number, else a text. -/
def scalarOfWord (word : Text) : Scalar :=
  let lowered := word.lower
  if lowered = "true".toList then .bool true
  else if lowered = "false".toList then .bool false
  else match readInt? word with
    | some n => .int n
    | none => (readFloat? word).elim (.text word) .float

/-- A setting with its value, written with an equals sign between them. -/
def assignment (word : Text) : Except UsageFault (Text × Scalar) :=
  match Text.cutFirst '=' word with
  | some (key, value) =>
    if key.trim.isEmpty then refused else .ok (key.trim, scalarOfWord value.trim)
  | none => refused
where
  /-- The word is no assignment. -/
  refused : Except UsageFault (Text × Scalar) :=
    .error (.invalidValue "ASSIGNMENTS" (concat ["expected KEY=VALUE, got '", word, "'"]))

/-! ## Commands -/

/-- The name under which the program is run. -/
def programName : Text := "cli"

/-- A file to read. -/
def fileArgument : ArgumentSpec := ⟨"FILE", .file, false⟩

/-- The name of an entity. -/
def nameArgument : ArgumentSpec := ⟨"NAME", .any, false⟩

/-- The style of the connections. -/
def lineStyleOption : OptionSpec := .optional ["--line-style"] .lineStyle

/-- The command that reads a file. -/
def parseCommand : Subcommand where
  name := "parse"
  spec := ⟨"cli parse", [.flag ["--json"]], [fileArgument]⟩
  request v := .ok (.parse v.file (v.has "--json"))

/-- The command that draws a file. -/
def renderCommand : Subcommand where
  name := "render"
  spec := ⟨"cli render", [.optional ["-o", "--output"] .target, lineStyleOption,
    .optional ["--theme"] (.oneOf (Theme.all.map fun t => t.name.toList))], [fileArgument]⟩
  request v := .ok (.render v.file (v.path? "--output") v.lineStyle? v.theme?)

/-- The command that routes the connections of a file. -/
def routesCommand : Subcommand where
  name := "routes"
  spec := ⟨"cli routes", [lineStyleOption], [fileArgument]⟩
  request v := .ok (.routes v.file v.lineStyle?)

/-- The command that draws a file after every change. -/
def watchCommand : Subcommand where
  name := "watch"
  spec := ⟨"cli watch", [.needed ["-o", "--output"] .target], [fileArgument]⟩
  request v := .ok (.watch v.file ((v.path? "--output").getD []))

/-- The command that moves a table. -/
def patchTableCommand : Subcommand where
  name := "table"
  spec := ⟨"cli patch table", [.needed ["--x"] .number, .needed ["--y"] .number,
    .optional ["--width"] .number], [fileArgument, nameArgument]⟩
  request v := .ok (.edit v.file (.moveTable (v.argument 1) (v.number "--x") (v.number "--y")
    ((v.number? "--width").map .float)))

/-- The command that moves a sticky note. -/
def patchNoteCommand : Subcommand where
  name := "note"
  spec := ⟨"cli patch note", [.needed ["--x"] .number, .needed ["--y"] .number,
    .needed ["--width"] .number, .needed ["--height"] .number], [fileArgument, nameArgument]⟩
  request v := .ok (.edit v.file (.moveNote (v.argument 1) (v.number "--x") (v.number "--y")
    (v.number "--width") (v.number "--height")))

/-- The command that sets project settings. -/
def patchProjectCommand : Subcommand where
  name := "project"
  spec := ⟨"cli patch project", [.optional ["--name"] .any],
    [fileArgument, ⟨"ASSIGNMENTS", .any, true⟩]⟩
  request v := do
    let values ← (v.arguments.drop 1).mapM assignment
    return .edit v.file (.setProject (.ofList values) (v.text? "--name"))

/-- The arguments of a command that leaves the work to further ones. -/
def groupArguments : List ArgumentSpec := [⟨"COMMAND", .any, false⟩, ⟨"[ARGS]", .any, true⟩]

/-- The commands that write a change. -/
def patchSpec : CommandSpec := ⟨"cli patch", [], groupArguments⟩

/-- Commands by their names. -/
def named (commands : List Subcommand) : List (Text × Subcommand) :=
  commands.map fun c => (c.name, c)

/-- Asks for the version. -/
def versionOption : OptionSpec := .flag ["--version"]

/-- Asks for a full log. -/
def verboseOption : OptionSpec := .flag ["-v", "--verbose"]

/-- The folder with the configuration. -/
def configRootOption : OptionSpec := .optional ["--config-root"] .folder

/-- The program itself. -/
def rootSpec : CommandSpec :=
  ⟨programName, [versionOption, verboseOption, configRootOption], groupArguments⟩

/-- A command of the program. -/
inductive RootCommand where
  /-- It does its work itself. -/
  | direct (command : Subcommand)
  /-- It leaves the work to further commands. -/
  | group (spec : CommandSpec) (commands : List (Text × Subcommand))

/-- The commands that do their work themselves. -/
def directCommands : List Subcommand := [parseCommand, renderCommand, routesCommand, watchCommand]

/-- The commands that write a change, together. -/
def patchGroup : RootCommand :=
  .group patchSpec (named [patchTableCommand, patchNoteCommand, patchProjectCommand])

/-- The commands of the program by their names. -/
def rootCommands : List (Text × RootCommand) :=
  ("patch", patchGroup) :: directCommands.map fun c => (c.name, .direct c)

end SchemaDiagram
