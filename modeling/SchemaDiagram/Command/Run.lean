import SchemaDiagram.Command.Request
import SchemaDiagram.Config.Layers
import SchemaDiagram.Console.Summary
import SchemaDiagram.Edit.Commit
import SchemaDiagram.Logging.Record
import SchemaDiagram.Model.Export
import SchemaDiagram.Render.Svg

/-! # Running a command

A command reads files, says something on the console, answers on the standard output and writes
files. It stops early when it is used wrongly, when something is refused, or when something happens
that it has no words for; what it has said and written until then stays.

* **`Report`** — what a command says and writes.
* **`Run.request`** — what each request does.
* **`runCommand`** — the whole program for some words. -/

namespace SchemaDiagram

/-! ## What a command does -/

/-- The answer of a command. -/
inductive CommandAnswer where
  /-- Plain text. -/
  | text (s : Text)
  /-- A data document. -/
  | document (j : Json)
deriving Inhabited

/-- The answer as it is written. -/
def CommandAnswer.written : CommandAnswer → Text
  | text s => s
  | document j => j.indented ++ ['\n']

/-- A file to draw now and after every change. -/
structure WatchRequest where
  /-- The file. -/
  file : Text
  /-- The drawing. -/
  output : Text
  /-- The configuration. -/
  config : DiagramConfig

/-- Where events are logged. -/
structure LogSetup where
  /-- The outputs. -/
  outputs : List LogOutput
  /-- The least rank of the whole log. -/
  leastRank : Nat

/-- The log for a configuration; it is full where the command is asked to be verbose. -/
def LogSetup.ofConfig (config : LoggingConfig) (verbose : Bool) : LogSetup :=
  ⟨config.outputs, if verbose then LogLevel.debug.rank else config.level.rank⟩

/-- What a command says and writes. -/
structure Report where
  /-- What is said on the console. -/
  messages : Text
  /-- The answer. -/
  answer : CommandAnswer
  /-- The files that are written, with their bytes. -/
  writes : List (Text × List UInt8)
  /-- Where events are logged. -/
  logSetup : LogSetup
  /-- What is logged. -/
  log : List LogEvent
  /-- What remains to be watched. -/
  watch : Option WatchRequest

/-- Nothing has been said or written. -/
def Report.empty : Report := ⟨[], .text [], [], ⟨[], 0⟩, [], none⟩

/-- Why a command stops early. -/
inductive Stop where
  /-- It is used wrongly. -/
  | misused (spec : CommandSpec) (fault : UsageFault)
  /-- It has answered all that it was asked for. -/
  | answered
  /-- It refuses to go on. -/
  | refused (message : Text)
  /-- It has no words for what happened. -/
  | broken

/-- The exit code of a command that stops early. -/
def Stop.exitCode : Stop → Nat
  | answered => 0
  | refused _ | broken => 1
  | misused .. => 2

/-- What is said about an early stop. -/
def Stop.message : Stop → Text
  | answered | broken => []
  | refused message => concat ["Error: ", message, "\n"]
  | misused spec fault =>
    let usage : Text :=
      if fault.asksForUsage then
        concat [spec.usage, "\nTry '", spec.path, " --help' for help.\n\n"]
      else []
    concat [usage, "Error: ", fault.message, "\n"]

/-- A command under way. -/
abbrev Run := ExceptT Stop (StateM Report)

namespace Run

/-- Says something on the console. -/
def say (line : Except MarkupFault Text) : Run Unit :=
  match line with
  | .ok line => modify fun r => { r with messages := r.messages ++ line }
  | .error _ => throw .broken

/-- Logs events. -/
def note (events : List LogEvent) : Run Unit := modify fun r => { r with log := r.log ++ events }

/-- Gives the answer. -/
def answer (a : CommandAnswer) : Run Unit := modify fun r => { r with answer := a }

/-- The result of a calculation. -/
def calculated {α : Type} : Except NumberFault α → Run α
  | .ok x => pure x
  | .error _ => throw .broken

/-- Whether a file can be written: its folder has to be there, no folder may stand in its place,
and its name may not be too long. -/
def canWrite (files : FileView) (path : Text) : Bool :=
  files path ≠ .folder && files path.folderOfPath = .folder &&
    (encodeUtf8 path.fileName).length ≤ Text.longestStep

/-- Writes a file. -/
def writeFile (files : FileView) (path : Text) (bytes : List UInt8) : Run Unit :=
  if canWrite files path then
    modify fun r => { r with writes := r.writes ++ [(path, bytes)] }
  else throw .broken

/-- The event of a status. -/
def statusEvent (style : StatusStyle) (message : Text) : LogEvent :=
  ⟨.debug, "status", [("message", .text message), ("style", .text style.name)]⟩

/-- Says how something went. -/
def sayStatus (style : StatusStyle) (message : Text) : Run Unit := do
  say (statusLine style 0 message)
  note [statusEvent style message]

/-! ## Requests -/

/-- The text of a file with its format. -/
def readSource (files : FileView) (path : Text) : Run (Text × Text) :=
  match files path with
  | .file bytes =>
    match decodeUtf8 bytes with
    | .ok text => pure (text, formatOfPath path)
    | .error f => throw (.refused (concat ["Cannot read ", path, ": ", f.message]))
  | _ =>
    throw (.refused (concat ["Cannot read ", path, ": ", (DocumentFault.missing path).message]))

/-- Says what a schema holds. -/
def saySummary (fileName : Text) (s : Schema) : Run Unit := do
  say (printed (summaryHeading fileName s))
  if !s.tables.isEmpty then
    say (.ok ['\n'])
    let rows ← s.tables.mapM fun t => calculated (tableCells t)
    match rows.mapM (·.mapM shownText) with
    | .ok cells =>
      (tableLines tableAlignments (tableHeadings :: cells)).forM fun line =>
        say (.ok (line ++ ['\n']))
    | .error _ => throw .broken
  if !s.relationships.isEmpty then
    say (.ok ['\n'])
    s.relationships.forM fun r => say (printed (referenceSummary r))
  if !s.diagnostics.isEmpty then
    say (.ok ['\n'])
    s.diagnostics.forM fun d => say (printed (reportSummary d))

/-- Reads a file and summarizes it, or answers with its model. -/
def parse (files : FileView) (file : Text) (asJson : Bool) : Run Unit := do
  let (text, format) ← readSource files file
  match parseSchema text format with
  | .error f => throw (.refused f.message)
  | .ok schema =>
    if asJson then answer (.document schema.toJson) else saySummary file.fileName schema

/-- The display settings of a configuration with those of the command in their place. -/
def chosenDisplay (config : DiagramConfig) (lineStyle : Option LineStyle) (theme : Option Theme) :
    DisplaySettings :=
  { config.display with
    lineStyle := lineStyle.getD config.display.lineStyle
    theme := theme.getD config.display.theme }

/-- Draws a file. The drawing is written even if it shows an error only. -/
def render (config : DiagramConfig) (files : FileView) (file : Text) (output : Option Text)
    (lineStyle : Option LineStyle) (theme : Option Theme) : Run Unit := do
  let (text, format) ← readSource files file
  let announced := WorkDisplay.announced 0 ("Rendering ".toList ++ file.fileName)
  say (announced.lines.map fun lines => lines.getD [])
  let rendering := renderText config (chosenDisplay config lineStyle theme) none format text
  note rendering.log
  let scene := rendering.scene
  let svg ← calculated (svgText config.layout scene)
  let target := output.getD (file.withExtension ".svg")
  -- The drawing of an error is written as well.
  writeFile files target (encodeUtf8 svg)
  if let some message := scene.error then throw (.refused message)
  sayStatus .success (concat ["Wrote ", target, " (", counted scene.tables.length "table" none,
    ", ", counted scene.routing.paths.length "connection" none, ")"])

/-- Answers with the connections of a file. -/
def routes (config : DiagramConfig) (files : FileView) (file : Text)
    (lineStyle : Option LineStyle) : Run Unit := do
  let (text, format) ← readSource files file
  let rendering := renderText config (chosenDisplay config lineStyle none) none format text
  note rendering.log
  if let some message := rendering.scene.error then throw (.refused message)
  answer (.document (.object (← calculated rendering.scene.members)))

/-- The file at a path as a document. -/
def fileDocument (files : FileView) (path : Text) : FileDocument :=
  ⟨path, match files path with
    | .file bytes => some bytes
    | _ => none, true⟩

/-- Writes a change into a file. -/
def edit (files : FileView) (file : Text) (change : Change) : Run Unit := do
  let document := fileDocument files file
  let result := commit document change
  note result.log
  match result.outcome with
  | .error _ => throw .broken
  | .ok false => throw (.refused (concat ["Edit dropped: no writable ", change.kind.name, " '",
      change.identity.getD [], "' in ", file]))
  | .ok true =>
    if let some bytes := result.document.bytes then
      if document.bytes ≠ some bytes then writeFile files file bytes
    sayStatus .success (concat ["Updated ", change.kind.name, " ", change.identity.getD [], " in ",
      file.fileName])

/-- Begins to watch a file. -/
def watch (config : DiagramConfig) (file output : Text) : Run Unit := do
  sayStatus .info (concat ["Watching ", file, " (Ctrl-C to stop)"])
  modify fun r => { r with watch := some ⟨file, output, config⟩ }

/-- Does what is asked for. -/
def request (config : DiagramConfig) (files : FileView) : Request → Run Unit
  | .parse file asJson => parse files file asJson
  | .render file output lineStyle theme => render config files file output lineStyle theme
  | .routes file lineStyle => routes config files file lineStyle
  | .edit file change => edit files file change
  | .watch file output => watch config file output

end Run

/-- How a watched file went, for the console. -/
def watchStatus (file output : Text) (scene : Scene) : StatusStyle × Text :=
  match scene.error with
  | some message => (.error, concat [file.fileName, ": ", message])
  | none => (.success, concat ["Rendered ", file.fileName, " -> ", output.fileName])

/-! ## The program -/

/-- What a command can see. -/
structure Surroundings where
  /-- The files. -/
  files : FileView
  /-- The variables of the environment. -/
  environment : List (Text × Text)
  /-- The current folder. -/
  folder : Text
  /-- The configuration file of the user. -/
  userConfig : Text
  /-- The homes that paths may start at. -/
  homes : Text.Homes

/-- The version of the program. -/
def versionLine : Text := "dbd, version 0.1.0\n"

namespace Run

/-- Stops a command that is used wrongly. -/
def usedRightly {α : Type} (spec : CommandSpec) : Except UsageFault α → Run α
  | .ok x => pure x
  | .error .impossiblePath => throw .broken
  | .error fault => throw (.misused spec fault)

/-- Answers with the usage of a command and stops it. -/
def showUsage {α : Type} (spec : CommandSpec) : Run α := do
  answer (.text (spec.usage ++ ['\n']))
  throw .answered

/-- Reads the words of a command that leaves the work to further ones. -/
def readGroup (files : FileView) (spec : CommandSpec) (words : List Text) : Run Words := do
  if words.isEmpty then showUsage spec
  let found ← usedRightly spec (readWords spec.allOptions false none words)
  match found.given.find? fun g => g.1 = .help || g.1 = versionOption with
  | some (o, _) =>
    if o = versionOption then
      answer (.text versionLine)
      throw .answered
    else showUsage spec
  | none =>
    usedRightly spec (checkOptions files found.given)
    return found

/-- The next command with the words behind its name. Words that name no command are read as options
of the group first. -/
def nextCommand {α : Type} (files : FileView) (spec : CommandSpec) (commands : List (Text × α))
    (words : List Text) : Run (α × List Text) :=
  match words with
  | [] => throw (.misused spec .commandMissing)
  | name :: rest =>
    match commands.find? (·.1 = name) with
    | some (_, command) => pure (command, rest)
    | none => do
      -- What is wrong with an option is more telling than an unknown command.
      let _ ← readGroup files spec words
      throw (.misused spec (.unknownCommand name (similarWords name (commands.map (·.1)))))

/-- The contents of a file, if anything is there. -/
def fileText? (files : FileView) (path : Text) : Run (Option Text) :=
  match files path with
  | .file bytes =>
    match decodeUtf8 bytes with
    | .ok text => pure (some text)
    | .error _ => throw .broken
  | .folder => throw .broken
  | .missing => pure none

/-- The configuration for a folder. -/
def loadConfig (around : Surroundings) (folder : Text) : Run DiagramConfig := do
  let projectPath := folder.underFolder projectConfigPath
  let user ← fileText? around.files around.userConfig
  let project ← fileText? around.files projectPath
  let config : Except ConfigFault DiagramConfig := do
    let user ← textLayer around.userConfig user
    let project ← textLayer projectPath project
    ConfigSources.config ⟨user, project, around.environment, [], around.homes⟩
  match config with
  | .ok config => pure config
  | .error f => throw ((f.failure?.map fun f => .refused f.summary).getD .broken)

/-- Runs a command with its words. -/
def subcommand (config : DiagramConfig) (files : FileView) (command : Subcommand)
    (words : List Text) : Run Unit := do
  match ← usedRightly command.spec (command.spec.read files words) with
  | none => showUsage command.spec
  | some values => request config files (← usedRightly command.spec (command.request values))

/-- The whole program. -/
def program (around : Surroundings) (words : List Text) : Run Unit := do
  let root ← readGroup around.files rootSpec words
  let (command, rest) ← nextCommand around.files rootSpec rootCommands root.rest
  -- The configuration is read before the words of the subcommand.
  let folder := ((lastGiven root.given configRootOption).map Text.normalPath).getD around.folder
  let config ← loadConfig around folder
  let verbose := root.given.any (·.1 = verboseOption)
  modify fun r => { r with logSetup := .ofConfig config.logging verbose }
  match command with
  | .direct command => subcommand config around.files command rest
  | .group spec commands =>
    let group ← readGroup around.files spec rest
    let (command, rest) ← nextCommand around.files spec commands group.rest
    subcommand config around.files command rest

end Run

/-- How the program ends. -/
structure Outcome where
  /-- The exit code. -/
  exitCode : Nat
  /-- What it has said and written. -/
  report : Report

/-- The program for the words behind its name. -/
def runCommand (around : Surroundings) (words : List Text) : Outcome :=
  match (Run.program around words).run.run .empty with
  | (.ok _, report) => ⟨0, report⟩
  | (.error stop, report) =>
    ⟨stop.exitCode, { report with messages := report.messages ++ stop.message }⟩

end SchemaDiagram
