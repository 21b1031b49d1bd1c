import SchemaDiagram.Command.Run
import SchemaDiagram.Preview.Session

/-! # The program

Looks at the files that the words of the command line name, runs the command, and does what its
outcome says: prints, logs, writes files, and watches. -/

namespace SchemaDiagram

/-- What is found at a path. -/
def lookAt (path : String) : IO FileEntry := do
  try
    let found ← IO.FS.realPath path
    if ← found.isDir then return .folder
    let bytes ← IO.FS.readBinFile path
    return .file bytes.toList
  catch _ => return .missing

/-- The paths that some words may mean: each word, and what stands behind a short or long name in
it, with the drawings beside them, the folders around them and the configurations inside them. -/
def meantPaths (words : List Text) : List Text :=
  let named := words.flatMap fun word =>
    [word, word.drop 2, ((Text.cutFirst '=' word).map (·.2)).getD []]
  let paths := named ++ named.map Text.normalPath
  (paths ++ paths.map (Text.withExtension · ".svg") ++ paths.map Text.folderOfPath ++
    paths.map (Text.underFolder · projectConfigPath)).eraseDups

/-- The view of the files at some paths. -/
def lookAround (paths : List Text) : IO FileView := do
  let entries ← paths.mapM fun path => do return (path, ← lookAt (String.ofList path))
  return fun path => ((entries.find? (·.1 = path)).map (·.2)).getD .missing

/-- The variables of the environment that set the configuration. -/
def readVariables : IO (List (Text × Text)) :=
  DiagramConfig.variableNames.filterMapM fun name => do
    return (← IO.getEnv (String.ofList name)).map fun value => (name, value.toList)

/-- An account and its home in a line of the account file. -/
def accountOfLine (line : String) : Option (Text × Text) :=
  match line.splitOn ":" with
  | [name, _, _, _, _, home, _] => some (name.toList, home.toList)
  | _ => none

/-- The homes of the accounts of the system, and the given one of whoever runs the program. -/
def readHomes (own : Option Text) : IO Text.Homes := do
  let lines ← try IO.FS.lines "/etc/passwd" catch _ => pure #[]
  let accounts := lines.toList.filterMap accountOfLine
  return fun account =>
    if account.isEmpty then own else (accounts.find? (·.1 = account)).map (·.2)

/-- Writes the bytes of a file. -/
def writeBytes (path : Text) (bytes : List UInt8) : IO Unit :=
  IO.FS.writeBinFile (String.ofList path) (ByteArray.mk bytes.toArray)

/-- Writes a record to a destination of the log. -/
def writeRecord (d : LogDestination) (record : OrderedMap Json) : IO Unit := do
  let line := String.ofList (Json.compact (.object record))
  match d with
  | .stderr => IO.eprintln line
  | .stdout => IO.println line
  | .file path =>
    IO.FS.createDirAll (String.ofList path.folderOfPath)
    IO.FS.withFile (String.ofList path) .append fun h => h.putStrLn line

/-- Writes the log of a report. -/
def writeLog (r : Report) : IO Unit :=
  let book := r.log.foldl (fun book e => book.write false [] e)
    (LogBook.start r.logSetup.leastRank r.logSetup.outputs)
  book.written.forM fun (d, record) => writeRecord d record

/-- Draws a watched file once more. -/
def drawWatched (w : WatchRequest) (entry : FileEntry) : IO Unit := do
  let document := Run.fileDocument (fun _ => entry) w.file
  let session := (PreviewSession.start document (formatOfPath w.file) w.config).renderNow
  match session.scene with
  | none => return
  | some scene =>
    match svgText w.config.layout scene with
    | .ok svg => writeBytes w.output (encodeUtf8 svg)
    | .error f => throw (IO.userError f.message)
    let (style, message) := watchStatus w.file w.output scene
    match statusLine style 0 message with
    | .ok line => IO.eprint (String.ofList line)
    | .error f => throw (IO.userError (String.ofList f.message))

/-- Draws a file after every change, a quiet time after it. -/
partial def watchFrom (w : WatchRequest) (last : FileEntry) : IO Unit := do
  IO.sleep 50
  let now ← lookAt (String.ofList w.file)
  if now = last || now = .missing then watchFrom w last
  else
    IO.sleep (UInt32.ofNat w.config.preview.debounceTime)
    let settled ← lookAt (String.ofList w.file)
    drawWatched w settled
    watchFrom w settled

/-- Draws a file now and after every change. -/
def watchFile (w : WatchRequest) : IO Unit := do
  let first ← lookAt (String.ofList w.file)
  drawWatched w first
  watchFrom w first

/-- Runs the program with the words behind its name. -/
def runProgram (words : List Text) : IO UInt32 := do
  let folder := (← IO.currentDir).toString.toList
  let home := (← IO.getEnv "HOME").map String.toList
  let userConfig := Text.underFolder (home.getD []) ".config/dbdiagram/config.yaml"
  let files ← lookAround (meantPaths (folder :: words) ++ [".".toList, userConfig])
  let outcome := runCommand ⟨files, ← readVariables, folder, userConfig, ← readHomes home⟩ words
  let report := outcome.report
  writeLog report
  report.writes.forM fun (path, bytes) => writeBytes path bytes
  IO.eprint (String.ofList report.messages)
  IO.print (String.ofList report.answer.written)
  if let some w := report.watch then watchFile w
  return UInt32.ofNat outcome.exitCode

end SchemaDiagram

/-- The command line. -/
def main (words : List String) : IO UInt32 := SchemaDiagram.runProgram (words.map String.toList)
