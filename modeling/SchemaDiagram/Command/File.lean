import SchemaDiagram.Text.PathName

/-! # The files that a command sees

A command is run against a view of the files: what is found at each path. What it writes is part of
its outcome.

* **`FileView`** — the view.
* **`FileView.ofFiles`** — the view of a folder with some files. Outside it only the folders are
  known that it lies in. -/

namespace SchemaDiagram

/-- What is found at a path. -/
inductive FileEntry where
  /-- Nothing. -/
  | missing
  /-- A folder. -/
  | folder
  /-- A file with its bytes. -/
  | file (bytes : List UInt8)
deriving DecidableEq

/-- What is found at each path. -/
abbrev FileView := Text → FileEntry

namespace FileView

/-- What is found behind some steps into a folder that holds the given files; of two files at one
place the later one. -/
def entryAt (files : List (Text × List UInt8)) (steps : List Text) : FileEntry :=
  if steps.isEmpty then .folder
  else match files.reverse.find? (fun f => f.1.pathSteps = steps) with
    | some (_, bytes) => .file bytes
    | none =>
      if files.any fun f => steps.isPrefixOf f.1.pathSteps then .folder else .missing

/-- Whether a step leads to no other folder than the current one or the one around it. -/
def isDotted (step : Text) : Bool := step = [] || step = ['.'] || step = ['.', '.']

/-- What is found behind some steps outside the folder. -/
def entryOutside (steps : List Text) : FileEntry :=
  if steps.all isDotted then .folder else .missing

/-- What is found by walking from one place of the folder to another one; only a folder can be
walked through. -/
def walk (files : List (Text × List UInt8)) (place : List Text) : List Text → FileEntry
  | [] => entryAt files place
  | step :: steps =>
    match entryAt files place with
    | .folder =>
      if step = ['.', '.'] then
        if place.isEmpty then entryOutside steps else walk files place.dropLast steps
      else if isDotted step then walk files place steps
      else walk files (place ++ [step]) steps
    | _ => .missing

/-- The view of a folder that holds the given files. -/
def ofFiles (files : List (Text × List UInt8)) : FileView := fun path =>
  if path.isEmpty then .missing
  else if path.isAbsolutePath then entryOutside path.pathSteps
  else walk files [] (Text.splitOn '/' path)

/-- There is nothing at the empty path. -/
@[simp] theorem ofFiles_nil (files : List (Text × List UInt8)) : ofFiles files [] = .missing := rfl

end FileView

end SchemaDiagram
