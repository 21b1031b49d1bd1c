import SchemaDiagram.Text.Basic

/-! # Path names

A path is written with slashes. Repeated slashes, steps to the same place and a slash at the end do
not count; two slashes at the start are kept as they are. A tilde at the start stands for the home
of an account, and where the accounts have their homes is told from outside. -/

namespace SchemaDiagram

namespace Text

/-- The slashes at the start of a path that count. -/
def pathRoot : Text → Text
  | '/' :: '/' :: '/' :: _ => ['/']
  | '/' :: '/' :: _ => ['/', '/']
  | '/' :: _ => ['/']
  | _ => []

/-- The steps of a path. -/
def pathSteps (path : Text) : List Text := (splitOn '/' path).filter fun s => s != [] && s != ['.']

/-- The path without the parts that do not count; the empty path is the current place. -/
def normalPath (path : Text) : Text :=
  let shown := pathRoot path ++ join ['/'] (pathSteps path)
  if shown.isEmpty then ['.'] else shown

/-- Whether the path starts at the root. -/
def isAbsolutePath (path : Text) : Bool := !(pathRoot path).isEmpty

/-- The steps that a path within a folder takes from there, given those already taken backwards;
none for a path that leaves the folder. -/
def stepsWithin? (taken : List Text) : List Text → Option (List Text)
  | [] => some taken.reverse
  | step :: steps =>
    if step = ['.', '.'] then
      match taken with
      | [] => none
      | _ :: taken => stepsWithin? taken steps
    else stepsWithin? (step :: taken) steps

/-- A path within a folder without steps back; none for a path that leaves the folder. -/
def pathWithin? (path : Text) : Option Text :=
  if isAbsolutePath path then none
  else (stepsWithin? [] (pathSteps path)).map (join ['/'])

/-- The longest step of a path that a file system takes, in bytes. -/
def longestStep : Nat := 255

/-- A path below a folder. -/
def underFolder (folder path : Text) : Text := normalPath (concat [folder, ['/'], path])

/-- The home of an account by its name, and by the empty name that of whoever runs the program. -/
abbrev Homes := Text → Option Text

/-- The account that a path behind a tilde names, and the rest with its slash. -/
def homeOwner (path : Text) : Text × Text := path.span (· != '/')

/-- The path with the home of an account in place of the tilde and the name at its start; none where
the account has no home. -/
def expandHome? (homes : Homes) (path : Text) : Option Text :=
  match normalPath path with
  | '~' :: path =>
    let (owner, rest) := homeOwner path
    (homes owner).map fun home => pathRoot home ++ join ['/'] (pathSteps home ++ pathSteps rest)
  | path => some path

/-- The folder that a path lies in. -/
def folderOfPath (path : Text) : Text :=
  normalPath (pathRoot path ++ join ['/'] (pathSteps path).dropLast)

/-- The last step of a path. -/
def fileName (path : Text) : Text := ((pathSteps path).getLast?).getD []

/-- The extension of the last step of a path with its dot; a dot at the start or end of that step
starts no extension. -/
def fileExtension (path : Text) : Text :=
  match cutLast ['.'] (fileName path) with
  | some (stem, extension) => if stem.isEmpty || extension.isEmpty then [] else '.' :: extension
  | none => []

/-- The path with another extension, which is given with its dot. -/
def withExtension (path extension : Text) : Text :=
  let shown := normalPath path
  shown.take (shown.length - (fileExtension path).length) ++ extension

end Text

end SchemaDiagram
