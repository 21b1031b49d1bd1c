import SchemaDiagram.Model.Project
import SchemaDiagram.Number.Decimal
import SchemaDiagram.Number.Numeral
import SchemaDiagram.Text.WordChar

/-! # Changes and the values they write

A change names an entity and the settings it is to have. Values are written the way a person would
type them: a whole number without a point, a plain word without quotes, every other text between
single quotes. -/

namespace SchemaDiagram

/-- What a change is made to. -/
inductive EntityKind where
  | table
  | note
  | project
deriving DecidableEq, Repr

/-- The name of a kind. -/
def EntityKind.name : EntityKind → String
  | table => "table"
  | note => "note"
  | project => "project"

/-- Settings to write into the source. -/
structure Change where
  /-- What the entity is. -/
  kind : EntityKind
  /-- The name of the entity as the source spells it; for a project, the name of a block that has
  to be made. -/
  identity : Option Text
  /-- The settings in the order in which new ones are written. -/
  values : OrderedMap Scalar

namespace Change

/-- Moves a table, and sets its width where one is given. -/
def moveTable (name : Text) (x y : Scalar) (width : Option Scalar) : Change :=
  ⟨.table, some name, ("x", x) :: ("y", y) :: (width.map fun w => ("width".toList, w)).toList⟩

/-- Moves a sticky note and sets its size. -/
def moveNote (name : Text) (x y width height : Scalar) : Change :=
  ⟨.note, some name, [("x", x), ("y", y), ("width", width), ("height", height)]⟩

/-- Sets project settings. -/
def setProject (values : OrderedMap Scalar) (name : Option Text) : Change :=
  ⟨.project, name, values⟩

end Change

/-- Whether the character may stand in a text without quotes. -/
def isPlainChar (c : Char) : Bool := isWordChar c || c = '#' || c = '.' || c = '-'

/-- Whether the text is written without quotes. -/
def isPlain (s : Text) : Bool := s != [] && s.all isPlainChar

/-- A text between single quotes, with a backslash before each backslash and single quote. -/
def quoteValue (s : Text) : Text :=
  '\x27' :: s.flatMap (fun c => if c = '\\' ∨ c = '\x27' then ['\\', c] else [c]) ++ ['\x27']

/-- The written form of a value. -/
def formatValue : Scalar → Text
  | .bool b => if b then "true" else "false"
  | .int n => Text.ofInt n
  | .float x =>
    match exactInt? x with
    | some n => Text.ofInt n
    | none => Text.dropTail '.' (Text.dropTail '0' (shortestText x))
  | .text s => if isPlain s then s else quoteValue s

/-- Whether a value has a written form: a whole number has one up to the longest that is read. -/
def Scalar.hasWrittenForm : Scalar → Bool
  | .int n => n.natAbs < Nat.pow 10 longestInt
  | _ => true

/-- The wording of a value that has no written form. -/
def unwritableMessage : Text :=
  concat ["Exceeds the limit (", Text.ofNat longestInt,
    " digits) for integer str conversion; use sys.set_int_max_str_digits() to increase the limit"]

end SchemaDiagram
