import SchemaDiagram.Edit.Plan
import SchemaDiagram.Logging.Event
import SchemaDiagram.Text.PathName
import SchemaDiagram.Text.Utf8

/-! # Committing a change

A document can be read, says whether it takes edits, and replaces a range of its text. A change is
committed as a single splice; what cannot be committed is logged and dropped.

* **`TextDocument`** — a text in memory that counts its revisions.
* **`FileDocument`** — a UTF-8 file; every edit reads it anew and replaces it as a whole.
* **`commit`** — writes a change into a document. -/

namespace SchemaDiagram

/-- Why a document could not be read or written. -/
inductive DocumentFault where
  /-- The edit is refused. -/
  | refused (f : Failure)
  /-- The file does not exist. -/
  | missing (path : Text)
  /-- Reading or writing failed. -/
  | device (reason : Text)
  /-- The file is no UTF-8 text. -/
  | undecodable (f : Utf8Fault)

/-- The wording of a fault of the device. -/
def DocumentFault.message : DocumentFault → Text
  | refused f => f.message
  | missing path => "[Errno 2] No such file or directory: ".toList ++ path.quoted
  | device reason => reason
  | undecodable f => f.message

/-- A document that changes can be committed to. -/
class Document (D : Type) where
  /-- The text of the document. -/
  read : D → Except DocumentFault Text
  /-- Whether the document takes edits. -/
  isWritable : D → Bool
  /-- The document with a range of its text replaced. -/
  replaceRange : D → (start stop : Int) → Text → Except DocumentFault D

/-- The text with a range replaced; a range that is not within the text is refused. -/
def replaceChecked (source : Text) (start stop : Int) (text : Text) : Except DocumentFault Text :=
  if 0 ≤ start ∧ start ≤ stop ∧ stop ≤ source.length then
    .ok (Splice.apply ⟨start, stop, text⟩ source)
  else
    .error (.refused (.invalidEdit "range out of bounds"
      [("start", .int start), ("end", .int stop), ("length", .int source.length)]))

/-- A text in memory. -/
structure TextDocument where
  /-- The text. -/
  text : Text
  /-- Whether the document takes edits. -/
  writable : Bool
  /-- How many replacements have been made. -/
  revision : Nat
  /-- Why every replacement fails, if it does. -/
  brokenDevice : Option Text

namespace TextDocument

/-- Replaces a range of the text. -/
def replaceRange (d : TextDocument) (start stop : Int) (text : Text) :
    Except DocumentFault TextDocument :=
  match d.brokenDevice with
  | some reason => .error (.device reason)
  | none =>
    if d.writable then
      (replaceChecked d.text start stop text).map fun text =>
        { d with text, revision := d.revision + 1 }
    else .error (.refused (.notWritable "document is read-only"))

instance : Document TextDocument where
  read d := .ok d.text
  isWritable d := d.writable
  replaceRange := replaceRange

end TextDocument

/-- A file. -/
structure FileDocument where
  /-- The path of the file. -/
  path : Text
  /-- The bytes of the file; none where it does not exist. -/
  bytes : Option (List UInt8)
  /-- Whether the file may be written. -/
  permitted : Bool

namespace FileDocument

/-- The text of the file. -/
def read (d : FileDocument) : Except DocumentFault Text :=
  match d.bytes with
  | none => .error (.missing d.path)
  | some bytes => (decodeUtf8 bytes).mapError .undecodable

/-- Whether the file exists and may be written. -/
def isWritable (d : FileDocument) : Bool := d.bytes.isSome && d.permitted

/-- How many bytes the name of the copy that takes the place of a file is longer than the name of
the file. -/
def copyNameExcess : Nat := 14

/-- Whether a file can be replaced: the copy that takes its place stands beside it first, under a
longer name. -/
def isReplaceable (d : FileDocument) : Bool :=
  (encodeUtf8 d.path.fileName).length + copyNameExcess ≤ Text.longestStep

/-- Replaces a range of the text. -/
def replaceRange (d : FileDocument) (start stop : Int) (text : Text) :
    Except DocumentFault FileDocument :=
  if d.isWritable then do
    let source ← d.read
    let changed ← replaceChecked source start stop text
    if d.isReplaceable then return { d with bytes := some (encodeUtf8 changed) }
    else throw (.device "[Errno 36] File name too long".toList)
  else .error (.refused (.notWritable (d.path ++ " is missing or read-only".toList)))

instance : Document FileDocument where
  read := read
  isWritable := isWritable
  replaceRange := replaceRange

end FileDocument

/-- What keeps a commit from an answer. -/
inductive CommitFault where
  /-- The file is no UTF-8 text. -/
  | undecodable (f : Utf8Fault)
  /-- A value has no written form. -/
  | unwritableValue

/-- What a commit did. -/
structure CommitResult (D : Type) where
  /-- The document afterwards. -/
  document : D
  /-- Whether the change has been written. -/
  outcome : Except CommitFault Bool
  /-- What is logged. -/
  log : List LogEvent

/-- The event of a change that is not written. -/
def droppedEvent (reason : Text) (change : Change) (more : List (Text × Json)) : LogEvent :=
  ⟨.warning, "patch_dropped",
    ("reason", .text reason) :: ("kind", .text change.kind.name) :: more⟩

/-- The event of a change that is not written because of a fault. -/
def faultEvent (fault : DocumentFault) (change : Change) : LogEvent :=
  let identity : Text × Json := ("identity", Json.ofText? change.identity)
  match fault with
  | .refused f => droppedEvent f.code.name change [identity, ("message", .text f.message)]
  | fault => droppedEvent "io_error" change [identity, ("error", .text fault.message)]

/-- The event of a change that has been written. -/
def appliedEvent (change : Change) (splice : Splice) : LogEvent :=
  ⟨.debug, "patch_applied", [("kind", .text change.kind.name),
    ("identity", Json.ofText? change.identity), ("start", .int splice.start),
    ("end", .int splice.stop)]⟩

section

variable {D : Type} [Document D]

/-- A commit that a fault ends. -/
def CommitResult.ofFault (document : D) (change : Change) : DocumentFault → CommitResult D
  | .undecodable f => ⟨document, .error (.undecodable f), []⟩
  | fault => ⟨document, .ok false, [faultEvent fault change]⟩

/-- Writes a change into a document as a single splice. -/
def commit (document : D) (change : Change) : CommitResult D :=
  if !Document.isWritable document then
    ⟨document, .ok false, [droppedEvent "not_writable" change []]⟩
  else match Document.read document with
    | .error fault => .ofFault document change fault
    | .ok text =>
      match plan text change with
      | .error .unwritableValue => ⟨document, .error .unwritableValue, []⟩
      | .error (.failure f) => .ofFault document change (.refused f)
      | .ok splice =>
        -- Nothing would change, so nothing is written.
        if splice.isEmpty then ⟨document, .ok true, [appliedEvent change splice]⟩
        else match Document.replaceRange document splice.start splice.stop splice.text with
          | .error fault => .ofFault document change fault
          | .ok changed => ⟨changed, .ok true, [appliedEvent change splice]⟩

end

end SchemaDiagram
