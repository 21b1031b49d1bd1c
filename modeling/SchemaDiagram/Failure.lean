import SchemaDiagram.Json

/-! # Failures

What a document says is never refused, but some work has to stop: a configuration that is not valid,
a format that is not known, a drawing that cannot be made, an edit that cannot land. A *failure* is
the cause; its code, its wording and its details follow from the cause. -/

namespace SchemaDiagram

/-- The kind of a failure. -/
inductive FailureCode where
  | configUnparsable
  | configInvalidValue
  | configMissingValue
  | configMissingFile
  | unsupportedFormat
  | unreadableSource
  | renderFailed
  | targetNotFound
  | notWritable
  | invalidEdit
  | internal
deriving DecidableEq, Repr

namespace FailureCode

/-- Every kind of failure. -/
def all : List FailureCode :=
  [configUnparsable, configInvalidValue, configMissingValue, configMissingFile, unsupportedFormat,
    unreadableSource, renderFailed, targetNotFound, notWritable, invalidEdit, internal]

/-- The number of a kind; the first digit tells the area. -/
def number : FailureCode → Nat
  | configUnparsable => 2001
  | configInvalidValue => 2002
  | configMissingValue => 2003
  | configMissingFile => 2004
  | unsupportedFormat => 3001
  | unreadableSource => 3002
  | renderFailed => 4001
  | targetNotFound => 5001
  | notWritable => 5002
  | invalidEdit => 5003
  | internal => 9001

/-- The name of a kind. -/
def name : FailureCode → String
  | configUnparsable => "CONFIG_PARSE_ERROR"
  | configInvalidValue => "CONFIG_INVALID_VALUE"
  | configMissingValue => "CONFIG_MISSING_REQUIRED"
  | configMissingFile => "CONFIG_FILE_NOT_FOUND"
  | unsupportedFormat => "PARSE_UNSUPPORTED_FORMAT"
  | unreadableSource => "PARSE_SOURCE_UNREADABLE"
  | renderFailed => "RENDER_FAILED"
  | targetNotFound => "PATCH_TARGET_NOT_FOUND"
  | notWritable => "PATCH_NOT_WRITABLE"
  | invalidEdit => "PATCH_INVALID_EDIT"
  | internal => "INTERNAL_ERROR"

/-- The kind with the given number. -/
def ofNumber? (n : Int) : Option FailureCode := all.find? fun code => (code.number : Int) = n

end FailureCode

/-- Why some work had to stop. -/
inductive Failure where
  /-- A configuration file cannot be read as one. -/
  | configUnparsable (path reason : Text)
  /-- A configuration value is not allowed. -/
  | configInvalidValue (field : Text) (value : Json) (reason : Text)
  /-- A configuration value is missing. -/
  | configMissingValue (field : Text)
  /-- A configuration file is missing. -/
  | configMissingFile (path : Text)
  /-- No reader is known for the format. -/
  | unsupportedFormat (format : Text)
  /-- The source cannot be read. -/
  | unreadableSource (path reason : Text)
  /-- The drawing cannot be made. -/
  | renderFailed (reason : Text) (details : List (Text × Json))
  /-- The entity to edit is not in the text. -/
  | targetNotFound (kind name : Text)
  /-- The document takes no edits now. -/
  | notWritable (reason : Text)
  /-- The edit makes no sense. -/
  | invalidEdit (reason : Text) (details : List (Text × Json))
  /-- Something that should not happen. -/
  | internal (reason : Text) (details : List (Text × Json))
  /-- A failure of a kind with a wording of its own. -/
  | custom (code : FailureCode) (message : Text)

namespace Failure

/-- The kind of the failure. -/
def code : Failure → FailureCode
  | configUnparsable .. => .configUnparsable
  | configInvalidValue .. => .configInvalidValue
  | configMissingValue _ => .configMissingValue
  | configMissingFile _ => .configMissingFile
  | unsupportedFormat _ => .unsupportedFormat
  | unreadableSource .. => .unreadableSource
  | renderFailed .. => .renderFailed
  | targetNotFound .. => .targetNotFound
  | notWritable _ => .notWritable
  | invalidEdit .. => .invalidEdit
  | internal .. => .internal
  | custom code _ => code

/-- The wording of the failure. -/
def message : Failure → Text
  | configUnparsable path reason => concat ["Failed to parse config at ", path, ": ", reason]
  | configInvalidValue field _ reason => concat ["Invalid value for '", field, "': ", reason]
  | configMissingValue field => "Missing required config field: ".toList ++ field
  | configMissingFile path => "Config file not found: ".toList ++ path
  | unsupportedFormat format => "Unsupported format: ".toList ++ format
  | unreadableSource path reason => concat ["Cannot read schema source ", path, ": ", reason]
  | renderFailed reason _ => "Error rendering diagram: ".toList ++ reason
  | targetNotFound kind name => concat ["No ", kind, " named '", name, "' in the current text"]
  | notWritable reason => "Document not writable: ".toList ++ reason
  | invalidEdit reason _ => "Invalid edit: ".toList ++ reason
  | internal reason _ => "Internal error: ".toList ++ reason
  | custom _ message => message

/-- Whether the same work may succeed later. -/
def isRetryable : Failure → Bool
  | notWritable _ => true
  | _ => false

/-- What the failure is about. -/
def details : Failure → List (Text × Json)
  | configUnparsable path reason | unreadableSource path reason =>
    [("path", .text path), ("reason", .text reason)]
  | configInvalidValue field value reason =>
    [("field", .text field), ("value", .text value.shown), ("reason", .text reason)]
  | configMissingValue field => [("field", .text field)]
  | configMissingFile path => [("path", .text path)]
  | unsupportedFormat format => [("format", .text format)]
  | targetNotFound kind name => [("kind", .text kind), ("name", .text name)]
  | notWritable reason => [("reason", .text reason)]
  | renderFailed _ details | invalidEdit _ details | internal _ details => details
  | custom .. => []

/-- The failure on one line: number, name and wording. -/
def summary (f : Failure) : Text :=
  concat ["[", Text.ofNat f.code.number, "] ", f.code.name, ": ", f.message]

/-- The failure as a data document. -/
def toJson (f : Failure) : Json :=
  .object [("code", .int f.code.number), ("error", .text f.code.name), ("message", .text f.message),
    ("retryable", .bool f.isRetryable), ("details", .object f.details)]

end Failure

end SchemaDiagram
