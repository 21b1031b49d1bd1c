import SchemaDiagram.Text.Quoted

/-! # Diagnostics

Nothing in a document is refused: what cannot be read is reported and skipped. A *problem* is the
cause of a report; its severity, its code and its wording follow from the cause. -/

namespace SchemaDiagram

/-- How grave a report is. -/
inductive Severity where
  | error
  | warning
  | info
  | hint
deriving DecidableEq, Repr

/-- The name of a severity. -/
def Severity.name : Severity → String
  | error => "error"
  | warning => "warning"
  | info => "info"
  | hint => "hint"

/-- The entities that have a settings list. -/
inductive SettingsOwner where
  | table
  | note
  | field
  | ref
  | index
  | enumValue
deriving DecidableEq, Repr

/-- The name of an owner in reports. -/
def SettingsOwner.name : SettingsOwner → String
  | table => "table"
  | note => "note"
  | field => "field"
  | ref => "ref"
  | index => "index"
  | enumValue => "enum value"

/-- Why the value of a known setting cannot be read. -/
inductive SettingFault where
  /-- The text is no number. -/
  | notANumber (text : Text)
  /-- A flag has a value other than `true`. -/
  | flagWithValue (raw : Text)
  /-- A color is empty. -/
  | emptyColor
  /-- A reference does not start with an operator. -/
  | missingOperator (raw : Text)
  /-- A referential action is none of the known ones. -/
  | unknownAction (raw : Text)
deriving DecidableEq, Repr

/-- The wording of a fault. -/
def SettingFault.message : SettingFault → Text
  | notANumber text => "could not convert string to float: ".toList ++ text.quoted
  | flagWithValue raw => "flag takes no value, got ".toList ++ raw.quoted
  | emptyColor => "empty color"
  | missingOperator raw => "ref needs an operator, got ".toList ++ raw.quoted
  | unknownAction raw => "unknown referential action ".toList ++ raw.quoted

/-- What is wrong with a part of a document. -/
inductive Problem where
  /-- A bracket or parenthesis is open where the next top-level block starts. -/
  | unclosedBracket (opener : Text)
  /-- A closing brace has no opening one. -/
  | unmatchedBrace
  /-- The opening brace of a block has no closing one. -/
  | unclosedBrace (first : Text)
  /-- A top-level line is no statement. -/
  | unexpectedStatement (first : Text)
  /-- A block header has a token too many. -/
  | unexpectedInHeader (token block : Text)
  /-- A one-line reference has nothing after its colon. -/
  | missingEndpoints
  /-- A settings list has a key that its owner does not know. -/
  | unknownSetting (owner : SettingsOwner) (key : Text)
  /-- A settings list has a known key whose value cannot be read. -/
  | invalidSetting (owner : SettingsOwner) (key : Text) (fault : SettingFault)
  /-- The target of a reference inside a field is no single column. -/
  | unreadableTarget (value : Text)
  /-- A body line is no field declaration. -/
  | unreadableField (text : Text)
  /-- The type of a field is no type. -/
  | unreadableType (type field : Text)
  /-- A reference line has no operator. -/
  | missingRefOperator (text : Text)
  /-- An end of a reference line is no table and column. -/
  | unreadableEndpoints (text : Text)
  /-- An index has no columns. -/
  | indexWithoutColumns (text : Text)
  /-- A table injects a partial that does not exist. -/
  | unknownPartial (table name : Text)
  /-- A partial injects a partial. -/
  | nestedInjection (owner name : Text)
  /-- A top-level block has a keyword that is not known. -/
  | unsupportedBlock (keyword : Text)
  /-- A block inside a table has a keyword that is not known there. -/
  | unsupportedInnerBlock (keyword owner : Text)
  /-- A property inside a table is no note. -/
  | unexpectedProperty (key owner : Text)
  /-- A further project block. -/
  | extraProject
  /-- A line of a project block is no property. -/
  | strayProjectLine (text : Text)
  /-- An enum has no name. -/
  | unnamedEnum
  /-- A partial has no name. -/
  | unnamedPartial
  /-- A table has no name. -/
  | unnamedTable
  /-- A sticky note has no name. -/
  | unnamedNote
  /-- A table has the name of an earlier one. -/
  | duplicateTable (name : Text)
  /-- A reference block has no lines. -/
  | emptyRef
deriving DecidableEq, Repr

namespace Problem

/-- How grave the problem is. -/
def severity : Problem → Severity
  | unclosedBracket _ | unmatchedBrace | unclosedBrace _ | unnamedEnum | unnamedPartial
  | unnamedTable => .error
  | unsupportedBlock _ | unsupportedInnerBlock .. => .info
  | unknownSetting .. => .hint
  | _ => .warning

/-- The code under which the problem is reported, if it has one. -/
def code : Problem → Option String
  | unclosedBracket _ | unmatchedBrace | unclosedBrace _ | unexpectedStatement _
  | unexpectedInHeader .. | missingEndpoints => some "syntax"
  | unknownSetting .. => some "unknown-setting"
  | invalidSetting .. => some "invalid-setting"
  | unreadableTarget _ | missingRefOperator _ | unreadableEndpoints _ | emptyRef => some "ref"
  | unreadableField _ | unreadableType .. | unexpectedProperty .. => some "field"
  | indexWithoutColumns _ => some "index"
  | unknownPartial .. | nestedInjection .. => some "partial"
  | unsupportedBlock _ | unsupportedInnerBlock .. => some "block"
  | extraProject | strayProjectLine _ => some "project"
  | unnamedEnum => some "enum"
  | unnamedTable | duplicateTable _ => some "table"
  | unnamedPartial | unnamedNote => none

/-- The wording of the report. -/
def message : Problem → Text
  | unclosedBracket opener => concat ["Unclosed '", opener, "'"]
  | unmatchedBrace => "Unmatched '\x7d'"
  | unclosedBrace first => concat ["Unclosed '\x7b' after '", first, "'; block skipped"]
  | unexpectedStatement first => concat ["Unexpected statement '", first, "' skipped"]
  | unexpectedInHeader token block => concat ["Unexpected '", token, "' in ", block, " header"]
  | missingEndpoints => "Ref without an endpoint pair"
  | unknownSetting owner key => concat ["Unknown ", owner.name, " setting '", key, "'"]
  | invalidSetting owner key fault =>
    concat ["Invalid ", owner.name, " setting '", key, "': ", fault.message]
  | unreadableTarget value => concat ["Cannot read inline ref target '", value, "'"]
  | unreadableField text => concat ["Cannot read field declaration '", text, "'"]
  | unreadableType type field => concat ["Cannot read type '", type, "' of field '", field, "'"]
  | missingRefOperator text => concat ["Ref without an operator: '", text, "'"]
  | unreadableEndpoints text => concat ["Cannot read ref endpoints: '", text, "'"]
  | indexWithoutColumns text => concat ["Index without columns: '", text, "'"]
  | unknownPartial table name =>
    concat ["Table '", table, "' injects unknown partial '", name, "'"]
  | nestedInjection owner name => concat ["Partial '", owner, "' cannot inject '", name, "'"]
  | unsupportedBlock keyword =>
    concat ["Unsupported block '", if keyword.isEmpty then "?" else keyword, "' skipped"]
  | unsupportedInnerBlock keyword owner =>
    concat ["Unsupported '", keyword, "' block inside ", owner]
  | unexpectedProperty key owner => concat ["Unexpected '", key, ":' inside ", owner]
  | extraProject => "Only the first Project block is used"
  | strayProjectLine text => concat ["Expected 'key: value' in Project, got '", text, "'"]
  | unnamedEnum => "Enum without a name skipped"
  | unnamedPartial => "TablePartial without a name skipped"
  | unnamedTable => "Table without a name skipped"
  | unnamedNote => "Sticky note without a name skipped"
  | duplicateTable name => concat ["Duplicate table '", name, "'"]
  | emptyRef => "Empty Ref block"

end Problem

/-- A problem and the line on which it was found, where that is known. -/
structure Diagnostic where
  /-- What is wrong. -/
  problem : Problem
  /-- Where it is wrong. -/
  line : Option Nat
deriving DecidableEq, Repr

namespace Diagnostic

/-- How grave the report is. -/
def severity (d : Diagnostic) : Severity := d.problem.severity

/-- The report on one line: severity, line and wording. -/
def text (d : Diagnostic) : Text :=
  let place := match d.line with
    | some line => concat ["line ", Text.ofNat line, ": "]
    | none => []
  concat [d.severity.name, ": ", place, d.problem.message]

end Diagnostic

end SchemaDiagram
