import SchemaDiagram.Model.Diagnostic
import SchemaDiagram.Number.Mixed
import SchemaDiagram.Number.Numeral
import SchemaDiagram.Settings.Item

/-! # Typed settings

Each owner of a settings list knows some keys, each of one form: number, text, color, flag,
reference or referential action. An unknown key and an unreadable value are reported and skipped. -/

namespace SchemaDiagram

/-- What the value of a setting has to be. -/
inductive SettingForm where
  /-- A number, with or without quotes. -/
  | number
  /-- Any text. -/
  | text
  /-- A text that is not empty. -/
  | color
  /-- No value, or `true`. -/
  | flag
  /-- A reference that starts with its operator. -/
  | ref
  /-- What happens to a row when the one it refers to changes. -/
  | action
deriving DecidableEq, Repr

/-- The value of a known setting. -/
inductive SettingValue where
  /-- A flag that is set. -/
  | flag
  /-- A text. -/
  | text (s : Text)
  /-- A number, whole where it is integral. -/
  | number (n : Mixed)

/-- The keys that an owner knows, with their forms. -/
def SettingsOwner.known : SettingsOwner → OrderedMap SettingForm
  | table => [("x", .number), ("y", .number), ("width", .number), ("color", .color),
      ("headercolor", .color), ("note", .text)]
  | note => [("x", .number), ("y", .number), ("width", .number), ("height", .number),
      ("color", .color)]
  | field => [("pk", .flag), ("primary key", .flag), ("unique", .flag), ("not null", .flag),
      ("null", .flag), ("increment", .flag), ("note", .text), ("default", .text), ("ref", .ref)]
  | ref => [("delete", .action), ("update", .action), ("color", .color), ("name", .text)]
  | index => [("pk", .flag), ("unique", .flag), ("name", .text), ("type", .text),
      ("note", .text)]
  | enumValue => [("note", .text)]

/-- The referential actions. -/
def referentialActions : List Text :=
  ["cascade", "restrict", "set null", "set default", "no action"]

/-- Reads a raw value in the given form. -/
def SettingForm.read (form : SettingForm) (raw : Text) : Except SettingFault SettingValue :=
  match form with
  | number =>
    let text := Text.trim (unquote raw)
    match readFloat? text with
    | some x => .ok (.number (.ofFloat x))
    | none => .error (.notANumber text)
  | text => .ok (.text (unquote raw.trim))
  | color =>
    let value := unquote raw.trim
    if value.isEmpty then .error .emptyColor else .ok (.text value)
  | flag =>
    if raw.lower = "true".toList ∨ raw = [] then .ok .flag else .error (.flagWithValue raw)
  | ref =>
    let value := raw.trim
    match value with
    | c :: _ =>
      if "<>-=".toList.contains c then .ok (.text value) else .error (.missingOperator raw)
    | [] => .error (.missingOperator raw)
  | action =>
    let value := normalizeKey (unquote raw)
    if referentialActions.contains value then .ok (.text value) else .error (.unknownAction raw)

/-- The settings that could be read, and reports on the others. -/
structure TypedSettings where
  /-- The values of the known keys in the order of the list. -/
  values : OrderedMap SettingValue
  /-- The reports in the order of the list. -/
  problems : List Diagnostic

namespace TypedSettings

/-- The number under a key. -/
def number? (s : TypedSettings) (key : Text) : Option Mixed :=
  match s.values.get? key with
  | some (.number n) => some n
  | _ => none

/-- The text under a key. -/
def text? (s : TypedSettings) (key : Text) : Option Text :=
  match s.values.get? key with
  | some (.text t) => some t
  | _ => none

/-- Whether the flag under a key is set. -/
def flag (s : TypedSettings) (key : Text) : Bool :=
  match s.values.get? key with
  | some .flag => true
  | _ => false

end TypedSettings

/-- What one raw setting means to its owner: a value, or the problem with it. -/
def readSetting (owner : SettingsOwner) (key raw : Text) : Except Problem SettingValue :=
  match owner.known.get? key with
  | none => .error (.unknownSetting owner key)
  | some form => (form.read raw).mapError (.invalidSetting owner key)

/-- Reads the raw settings of an owner on the given line. -/
def interpretSettings (raw : OrderedMap Text) (owner : SettingsOwner) (line : Option Nat) :
    TypedSettings :=
  { values := raw.filterMap fun (key, value) =>
      (readSetting owner key value).toOption.map (key, ·)
    problems := raw.filterMap fun (key, value) =>
      match readSetting owner key value with
      | .ok _ => none
      | .error problem => some ⟨problem, line⟩ }

end SchemaDiagram
