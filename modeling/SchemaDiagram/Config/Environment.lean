import SchemaDiagram.Config.Export
import SchemaDiagram.Json.Merge
import SchemaDiagram.Json.Reader

/-! # Configuration from the environment

A variable `DBDIAGRAM__SECTION__KEY` sets a value and `DBDIAGRAM__SECTION` a whole section; names
count in any case. A section and a list are given as data documents, every other value as it
stands. No value at all sets nothing.

* **`environmentLayer`** — the values that variables set, by section. -/

namespace SchemaDiagram

/-- The values of one source by section. -/
abbrev ConfigLayer := OrderedMap Json

/-- What the names of all variables start with. -/
def variableHead : Text := "dbdiagram__"

/-- The values of a section where none are given. -/
def defaultMembers (section_ : Text) : OrderedMap Json :=
  match DiagramConfig.default.toJsonMembers.get? section_ with
  | some (.object members) => members
  | _ => []

/-- The key of a section that a name stands for in any case; another name stands for itself. -/
def sectionKey (section_ name : Text) : Text :=
  ((defaultMembers section_).keys.find? fun key => Text.lower key = Text.lower name).getD name

/-- The parts of a text between pairs of underscores. -/
def splitVariable : Text → List Text
  | [] => [[]]
  | '_' :: '_' :: rest => [] :: splitVariable rest
  | c :: rest =>
    match splitVariable rest with
    | part :: parts => (c :: part) :: parts
    | [] => [[c]]

/-- A map with a value at a path of keys; a value that is in the way stays. -/
def setPath (members : ConfigLayer) (value : Json) : List Text → ConfigLayer
  | [] => members
  | [key] => members.insert key value
  | key :: keys =>
    match members.get? key with
    | some (.object inner) => members.insert key (.object (setPath inner value keys))
    -- A value at the place of a map keeps the deeper keys out.
    | some _ => members
    | none => members.insert key (.object (setPath [] value keys))

/-- The data document that a variable for a section holds. -/
def variableDocument (section_ contents : Text) : Except ConfigFault Json :=
  match Json.read contents with
  | .ok j => .ok j
  | .error .malformed => .error (.unreadableVariable section_)
  | .error (.tooDeep isList) => .error (.deepVariable isList)

/-- The value that a variable gives for a path of keys in a section: that of a list is a data
document unless it is empty. -/
def variableValue (section_ : Text) (path : List Text) (contents : Text) :
    Except ConfigFault Json :=
  let isList := match path with
    | [key] => match (defaultMembers section_).get? key with
      | some (.list _) => true
      | _ => false
    | _ => false
  if isList && !contents.isEmpty then variableDocument section_ contents else .ok (.text contents)

/-- The values in a section that variables set one by one. -/
def variableMembers (variableMap : OrderedMap Text) (section_ : Text) :
    Except ConfigFault ConfigLayer :=
  variableMap.foldlM (fun members (name, contents) =>
    match Text.dropHead? (concat [variableHead, section_, "__"]) name with
    | some key => do
      let path := splitVariable key
      return setPath members (← variableValue section_ path contents) path
    | none => return members) []

/-- The section that variables give, if any does; single values stand above the whole section. -/
def variableSection (variableMap : OrderedMap Text) (section_ : Text) :
    Except ConfigFault (Option Json) :=
  match variableMap.get? (variableHead ++ section_) with
  | none => do
    let members ← variableMembers variableMap section_
    return if members.isEmpty then none else some (.object members)
  | some contents => do
    match ← variableDocument section_ contents with
    | .null => return none
    | .object members =>
      return some (.object (Json.mergeMembers members (← variableMembers variableMap section_)))
    | j => return some j

/-- A section with the keys that it is read from; names count in any case. -/
def withSectionKeys (section_ : Text) : Json → Json
  | .object members =>
    .object (OrderedMap.ofList (members.map fun (name, value) => (sectionKey section_ name, value)))
  | j => j

/-- The layer of the variables of the environment. -/
def environmentLayer (assignments : List (Text × Text)) : Except ConfigFault ConfigLayer :=
  let variableMap :=
    OrderedMap.ofList (assignments.map fun (name, value) => (Text.lower name, value))
  DiagramConfig.sections.foldlM (fun layer section_ => do
    match ← variableSection variableMap section_ with
    | some j => return layer.insert section_ (withSectionKeys section_ j)
    | none => return layer) []

end SchemaDiagram
