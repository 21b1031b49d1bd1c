import SchemaDiagram.Config.Environment
import SchemaDiagram.Yaml.Document

/-! # Configuration from several sources

A configuration is put together from layers: arguments stand above variables of the environment,
those above the file of the project, that above the file of the user. Layers are merged key by key
inside the sections; what no layer sets has its default.

* **`textLayer`** — the layer that the text of a file makes.
* **`ConfigSources.config`** — the checked configuration. -/

namespace SchemaDiagram

/-! ## Files -/

/-- Why a file that does not hold a map is refused. -/
def notMapping : Text := "top level must be a mapping"

/-- The layer of a file with the given contents. -/
def fileLayer (path : Text) (contents : Json) : Except ConfigFault Json :=
  match contents with
  | .object members => .ok (.object members)
  | .table entries => .ok (.table entries)
  | j =>
    if j.isBlank then .ok (.object []) else .error (.refused (.configUnparsable path notMapping))

/-- The layer of a file that may be missing. -/
def textLayer (path : Text) (text : Option Text) : Except ConfigFault Json :=
  match text with
  | none => .ok (.object [])
  | some text =>
    match Yaml.read text with
    | .ok contents => fileLayer path contents
    | .error .unreadable => .error (.unreadable path)
    | .error (.meaningless reason) => .error (.meaninglessWord reason)

/-- Where the configuration of a project lies in its folder. -/
def projectConfigPath : Text := ".dbdiagram/config.yaml"

/-! ## Sources -/

/-- All sources of a configuration. -/
structure ConfigSources where
  /-- The file of the user. -/
  user : Json
  /-- The file of the project. -/
  project : Json
  /-- The variables of the environment. -/
  environment : List (Text × Text)
  /-- The arguments. -/
  arguments : ConfigLayer
  /-- The homes that paths may start at. -/
  homes : Text.Homes

namespace ConfigSources

/-- The merged values of all sources. -/
def merged (s : ConfigSources) : Except ConfigFault Json := do
  let environment ← environmentLayer s.environment
  return .merge (.merge s.user s.project)
    (.object (Json.mergeMembers environment s.arguments))

/-- The sections of a layer that do not exist. -/
def unknownSections (layer : ConfigLayer) : List ConfigProblem :=
  (layer.filter fun (key, _) => !DiagramConfig.sections.contains key).map fun (key, value) =>
    ⟨[key], value, .unknownSection⟩

/-- The checked configuration of a layer; the first problem is the failure. -/
def checked (homes : Text.Homes) (layer : ConfigLayer) : Except ConfigFault DiagramConfig :=
  match DiagramConfig.readMembers homes layer, unknownSections layer with
  | .undecided, _ => .error .unknownHome
  | .accepted config, [] => .ok config
  | .accepted _, problem :: _ | .refused (problem :: _), _ => .error (.refused problem.failure)
  | .refused [], _ => .error (.refused (.internal "no problem" []))

/-- The configuration of the sources. -/
def config (s : ConfigSources) : Except ConfigFault DiagramConfig := do
  match ← s.merged with
  | .object layer => checked s.homes layer
  | _ => throw .keyNotText

end ConfigSources

end SchemaDiagram
