import SchemaDiagram.Config.Basic

/-! # The store of display settings

All open diagrams share one store. An update is checked as a whole; listeners hear of it only if
some setting differs.

* **`SettingsStore.updateWith`** — the store after an update, with the event and the listeners that
  it goes to; **`SettingsStore.update`** uses the conversions of all configuration values.
* **`SettingsStore.subscribe`**, **`SettingsStore.unsubscribe`** — the listeners. -/

namespace SchemaDiagram

namespace DisplaySettings

/-- The settings by their keys. -/
def members (d : DisplaySettings) : OrderedMap Json :=
  [("line_style", .text d.lineStyle.name), ("show_grid", .bool d.showGrid),
    ("grid_size", .int d.gridSize), ("theme", .text d.theme.name)]

/-- The values of the settings with changes in front of them: the first value of a key counts. -/
def merged (d : DisplaySettings) (changes : OrderedMap Json) : OrderedMap Json :=
  changes ++ d.members

/-- The keys of the settings. -/
def keys : List Text := default.members.keys

/-- The keys of the settings that differ, in code point order. -/
def changedKeys (previous current : DisplaySettings) : List Text :=
  Text.sort <| [
    if previous.lineStyle = current.lineStyle then none else some "line_style".toList,
    if previous.showGrid = current.showGrid then none else some "show_grid".toList,
    if previous.gridSize = current.gridSize then none else some "grid_size".toList,
    if previous.theme = current.theme then none else some "theme".toList].filterMap id

end DisplaySettings

/-- A change of the settings. -/
structure SettingsChange where
  /-- The settings before. -/
  previous : DisplaySettings
  /-- The settings afterwards. -/
  current : DisplaySettings
deriving DecidableEq, Repr

/-- The keys that a change is about. -/
def SettingsChange.changed (c : SettingsChange) : List Text :=
  DisplaySettings.changedKeys c.previous c.current

/-- The shared settings and who listens to them. -/
structure SettingsStore (L : Type) where
  /-- The settings. -/
  current : DisplaySettings
  /-- The listeners in the order in which they came; one may be there several times. -/
  listeners : List L

namespace SettingsStore

variable {L : Type}

/-- A store without listeners. -/
def ofSettings (current : DisplaySettings) : SettingsStore L := ⟨current, []⟩

/-- Adds a listener. -/
def subscribe (s : SettingsStore L) (listener : L) : SettingsStore L :=
  { s with listeners := s.listeners ++ [listener] }

/-- Removes the first subscription of a listener, if there is one. -/
def unsubscribe [DecidableEq L] (s : SettingsStore L) (listener : L) : SettingsStore L :=
  { s with listeners := s.listeners.erase listener }

/-- The outcome of an update. -/
structure Update (L : Type) where
  /-- The store afterwards. -/
  store : SettingsStore L
  /-- What has changed, if anything has. -/
  change : Option SettingsChange
  /-- The listeners that hear of it, in order. -/
  notified : List L

/-- The failure of an update whose first problem this is. -/
def refusal (p : ConfigProblem) : Failure := (p.under "display").failure

/-- Checks and applies changes of settings. A key that is no setting comes before a value that is
refused; all values are read anew, those that stay included. -/
def updateWith (c : DisplaySettings.Conversions) (s : SettingsStore L) (changes : OrderedMap Json) :
    Except Failure (Update L) :=
  let unknown := Text.sort (changes.keys.filter fun key => !DisplaySettings.keys.contains key)
  match unknown with
  | name :: _ => .error (.configInvalidValue ("display.".toList ++ name)
      ((changes.get? name).getD .null) "unknown setting")
  | [] =>
    match DisplaySettings.readWith c (.object (s.current.merged changes)) with
    | .accepted updated =>
      if updated = s.current then .ok ⟨s, none, []⟩
      else .ok ⟨{ s with current := updated }, some ⟨s.current, updated⟩, s.listeners⟩
    | .refused (p :: _) => .error (refusal p)
    | _ => .ok ⟨s, none, []⟩

/-- Restores the settings where none are given. -/
def resetWith (c : DisplaySettings.Conversions) (s : SettingsStore L) : Except Failure (Update L) :=
  s.updateWith c DisplaySettings.default.members

/-- Checks and applies changes of settings. -/
def update (s : SettingsStore L) (changes : OrderedMap Json) : Except Failure (Update L) :=
  s.updateWith .standard changes

/-- Restores the settings where none are given. -/
def reset (s : SettingsStore L) : Except Failure (Update L) := s.resetWith .standard

end SettingsStore

end SchemaDiagram
