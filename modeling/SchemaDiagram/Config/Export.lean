import SchemaDiagram.Config.Store

/-! # Configurations as data documents

Every section is written under the keys that it is read from.

* **`DiagramConfig.toJson`** — the whole configuration.
* **`DiagramConfig.variableNames`** — the variables of the environment that set it. -/

namespace SchemaDiagram

/-- A log output. -/
def LogOutput.toJson (o : LogOutput) : Json :=
  .object [("format", .text o.format.name), ("destination", .text o.destination.text),
    ("level", .ofText? (o.level.map fun l => l.configName.toList))]

/-- The logging section. -/
def LoggingConfig.toJson (l : LoggingConfig) : Json :=
  .object [("level", .text l.level.configName), ("outputs", .list (l.outputs.map LogOutput.toJson))]

/-- The display section. -/
def DisplaySettings.toJson (d : DisplaySettings) : Json := .object d.members

/-- The routing section. -/
def RouterConfig.toJson (r : RouterConfig Float) : Json :=
  .object [("min_straight", .float r.minStraight), ("max_straight", .float r.maxStraight),
    ("lane_spacing", .float r.laneSpacing), ("label_offset", .float r.labelOffset),
    ("label_stagger", .float r.labelStagger), ("corner_radius", .float r.cornerRadius),
    ("u_turn_min", .float r.uTurnMin), ("u_turn_ratio", .float r.uTurnRatio)]

/-- The layout section. -/
def LayoutConfig.toJson (l : LayoutConfig Float) : Json :=
  .object [("columns", .int l.columns), ("gap_x", .float l.gapX), ("gap_y", .float l.gapY),
    ("origin", .float l.origin), ("table_width", .float l.tableWidth),
    ("header_height", .float l.headerHeight), ("row_height", .float l.rowHeight)]

/-- The preview section. -/
def PreviewConfig.toJson (p : PreviewConfig) : Json :=
  .object [("debounce_sec", .float p.debounceSeconds), ("min_size", .float p.minSize)]

namespace DiagramConfig

/-- The sections by their names. -/
def toJsonMembers (c : DiagramConfig) : OrderedMap Json :=
  [("logging", c.logging.toJson), ("display", c.display.toJson), ("router", c.router.toJson),
    ("layout", c.layout.toJson), ("preview", c.preview.toJson)]

/-- The whole configuration. -/
def toJson (c : DiagramConfig) : Json := .object c.toJsonMembers

/-- The variables of the environment that set a value, in capital letters. -/
def variableNames : List Text :=
  default.toJsonMembers.flatMap fun (section_, values) =>
    match values with
    | .object members => (OrderedMap.keys members).map fun key =>
      (concat ["dbdiagram__", section_, "__", key]).map Char.toUpper
    | _ => []

end DiagramConfig

end SchemaDiagram
