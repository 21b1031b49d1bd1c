import SchemaDiagram.Config.Value
import SchemaDiagram.Layout.Placement
import SchemaDiagram.Logging.Event
import SchemaDiagram.Routing.Route
import SchemaDiagram.Text.PathName

/-! # Configuration

A configuration has sections for logging, display, routing, layout and the preview. Every section
is read from a map: a key that is missing has its default, an unknown key does not count. -/

namespace SchemaDiagram

/-! ## Logging -/

/-- How log records are written. -/
inductive LogFormat where
  | json
  | console
deriving DecidableEq, Repr

/-- The name of a format. -/
def LogFormat.name : LogFormat → String
  | json => "json"
  | console => "console"

/-- Where log records go. -/
inductive LogDestination where
  | stderr
  | stdout
  | file (path : Text)
deriving DecidableEq, Repr

namespace LogDestination

/-- The name of a destination. -/
def text : LogDestination → Text
  | stderr => "stderr"
  | stdout => "stdout"
  | file path => path

/-- Whether records go to the screen. -/
def isScreen : LogDestination → Bool
  | file _ => false
  | _ => true

/-- Reads a destination: a stream, or a file by its path from the root or from somebody's home. -/
def read (homes : Text.Homes) (j : Json) : Checked LogDestination :=
  match j with
  | .text s =>
    if s = "stderr".toList then .accepted stderr
    else if s = "stdout".toList then .accepted stdout
    else match s.expandHome? homes with
      | some path =>
        if path.isAbsolutePath then .accepted (file path)
        else .refuse j (.brokenRule ("File destination must be absolute path: ".toList ++ s))
      | none => .undecided
  | j => .refuse j .notText

end LogDestination

/-- One output of the log. -/
structure LogOutput where
  /-- How its records are written. -/
  format : LogFormat
  /-- Where they go. -/
  destination : LogDestination
  /-- The least level that is written; that of the whole log where none is given. -/
  level : Option LogLevel
deriving DecidableEq, Repr

namespace LogOutput

/-- The output where none is given. -/
def default : LogOutput := ⟨.console, .stderr, none⟩

/-- Reads an output. -/
def read (homes : Text.Homes) : Json → Checked LogOutput :=
  Config.record "LogOutputConfig" fun m =>
    (Checked.accepted mk)
      |>.apply (Config.member m "format" default.format (Config.choice [.json, .console] (·.name)))
      |>.apply (Config.member m "destination" default.destination (LogDestination.read homes))
      |>.apply (Config.member m "level" default.level
        (Config.optional (Config.choice LogLevel.all (·.configName))))

end LogOutput

/-- The logging section. -/
structure LoggingConfig where
  /-- The least level that is written. -/
  level : LogLevel
  /-- The outputs. -/
  outputs : List LogOutput
deriving DecidableEq, Repr

namespace LoggingConfig

/-- The section where none is given. -/
def default : LoggingConfig := ⟨.warning, [.default]⟩

/-- Reads the outputs. -/
def readOutputs (homes : Text.Homes) (j : Json) : Checked (List LogOutput) :=
  match j with
  | .list items => .each (LogOutput.read homes) items
  | j => .refuse j .notList

/-- Reads the section. -/
def read (homes : Text.Homes) : Json → Checked LoggingConfig :=
  Config.record "LoggingConfig" fun m =>
    (Checked.accepted mk)
      |>.apply (Config.member m "level" default.level (Config.choice LogLevel.all (·.configName)))
      |>.apply (Config.member m "outputs" default.outputs (readOutputs homes))

end LoggingConfig

/-! ## Display -/

namespace DisplaySettings

/-- Reads a line style. -/
def readLineStyle (j : Json) : Checked LineStyle :=
  let found : Option LineStyle := match j with
    | .text s => LineStyle.ofName? s
    | _ => none
  .ofOption j (.brokenRule ("Unknown line style: ".toList ++ j.shown)) found

/-- How the values of settings are converted to the types of the settings. -/
structure Conversions where
  /-- Reads a whole number. -/
  integer : Json → Checked Int
  /-- Reads a truth value. -/
  flag : Json → Checked Bool
  /-- Reads a color theme. -/
  theme : Json → Checked Theme

/-- The conversions of all configuration values. -/
def Conversions.standard : Conversions :=
  ⟨Config.integer, Config.flag, Config.choice Theme.all (·.name)⟩

/-- Reads the size of a grid cell. -/
def readGridSize (c : Conversions) : Json → Checked Int :=
  Config.ruled c.integer (fun n => leastGrid ≤ n && n ≤ largestGrid)
    fun n => "Grid size must be 4-200, got ".toList ++ Text.ofInt n

/-- The settings with the given values in place of those of `base`. -/
def readMembers (c : Conversions) (base : DisplaySettings) (m : OrderedMap Json) :
    Checked DisplaySettings :=
  (Checked.accepted mk)
    |>.apply (Config.member m "line_style" base.lineStyle readLineStyle)
    |>.apply (Config.member m "show_grid" base.showGrid c.flag)
    |>.apply (Config.member m "grid_size" base.gridSize (readGridSize c))
    |>.apply (Config.member m "theme" base.theme c.theme)

/-- Reads the section with the given conversions. -/
def readWith (c : Conversions) : Json → Checked DisplaySettings :=
  Config.record "DisplaySettings" (readMembers c default)

/-- Reads the section. -/
def read : Json → Checked DisplaySettings := readWith .standard

end DisplaySettings

/-! ## Routing and layout -/

namespace RouterConfig

/-- Reads the largest run off an end. -/
def readMaxStraight : Json → Checked Float :=
  Config.ruled Config.number (fun x => !decide (x ≤ 0))
    fun x => "max_straight must be positive, got ".toList ++ shortestText x

/-- Reads the section. -/
def read : Json → Checked (RouterConfig Float) :=
  Config.record "RouterConfig" fun m =>
    let value (key : String) (base : Float) : Checked Float :=
      Config.member m key base Config.number
    (Checked.accepted mk)
      |>.apply (value "min_straight" default.minStraight)
      |>.apply (Config.member m "max_straight" default.maxStraight readMaxStraight)
      |>.apply (value "lane_spacing" default.laneSpacing)
      |>.apply (value "label_offset" default.labelOffset)
      |>.apply (value "label_stagger" default.labelStagger)
      |>.apply (value "corner_radius" default.cornerRadius)
      |>.apply (value "u_turn_min" default.uTurnMin)
      |>.apply (value "u_turn_ratio" default.uTurnRatio)

end RouterConfig

namespace LayoutConfig

/-- Reads how many tables stand in a row. -/
def readColumns (j : Json) : Checked Nat :=
  (Config.ruled Config.integer (fun n => 1 ≤ n)
    (fun n => "columns must be >= 1, got ".toList ++ Text.ofInt n) j).map Int.toNat

/-- Reads the section. -/
def read : Json → Checked (LayoutConfig Float) :=
  Config.record "LayoutConfig" fun m =>
    let value (key : String) (base : Float) : Checked Float :=
      Config.member m key base Config.number
    (Checked.accepted mk)
      |>.apply (Config.member m "columns" default.columns readColumns)
      |>.apply (value "gap_x" default.gapX)
      |>.apply (value "gap_y" default.gapY)
      |>.apply (value "origin" default.origin)
      |>.apply (value "table_width" default.tableWidth)
      |>.apply (value "header_height" default.headerHeight)
      |>.apply (value "row_height" default.rowHeight)

end LayoutConfig

/-! ## Preview -/

/-- The preview section. -/
structure PreviewConfig where
  /-- The quiet time in seconds after a change before the diagram is drawn anew. -/
  debounceSeconds : Float
  /-- The least width and height that a gesture can give. -/
  minSize : Float

namespace PreviewConfig

/-- The section where none is given. -/
def default : PreviewConfig := ⟨0.3, 100⟩

/-- Reads the quiet time. -/
def readDebounce : Json → Checked Float :=
  Config.ruled Config.number (fun x => !decide (x < 0))
    fun x => "debounce_sec must be >= 0, got ".toList ++ shortestText x

/-- Reads the section. -/
def read : Json → Checked PreviewConfig :=
  Config.record "PreviewConfig" fun m =>
    (Checked.accepted mk)
      |>.apply (Config.member m "debounce_sec" default.debounceSeconds readDebounce)
      |>.apply (Config.member m "min_size" default.minSize Config.number)

end PreviewConfig

/-! ## The whole -/

/-- A configuration. -/
structure DiagramConfig where
  /-- The logging section. -/
  logging : LoggingConfig
  /-- The display section. -/
  display : DisplaySettings
  /-- The routing section. -/
  router : RouterConfig Float
  /-- The layout section. -/
  layout : LayoutConfig Float
  /-- The preview section. -/
  preview : PreviewConfig

namespace DiagramConfig

/-- The configuration where none is given. -/
def default : DiagramConfig := ⟨.default, .default, .default, .default, .default⟩

/-- The names of the sections. -/
def sections : List Text := ["logging", "display", "router", "layout", "preview"]

/-- Reads the sections. -/
def readMembers (homes : Text.Homes) (m : OrderedMap Json) : Checked DiagramConfig :=
  (Checked.accepted mk)
    |>.apply (Config.member m "logging" default.logging (LoggingConfig.read homes))
    |>.apply (Config.member m "display" default.display DisplaySettings.read)
    |>.apply (Config.member m "router" default.router RouterConfig.read)
    |>.apply (Config.member m "layout" default.layout LayoutConfig.read)
    |>.apply (Config.member m "preview" default.preview PreviewConfig.read)

/-- Reads a configuration. -/
def read (homes : Text.Homes) : Json → Checked DiagramConfig :=
  Config.record "DiagramConfig" (readMembers homes)

end DiagramConfig

end SchemaDiagram
