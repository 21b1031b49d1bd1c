import SchemaDiagram.Text.Blank
import SchemaDiagram.Text.LowerCase

/-! # Display settings

How every diagram is drawn: the style of its lines, its background grid and its colors. -/

namespace SchemaDiagram

/-- How a connection is drawn. -/
inductive LineStyle where
  | curve
  | rectilinear
  | roundRectilinear
  | oblique
  | roundOblique
deriving DecidableEq, Repr

namespace LineStyle

/-- The name of a style. -/
def name : LineStyle → String
  | curve => "Curve"
  | rectilinear => "Rectilinear"
  | roundRectilinear => "RoundRectilinear"
  | oblique => "Oblique"
  | roundOblique => "RoundOblique"

/-- Every style. -/
def all : List LineStyle := [curve, rectilinear, roundRectilinear, oblique, roundOblique]

/-- The style with the given name; case, underscores, hyphens and outer blanks do not count. -/
def ofName? (s : Text) : Option LineStyle :=
  let wanted := Text.lower (s.trim.filter fun c => c != '_' && c != '-')
  all.find? fun style => Text.lower style.name = wanted

end LineStyle

/-- A color theme. -/
inductive Theme where
  | light
  | dark
deriving DecidableEq, Repr

namespace Theme

/-- The name of a theme. -/
def name : Theme → String
  | light => "light"
  | dark => "dark"

/-- Every theme. -/
def all : List Theme := [light, dark]

end Theme

/-- The display settings that all open diagrams share. -/
structure DisplaySettings where
  /-- How connections are drawn. -/
  lineStyle : LineStyle
  /-- Whether the background grid is drawn. -/
  showGrid : Bool
  /-- The size of a grid cell. -/
  gridSize : Int
  /-- The color theme. -/
  theme : Theme
deriving DecidableEq, Repr

namespace DisplaySettings

/-- The settings where none are given. -/
def default : DisplaySettings := ⟨.curve, true, 20, .light⟩

/-- The least size of a grid cell. -/
def leastGrid : Int := 4

/-- The largest size of a grid cell. -/
def largestGrid : Int := 200

/-- Whether the grid size is within its bounds. -/
def IsValid (d : DisplaySettings) : Prop := leastGrid ≤ d.gridSize ∧ d.gridSize ≤ largestGrid

instance : DecidablePred IsValid := fun d =>
  inferInstanceAs (Decidable (leastGrid ≤ d.gridSize ∧ d.gridSize ≤ largestGrid))

/-- The settings that nobody has set are valid. -/
theorem isValid_default : IsValid default := by decide

end DisplaySettings

end SchemaDiagram
