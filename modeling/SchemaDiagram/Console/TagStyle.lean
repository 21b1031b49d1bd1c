import SchemaDiagram.Number.Numeral
import SchemaDiagram.OrderedMap
import SchemaDiagram.Text.LowerCase

/-! # Styles of tags

A tag names a style by words: flags with `not` before those that are switched off, a colour, `on`
with the colour behind the text, `link` with an address. Two tags name the same style if they set
the same things to the same values, in any order and with any short names.

* **`TagStyle`** — what a tag sets.
* **`styleName`** — the name that all tags of one style share. -/

namespace SchemaDiagram

/-! ## Colours -/

/-- The names of colours. -/
def colorNames : List Text := Text.words "black red green yellow blue
magenta cyan white bright_black bright_red bright_green
bright_yellow bright_blue bright_magenta bright_cyan bright_white grey0 gray0 navy_blue
dark_blue blue3 blue1 dark_green deep_sky_blue4 dodger_blue3 dodger_blue2 green4 spring_green4
turquoise4 deep_sky_blue3 dodger_blue1 green3 spring_green3 dark_cyan light_sea_green
deep_sky_blue2 deep_sky_blue1 spring_green2 cyan3 dark_turquoise turquoise2 green1 spring_green1
medium_spring_green cyan2 cyan1 dark_red deep_pink4 purple4 purple3 blue_violet orange4 grey37
gray37 medium_purple4 slate_blue3 royal_blue1 chartreuse4 dark_sea_green4 pale_turquoise4
steel_blue steel_blue3 cornflower_blue chartreuse3 cadet_blue sky_blue3 steel_blue1 pale_green3
sea_green3 aquamarine3 medium_turquoise chartreuse2 sea_green2 sea_green1 aquamarine1
dark_slate_gray2 dark_magenta dark_violet purple light_pink4 plum4 medium_purple3 slate_blue1
yellow4 wheat4 grey53 gray53 light_slate_grey light_slate_gray medium_purple light_slate_blue
dark_olive_green3 dark_sea_green light_sky_blue3 sky_blue2 dark_sea_green3 dark_slate_gray3
sky_blue1 chartreuse1 light_green pale_green1 dark_slate_gray1 red3 medium_violet_red magenta3
dark_orange3 indian_red hot_pink3 medium_orchid3 medium_orchid medium_purple2 dark_goldenrod
light_salmon3 rosy_brown grey63 gray63 medium_purple1 gold3 dark_khaki navajo_white3 grey69
gray69 light_steel_blue3 light_steel_blue yellow3 dark_sea_green2 light_cyan3 light_sky_blue1
green_yellow dark_olive_green2 dark_sea_green1 pale_turquoise1 deep_pink3 magenta2 hot_pink2
orchid medium_orchid1 orange3 light_pink3 pink3 plum3 violet light_goldenrod3 tan misty_rose3
thistle3 plum2 khaki3 light_goldenrod2 light_yellow3 grey84 gray84 light_steel_blue1 yellow2
dark_olive_green1 honeydew2 light_cyan1 red1 deep_pink2 deep_pink1 magenta1 orange_red1
indian_red1 hot_pink dark_orange salmon1 light_coral pale_violet_red1 orchid2 orchid1 orange1
sandy_brown light_salmon1 light_pink1 pink1 plum1 gold1 navajo_white1 misty_rose1 thistle1
yellow1 light_goldenrod1 khaki1 wheat1 cornsilk1 grey100 gray100 grey3 gray3 grey7 gray7 grey11
gray11 grey15 gray15 grey19 gray19 grey23 gray23 grey27 gray27 grey30 gray30 grey35 gray35
grey39 gray39 grey42 gray42 grey46 gray46 grey50 gray50 grey54 gray54 grey58 gray58 grey62
gray62 grey66 gray66 grey70 gray70 grey74 gray74 grey78 gray78 grey82 gray82 grey85 gray85
grey89 gray89 grey93 gray93".toList

/-- Whether the character is a digit of a colour in base 16, in small letters. -/
def isHexDigit (c : Char) : Bool := c.isDigit || ('a' ≤ c && c ≤ 'f')

/-- The text between a head and a tail. -/
def between? (head tail s : Text) : Option Text :=
  (Text.dropHead? head s).bind fun rest =>
    if tail.isSuffixOf rest then some (rest.take (rest.length - tail.length)) else none

/-- Whether three parts of a colour are in range. -/
def areColorParts (parts : List Text) : Except NumeralFault Bool := do
  if parts.length ≠ 3 then return false
  let values ← parts.mapM digitsValue
  return values.all (· ≤ 255)

/-- Whether a word in small letters is a colour: its name, its number, or its red, green and blue
parts in base 16 or base 10. -/
def isColor (word : Text) : Except NumeralFault Bool :=
  if word = "default".toList ∨ colorNames.contains word then .ok true
  else match word with
    | '#' :: digits => .ok (digits.length = 6 && digits.all isHexDigit)
    | _ =>
      match between? "color(" ")" word with
      | some digits =>
        .ok (0 < digits.length && digits.length ≤ 3 && digits.all Char.isDigit &&
          numberOfDigits (digits.map fun d => d.toNat - '0'.toNat) ≤ 255)
      | none =>
        match between? "rgb(" ")" word with
        | some parts =>
          if !parts.isEmpty && parts.all fun c => c = ',' || (digitValue? c).isSome then
            areColorParts (Text.splitOn ',' parts)
          else .ok false
        | none => .ok false

/-! ## Styles -/

/-- The flags in the order in which they are written. -/
def styleFlags : List Text :=
  ["bold", "dim", "italic", "underline", "blink", "blink2", "reverse", "conceal", "strike",
    "underline2", "frame", "encircle", "overline"]

/-- The short names of flags. -/
def flagAliases : List (Text × Text) :=
  [("b", "bold"), ("i", "italic"), ("u", "underline"), ("uu", "underline2"), ("d", "dim"),
    ("r", "reverse"), ("s", "strike"), ("c", "conceal"), ("o", "overline")]

/-- The flag of a name. -/
def flagOf? (name : Text) : Option Text :=
  ((flagAliases.find? (·.1 = name)).map (·.2)).or
    (if styleFlags.contains name then some name else none)

/-- What a tag sets. -/
structure TagStyle where
  /-- The flags that are switched on or off. -/
  flags : OrderedMap Bool
  /-- The colour of the text. -/
  color : Option Text
  /-- The colour behind the text. -/
  ground : Option Text
  /-- The address of a link. -/
  link : Option Text

namespace TagStyle

/-- A tag that sets nothing. -/
def plain : TagStyle := ⟨[], none, none, none⟩

/-- What some words set besides what is set already; of two settings the later one counts. -/
def read (style : TagStyle) : List Text → Except NumeralFault (Option TagStyle)
  | [] => .ok (some style)
  | word :: rest =>
    let small := Text.lower word
    if small = "on".toList then
      match rest with
      | [] => .ok none
      | color :: rest => do
        if ← isColor (Text.lower color) then
          read { style with ground := some (Text.lower color) } rest
        else return none
    else if small = "not".toList then
      match rest with
      | [] => .ok none
      | name :: rest =>
        match flagOf? name with
        | some flag => read { style with flags := style.flags.insert flag false } rest
        | none => .ok none
    else if small = "link".toList then
      match rest with
      | [] => .ok none
      | address :: rest => read { style with link := some address } rest
    else match flagOf? small with
      | some flag => read { style with flags := style.flags.insert flag true } rest
      | none => do
        if ← isColor small then read { style with color := some small } rest else return none

/-- The words of a style: flags, colours, link. -/
def words (style : TagStyle) : List Text :=
  let flags := styleFlags.flatMap fun flag =>
    match style.flags.get? flag with
    | some true => [flag]
    | some false => ["not".toList, flag]
    | none => []
  flags ++ style.color.toList ++
    (style.ground.toList.flatMap fun color => ["on".toList, color]) ++
    (style.link.toList.flatMap fun address => ["link".toList, address])

/-- A tag that sets nothing has no words. -/
@[simp] theorem words_plain : plain.words = [] := rfl

end TagStyle

/-- The name of the style of a tag; that of a tag that names no style is its own, in small
letters. -/
def styleName (tag : Text) : Except NumeralFault Text := do
  let words := Text.words tag
  if words = ["none".toList] then return "none"
  match ← TagStyle.plain.read words with
  | some style => return if style.words.isEmpty then "none" else Text.join " " style.words
  | none => return Text.lower (Text.trim tag)

end SchemaDiagram
