import SchemaDiagram.Console.Emoji
import SchemaDiagram.Console.HandlerCall
import SchemaDiagram.Console.TagStyle
import SchemaDiagram.Text.WordChar

/-! # Markup

A line for the console may be marked up with tags in square brackets: `[bold]` opens a style,
`[/bold]` closes it and `[/]` closes the last one that is open. A bracket whose first character is
no small letter, hash sign, slash or at sign is text. A backslash before a tag makes it text; two
backslashes before a tag stand for one. Between the tags emoji may be mentioned by their names. A
console shows no bell, backspace, vertical tab, form feed or carriage return.

* **`escapeMarkup`** — the markup that shows a text as it is.
* **`StyledText.ofMarkup`** — the text of a markup without its tags, with the stretches that they
  style, or what is wrong with it.
* **`StyledText.checkStyles`** — refuses colours that cannot be read. -/

namespace SchemaDiagram

/-! ## Tags -/

/-- Whether a tag can start with the character. -/
def isTagStart (c : Char) : Bool := c.isLower || c = '#' || c = '/' || c = '@'

/-- Whether the character cannot stand inside a tag. -/
def isBracket (c : Char) : Bool := c = '[' || c = ']'

/-- The tag that an opening bracket before the text belongs to. -/
def tagAfter? : Text → Option Text
  | [] => none
  | c :: rest =>
    let body := rest.takeWhile fun d => !isBracket d
    if isTagStart c && (rest.drop body.length).head? = some ']' then some (c :: body) else none

/-- The characters of a run of backslashes. -/
def backslashes (n : Nat) : Text := List.replicate n '\\'

/-! ## Escaping -/

/-- The escaped form of a text that follows `slashes` backslashes not yet written. -/
def escapeFrom (slashes : Nat) : Text → Text
  | [] => backslashes (if slashes = 1 then 2 else slashes)
  | c :: rest =>
    if c = '\\' then escapeFrom (slashes + 1) rest
    else if c = '[' ∧ (tagAfter? rest).isSome then
      backslashes (2 * slashes + 1) ++ c :: escapeFrom 0 rest
    else backslashes slashes ++ c :: escapeFrom 0 rest

/-- The markup that shows a text. A single backslash at the end is written twice, for a tag may
follow. -/
def escapeMarkup (s : Text) : Text := escapeFrom 0 s

/-! ## Reading -/

/-- A piece of markup. -/
inductive MarkupPiece where
  /-- Text. -/
  | words (s : Text)
  /-- A tag with the offset of its bracket. -/
  | tag (offset : Nat) (body : Text)
deriving DecidableEq, Repr

/-- The text with a backslash before an opening bracket left out. -/
def openBrackets : Text → Text
  | '\\' :: '[' :: rest => '[' :: openBrackets rest
  | c :: rest => c :: openBrackets rest
  | [] => []

/-- The pieces of the markup from an offset on, where `pending` is text that has been read before,
the last character first, `slashes` backslashes follow it, and `skip` characters belong to the
last tag. -/
def piecesFrom (offset : Nat) (pending : Text) (slashes skip : Nat) : Text → List MarkupPiece
  | [] => [.words (openBrackets (pending.reverse ++ backslashes slashes))]
  | c :: rest =>
    -- The rest of a tag that has been read already.
    if skip ≠ 0 then piecesFrom (offset + 1) pending slashes (skip - 1) rest
    else if c = '\\' then piecesFrom (offset + 1) pending (slashes + 1) 0 rest
    else match if c = '[' then tagAfter? rest else none with
      | some body =>
        let after := piecesFrom (offset + 1) [] 0 (body.length + 1) rest
        -- Of the backslashes each pair stands for one, and an odd one makes the tag a text.
        .words (openBrackets pending.reverse) :: .words (backslashes (slashes / 2)) ::
          (if slashes % 2 = 1 then .words (concat ["[", body, "]"]) else .tag offset body) :: after
      | none => piecesFrom (offset + 1) (c :: (backslashes slashes ++ pending)) 0 0 rest

/-- The pieces of a markup. -/
def markupPieces (s : Text) : List MarkupPiece := piecesFrom 0 [] 0 0 s

/-- What is wrong with a markup. -/
inductive MarkupFault where
  /-- A closing tag without a name stands where nothing is open. -/
  | nothingOpen (offset : Nat)
  /-- A closing tag closes nothing of its name. -/
  | notOpen (body : Text) (offset : Nat)
  /-- A tag calls something in a way that cannot be read. -/
  | unreadableCall (call : Text) (f : HandlerCall.Fault)
  /-- A colour has a part that is no number. -/
  | unreadableColor (f : NumeralFault)
deriving DecidableEq, Repr

namespace MarkupFault

/-- The wording of a fault. -/
def message : MarkupFault → Text
  | nothingOpen offset =>
    concat ["closing tag '[/]' at position ", Text.ofNat offset, " has nothing to close"]
  | notOpen body offset =>
    concat ["closing tag '[", body, "]' at position ", Text.ofNat offset,
      " doesn't match any open tag"]
  | unreadableCall call f => f.message call
  | unreadableColor f => f.message

/-- The category of a fault. -/
def category : MarkupFault → String
  | unreadableColor _ => "ValueError"
  | _ => "MarkupError"

end MarkupFault

/-! ## Styles that are open -/

/-- A tag that has been opened. -/
structure OpenTag where
  /-- The name of its style. -/
  name : Text
  /-- What stands behind an equals sign. -/
  detail : Option Text
  /-- How many characters of the text stand before it. -/
  place : Nat
deriving DecidableEq, Repr

/-- The name of a style in a markup. -/
def tagStyleName (tag : Text) : Except MarkupFault Text :=
  (styleName tag).mapError .unreadableColor

/-- A tag taken apart at its first equals sign. -/
def tagParts (body : Text) : Text × Option Text :=
  match Text.cutFirst '=' body with
  | some (name, detail) => (name, some detail)
  | none => (body, none)

namespace OpenTag

/-- Whether the tag calls something instead of naming a style. -/
def isHandler (tag : OpenTag) : Bool := tag.name.head? = some '@'

/-- Refuses to close a tag whose call cannot be read. -/
def checkCall (tag : OpenTag) : Except MarkupFault Unit :=
  match tag.isHandler, tag.detail with
  | true, some call => (HandlerCall.check call).mapError (.unreadableCall call)
  | _, _ => .ok ()

/-- Refuses a tag with a colour that cannot be read. It is looked up by the name of its style,
with what stands behind its equals sign. -/
def checkStyle (tag : OpenTag) : Except MarkupFault Unit :=
  if tag.isHandler then .ok ()
  else do
    let _ ← tagStyleName (tag.detail.elim tag.name fun detail => concat [tag.name, " ", detail])

end OpenTag

/-- The tags that are open after another one, the last one first, and the tag that it closes. -/
def afterTag (place : Nat) (opened : List OpenTag) (offset : Nat) (body : Text) :
    Except MarkupFault (List OpenTag × Option OpenTag) := do
  let (name, detail) := tagParts body
  match name with
  | '/' :: name =>
    if Text.isAllBlank name then
      match opened with
      | [] => throw (.nothingOpen offset)
      | last :: before =>
        last.checkCall
        return (before, some last)
    else
      let wanted ← tagStyleName (Text.trim name)
      match opened.find? (·.name = wanted) with
      | none => throw (.notOpen body offset)
      | some tag =>
        tag.checkCall
        return (opened.eraseP (·.name = wanted), some tag)
  | _ => return (⟨← tagStyleName name, detail, place⟩ :: opened, none)

/-! ## Texts with styles -/

/-- Whether the console shows nothing for a character. -/
def isUnshown (c : Char) : Bool :=
  let n := c.toNat
  n = 7 || n = 8 || n = 11 || n = 12 || n = 13

/-- What the console shows for words between tags. -/
def shownWords (s : Text) : Text := (withEmoji s).filter fun c => !isUnshown c

/-- A stretch of a text that a tag styles. -/
structure StyledRange where
  /-- The tag. -/
  tag : OpenTag
  /-- How many characters stand before its end. -/
  stop : Nat
deriving DecidableEq, Repr

/-- A text with the stretches that tags style. -/
structure StyledText where
  /-- The text. -/
  text : Text
  /-- The stretches. -/
  ranges : List StyledRange
deriving DecidableEq, Repr

namespace StyledText

/-- What some pieces show behind `place` characters while some tags are open. Tags that nothing
closes style all that follows. -/
def ofPieces (place : Nat) (opened : List OpenTag) :
    List MarkupPiece → Except MarkupFault StyledText
  | [] => .ok ⟨[], opened.map (⟨·, place⟩)⟩
  | .words s :: rest => do
    let shown := shownWords s
    let after ← ofPieces (place + shown.length) opened rest
    return { after with text := shown ++ after.text }
  | .tag offset body :: rest => do
    let (opened, closed) ← afterTag place opened offset body
    let after ← ofPieces place opened rest
    return { after with ranges := closed.toList.map (⟨·, place⟩) ++ after.ranges }

/-- What a markup shows. -/
def ofMarkup (s : Text) : Except MarkupFault StyledText := ofPieces 0 [] (markupPieces s)

/-- Refuses a text with a colour that cannot be read in a stretch that is shown. -/
def checkStyles (s : StyledText) (isShown : StyledRange → Bool) : Except MarkupFault Unit :=
  (s.ranges.filter isShown).forM (·.tag.checkStyle)

end StyledText

end SchemaDiagram
