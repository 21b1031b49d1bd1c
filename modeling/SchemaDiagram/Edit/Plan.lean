import SchemaDiagram.Edit.Change
import SchemaDiagram.Edit.Splice
import SchemaDiagram.Failure
import SchemaDiagram.Settings.Item
import SchemaDiagram.Source.Block
import SchemaDiagram.Source.Segment

/-! # Planning a change

A change becomes one splice against the text as it is. The block of the entity is looked up in the
tree of the cleaned text, whose offsets are those of the text, and only its settings list or project
body is rewritten.

* **`findTarget?`** — the block that a name denotes.
* **`settingsSplice`**, **`projectSplice`**, **`newProjectSplice`** — the three ways to write.
* **`plan`** — the splice of a change, or why there is none. -/

namespace SchemaDiagram

/-- The block that a name denotes. A table is also found with the default schema added or
removed. -/
def findTarget? (tree : BlockTree) (keyword name : Text) : Option Block :=
  let bare := name.trim
  let named := tree.find keyword name
  -- The exact name wins; only a table may be found under its other spelling.
  let candidates :=
    if !named.isEmpty || keyword != "table".toList then named
    else match Text.dropHead? "public." bare with
      | some short => tree.find keyword short
      | none => if bare.contains '.' then [] else tree.find keyword ("public.".toList ++ bare)
  candidates.find? (·.openBrace.isSome)

/-- The text from offset `cursor` to offset `stop` with stretches replaced. -/
def weave (text : Text) (cursor stop : Nat) : List (Span × Text) → Text
  | [] => text.slice cursor stop
  | (span, replacement) :: rest =>
    text.slice cursor span.start ++ replacement ++ weave text span.stop stop rest

/-- A setting as it is written into a list. -/
def settingText (key value : Text) : Text := concat [key, ": ", value]

/-- The key of a change that an item of a list has; of two keys that differ in case only the last
one. -/
def changedKey? (values : OrderedMap Text) (item : SettingItem) : Option (Text × Text) :=
  values.reverse.find? fun entry => normalizeKey entry.1 = item.key

/-- How an item is rewritten to the new value of its key. -/
def itemReplacement (item : SettingItem) (key value : Text) : Span × Text :=
  match item.valueSpan with
  | none => (item.span, settingText key value)
  | some span => (span, if span.length = 0 then ' ' :: value else value)

/-- The contents of a settings list with the values written into it: known keys in place, the others
at the end. -/
def rewriteSettings (content : Text) (values : OrderedMap Text) : Text :=
  -- Every item of a changed key is rewritten, so that the last one, which counts, is among them.
  let found := (splitSettings content 0).filterMap fun item =>
    (changedKey? values item).map fun (key, value) => (key, itemReplacement item key value)
  let missing := values.filter fun entry => !(found.map (·.1)).contains entry.1
  -- New settings follow the last character that is not blank.
  let kept := Text.trimRight content
  let addition := Text.join ", " (missing.map fun (key, value) => settingText key value)
  let separator : Text :=
    if kept.isEmpty then [] else if kept.getLast? = some ',' then " " else ", "
  let appended := if missing.isEmpty then []
    else [((⟨kept.length, kept.length⟩ : Span), separator ++ addition)]
  weave content 0 content.length (found.map (·.2) ++ appended)

/-- Writes values into the settings list of a block, or a new list before its brace. -/
def settingsSplice (text : Text) (b : Block) (values : OrderedMap Text) : Splice :=
  match b.settingsSpan with
  | some span => ⟨span.start, span.stop, rewriteSettings (span.slice text) values⟩
  | none =>
    let place := b.openBrace.getD b.span.stop
    let inner := Text.join ", " (values.map fun (key, value) => settingText key value)
    ⟨place, place, concat ["[", inner, "] "]⟩

/-- The indentation of a body that gives none. -/
def defaultIndent : Text := "  "

/-- The blanks before the first line or property of a body, where only blanks stand before it. -/
def bodyIndent (text : Text) (b : Block) : Text :=
  match ((b.properties.map (·.span.start)) ++ b.lines.map (·.span.start)).min? with
  | none => defaultIndent
  | some first =>
    let indent := ((text.take first).reverse.takeWhile (· != '\n')).reverse
    if !indent.isEmpty && Text.isAllBlank indent then indent else defaultIndent

/-- Writes values into a project body: known keys in place, the others on new lines at its end. -/
def projectSplice (text : Text) (b : Block) (body : Span) (values : OrderedMap Text) : Splice :=
  let found := b.properties.filterMap fun property =>
    (values.find? fun entry => entry.1.lower = property.key.lower).map fun (key, value) =>
      (key, property.valueSpan, if property.valueSpan.length = 0 then ' ' :: value else value)
  let missing := values.filter fun entry => !(found.map (·.1)).contains entry.1
  let content := body.slice text
  let stop := body.start + (Text.trimRight content).length
  let indent := bodyIndent text b
  let lines := missing.flatMap fun (key, value) => '\n' :: indent ++ settingText key value
  -- The closing brace stays on its own line, or gets one.
  let lineEnd : Text := if (text.slice stop body.stop).contains '\n' then [] else ['\n']
  let appended := if missing.isEmpty then [] else [((⟨stop, stop⟩ : Span), lines ++ lineEnd)]
  let replacements := found.map (·.2) ++ appended
  -- All replacements become one splice from the first to the last of them.
  match replacements.head?, replacements.getLast? with
  | some first, some last =>
    ⟨first.1.start, last.1.stop, weave text first.1.start last.1.stop replacements⟩
  | _, _ => ⟨stop, stop, []⟩

/-- A new project block at the start of the text. -/
def newProjectSplice (name : Option Text) (values : OrderedMap Text) : Splice :=
  -- A double quote in the name would end it early.
  let label := ((name.filter (! ·.isEmpty)).getD "project").filter (· != '"')
  let lines := values.flatMap fun (key, value) => defaultIndent ++ settingText key value ++ ['\n']
  ⟨0, 0, concat ["Project \"", label, "\" \x7b\n", lines, "\x7d\n\n"]⟩

/-- Why a change has no splice. -/
inductive PlanFault where
  /-- The change cannot be written into this text. -/
  | failure (f : Failure)
  /-- A value has no written form. -/
  | unwritableValue

/-- The splice of a change against a text. -/
def plan (text : Text) (change : Change) : Except PlanFault Splice :=
  let kind : Text := change.kind.name
  let invalid (reason : Text) : PlanFault := .failure (.invalidEdit reason [("kind", .text kind)])
  if change.values.isEmpty then .error (invalid "no values to write")
  else if change.values.any (! ·.2.hasWrittenForm) then .error .unwritableValue
  else
    let values := OrderedMap.mapValues formatValue change.values
    let tree := parseBlocks (clean text)
    match change.kind with
    | .project =>
      match (tree.withKeyword "project").findSome? fun b => b.bodySpan.map (b, ·) with
      | none => .ok (newProjectSplice change.identity values)
      | some (b, body) => .ok ((projectSplice text b body values).minimized text)
    | _ =>
      match change.identity.filter (! ·.isEmpty) with
      | none => .error (invalid "missing entity name")
      | some name =>
        match findTarget? tree kind name with
        | none => .error (.failure (.targetNotFound kind name))
        | some b => .ok ((settingsSplice text b values).minimized text)

/-- The text with a change written into it. -/
def preview (text : Text) (change : Change) : Except PlanFault Text :=
  (plan text change).map (·.apply text)

end SchemaDiagram
