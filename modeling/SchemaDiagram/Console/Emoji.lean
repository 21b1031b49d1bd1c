import SchemaDiagram.Console.EmojiName
import SchemaDiagram.Text.LowerCase

/-! # Emoji in a text

A text can mention an emoji by its name between colons, in letters of either case. The name may
end in `-emoji` or `-text`, which asks for the picture or the plain form. Anything else between
two colons stays as it is, and the colons are used up with it.

* **`withEmoji`** — a text with emoji for their names. -/

namespace SchemaDiagram

/-- How an emoji is to be shown, with what is added for that. -/
def emojiForms : List (Text × Text) := [("-emoji", ['\ufe0f']), ("-text", ['\ufe0e'])]

/-- The mention of an emoji without its colons, read as a name and what is added to the emoji. -/
def emojiName (mention : Text) : Text × Text :=
  match emojiForms.find? fun form => form.1.isSuffixOf mention with
  | some (ending, added) => (mention.take (mention.length - ending.length), added)
  | none => (mention, [])

/-- The emoji that a text between two colons mentions. -/
def mentionedEmoji? (mention : Text) : Option Text :=
  let (name, added) := emojiName mention
  (emojiOf? (Text.lower name)).map (· ++ added)

/-- The text before a colon, and the text behind it; no blank may come first. -/
def upToColon? : Text → Option (Text × Text)
  | [] => none
  | c :: rest =>
    if c = ':' then some ([], rest)
    else if isBlank c then none
    else (upToColon? rest).map fun (mention, after) => (c :: mention, after)

/-- What stands behind the colon is shorter. -/
theorem length_lt_of_upToColon? {s mention after : Text}
    (h : upToColon? s = some (mention, after)) : after.length < s.length := by
  induction s generalizing mention with
  | nil => simp [upToColon?] at h
  | cons c rest ih =>
    simp only [upToColon?] at h
    split at h
    · simp_all
    · split at h
      · simp at h
      · simp only [Option.map_eq_some_iff, Prod.exists, Prod.mk.injEq] at h
        obtain ⟨m, a, hm, _, rfl⟩ := h
        exact Nat.lt_succ_of_lt (ih hm)

/-- A text with emoji for their names. -/
def withEmoji : Text → Text
  | [] => []
  | c :: rest =>
    if c = ':' then
      match h : upToColon? rest with
      | some (mention, after) =>
        have := length_lt_of_upToColon? h
        (mentionedEmoji? mention).getD (concat [":", mention, ":"]) ++ withEmoji after
      | none => c :: withEmoji rest
    else c :: withEmoji rest
termination_by s => s.length
decreasing_by
  · simp only [List.length_cons]; omega
  · simp
  · simp

end SchemaDiagram
