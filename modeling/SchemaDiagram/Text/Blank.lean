import SchemaDiagram.Text.Basic

/-! # Blanks

The blank characters are the Unicode spaces, the line ends and the separators `U+001C` to `U+001F`.
The zero-width space and the byte order mark are not among them.

* **`isBlank c`** — whether `c` is one.
* **`isSpace c`** — whether `c` is one that is no separator; only these may stand around a numeral.
* **`Text.trim s`** — the text without the blanks at its two ends.
* **`Text.words s`** — the stretches between blanks. -/

namespace SchemaDiagram

/-- Whether a character is blank. -/
def isBlank (c : Char) : Bool :=
  let n := c.toNat
  n = 0x20 || (0x09 ≤ n && n ≤ 0x0d) || (0x1c ≤ n && n ≤ 0x1f) || n = 0x85 || n = 0xa0 || n = 0x1680
    || (0x2000 ≤ n && n ≤ 0x200a) || n = 0x2028 || n = 0x2029 || n = 0x202f || n = 0x205f
    || n = 0x3000

/-- Whether a character is a blank other than the separators `U+001C` to `U+001F`. -/
def isSpace (c : Char) : Bool := isBlank c && !(0x1c ≤ c.toNat && c.toNat ≤ 0x1f)

namespace Text

/-- Whether the text has no character that is not blank. -/
def isAllBlank (s : Text) : Bool := s.all isBlank

/-- The text without the blanks at its start. -/
def trimLeft (s : Text) : Text := s.dropWhile isBlank

/-- The text without the blanks at its end. -/
def trimRight : Text → Text
  | [] => []
  | c :: rest =>
    match trimRight rest with
    | [] => if isBlank c then [] else [c]
    | kept => c :: kept

/-- The text without the blanks at its two ends. -/
def trim (s : Text) : Text := trimRight (trimLeft s)

/-- The text without the spaces at its two ends. -/
def trimSpaces (s : Text) : Text := ((s.dropWhile isSpace).reverse.dropWhile isSpace).reverse

@[simp] theorem trim_nil : trim [] = [] := rfl

/-- What is cut off on the left is blank. -/
theorem takeWhile_append_trimLeft (s : Text) : s.takeWhile isBlank ++ s.trimLeft = s :=
  List.takeWhile_append_dropWhile

/-- What is cut off on the right is blank. -/
theorem exists_eq_trimRight_append (s : Text) :
    ∃ blanks : Text, s = s.trimRight ++ blanks ∧ ∀ c ∈ blanks, isBlank c = true := by
  induction s with
  | nil => exact ⟨[], rfl, by simp⟩
  | cons c rest ih =>
    obtain ⟨blanks, hrest, hall⟩ := ih
    rw [trimRight]
    split
    next hnil =>
      rw [hnil, List.nil_append] at hrest
      split
      next hc =>
        refine ⟨c :: blanks, by rw [hrest]; rfl, ?_⟩
        intro d hd
        rcases List.mem_cons.1 hd with rfl | hd
        · exact hc
        · exact hall d hd
      next => exact ⟨blanks, by rw [hrest]; rfl, hall⟩
    next => exact ⟨blanks, by rw [List.cons_append, ← hrest], hall⟩

/-- The stretches of characters between blanks; `current` is the stretch that is being read. -/
def wordsFrom (current : Text) : Text → List Text
  | [] => if current.isEmpty then [] else [current]
  | c :: rest =>
    if isBlank c then
      if current.isEmpty then wordsFrom [] rest else current :: wordsFrom [] rest
    else wordsFrom (current ++ [c]) rest

/-- The stretches of characters between blanks. -/
def words (s : Text) : List Text := wordsFrom [] s

/-- The words of the text with single spaces between them. -/
def collapse (s : Text) : Text := join [' '] (words s)

end Text

end SchemaDiagram
