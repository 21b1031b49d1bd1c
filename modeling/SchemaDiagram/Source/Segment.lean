import SchemaDiagram.Source.Quote

/-! # Cleaning a source text

A source text is a sequence of *segments*: literals, doc comments (`///` to the line end), other
comments (`//` to the line end, and from `/*` to `*/` or to the end of the text) and single
characters. *Cleaning* writes spaces over the comments that are not doc comments and keeps their
line ends, so that every offset into the cleaned text is an offset into the text.

* **`segments s`** — the segments, which make up the text (`flatMap_text_segments`).
* **`clean s`** — the cleaned text, as long as the text (`length_clean`). -/

namespace SchemaDiagram

/-- A piece of a source text. -/
inductive Segment where
  /-- A character outside all other segments. -/
  | char (c : Char)
  /-- A string literal with its quotes. -/
  | literal (text : Text)
  /-- A doc comment. -/
  | doc (text : Text)
  /-- A comment that is no doc comment. -/
  | comment (text : Text)
deriving DecidableEq, Repr

/-- Spaces in place of the characters, line ends kept. -/
def blankOut (s : Text) : Text := s.map fun c => if c = '\n' then '\n' else ' '

/-- Blanking a text out keeps its length. -/
@[simp] theorem length_blankOut (s : Text) : (blankOut s).length = s.length := by simp [blankOut]

/-- The text up to and with the first end mark `*/`, and the text after it. -/
def takeBlockComment : Text → Text × Text
  | [] => ([], [])
  | '*' :: '/' :: rest => (['*', '/'], rest)
  | c :: rest => let (body, after) := takeBlockComment rest; (c :: body, after)

/-- Cutting a block comment off loses nothing. -/
theorem takeBlockComment_append (s : Text) :
    (takeBlockComment s).1 ++ (takeBlockComment s).2 = s := by
  fun_induction takeBlockComment s with
  | case1 => rfl
  | case2 => rfl
  | case3 _ _ _ _ _ heq ih => rw [heq] at ih; simpa using ih

/-- The text up to the line end, and the text from the line end on. -/
def takeLine (s : Text) : Text × Text := (s.takeWhile (· != '\n'), s.dropWhile (· != '\n'))

/-- Cutting a line off loses nothing. -/
theorem takeLine_append (s : Text) : (takeLine s).1 ++ (takeLine s).2 = s :=
  List.takeWhile_append_dropWhile

namespace Segment

/-- The characters of the segment. -/
def text : Segment → Text
  | char c => [c]
  | literal s | doc s | comment s => s

/-- The characters of the segment after cleaning. -/
def cleaned : Segment → Text
  | comment s => blankOut s
  | segment => segment.text

/-- Cleaning a segment keeps its length. -/
@[simp] theorem length_cleaned (segment : Segment) :
    segment.cleaned.length = segment.text.length := by
  cases segment <;> simp [cleaned, text]

/-- The segment that the text `c :: rest` starts with, and the text after it. -/
def first (c : Char) (rest : Text) : Segment × Text :=
  let s := c :: rest
  match Quote.opening? s with
  | some q => let (body, after) := q.literal s; (literal body, after)
  | none =>
    if "/*".toList.isPrefixOf s then
      let (body, after) := takeBlockComment (s.drop 2)
      (comment ('/' :: '*' :: body), after)
    else if "///".toList.isPrefixOf s then let (body, after) := takeLine s; (doc body, after)
    else if "//".toList.isPrefixOf s then let (body, after) := takeLine s; (comment body, after)
    else (char c, rest)

/-- Cutting the first segment off loses nothing. -/
theorem first_append (c : Char) (rest : Text) :
    (first c rest).1.text ++ (first c rest).2 = c :: rest := by
  unfold first
  dsimp only
  split
  next q hq => exact Quote.literal_append (Quote.isPrefix_of_opening? hq)
  next =>
    split
    next h =>
      have hs := List.prefix_iff_eq_append.1 (List.isPrefixOf_iff_prefix.1 h)
      have hcut := takeBlockComment_append ((c :: rest).drop 2)
      calc _ = '/' :: '*' :: ((takeBlockComment ((c :: rest).drop 2)).1 ++
            (takeBlockComment ((c :: rest).drop 2)).2) := rfl
        _ = "/*".toList ++ (c :: rest).drop 2 := by rw [hcut]; rfl
        _ = c :: rest := hs
    next =>
      split
      next => exact takeLine_append (c :: rest)
      next =>
        split
        next => exact takeLine_append (c :: rest)
        next => rfl

/-- A segment has at least one character. -/
theorem text_first_ne_nil (c : Char) (rest : Text) : (first c rest).1.text ≠ [] := by
  unfold first
  dsimp only
  split
  next q _ => exact Quote.literal_ne_nil q _
  next =>
    split
    next => simp [text]
    next =>
      split
      next h =>
        have hc : c = '/' := by
          have := List.isPrefixOf_iff_prefix.1 h
          exact (List.cons_prefix_cons.1 this).1.symm
        simp [text, takeLine, hc]
      next =>
        split
        next h =>
          have hc : c = '/' := by
            have := List.isPrefixOf_iff_prefix.1 h
            exact (List.cons_prefix_cons.1 this).1.symm
          simp [text, takeLine, hc]
        next => simp [text]

/-- What follows the first segment is shorter than the text. -/
theorem length_first_lt (c : Char) (rest : Text) :
    (first c rest).2.length < (c :: rest).length := by
  have happ := congrArg List.length (first_append c rest)
  have hpos := List.length_pos_iff.2 (text_first_ne_nil c rest)
  rw [List.length_append] at happ
  omega

end Segment

/-- The segments of a source text. -/
def segments : Text → List Segment
  | [] => []
  | c :: rest =>
    let cut := Segment.first c rest
    cut.1 :: segments cut.2
termination_by s => s.length
decreasing_by exact Segment.length_first_lt c rest

@[simp] theorem segments_nil : segments [] = [] := by rw [segments]

/-- A text is cut into its first segment and those of the rest. -/
theorem segments_cons (c : Char) (rest : Text) :
    segments (c :: rest) = (Segment.first c rest).1 :: segments (Segment.first c rest).2 := by
  rw [segments]

/-- The text with its comments written over by spaces. -/
def clean (s : Text) : Text := (segments s).flatMap Segment.cleaned

/-- The segments make up the text. -/
theorem flatMap_text_segments (s : Text) : (segments s).flatMap Segment.text = s := by
  fun_induction segments s with
  | case1 => rfl
  | case2 c rest cut ih => rw [List.flatMap_cons, ih]; exact Segment.first_append c rest

/-- Cleaning keeps every offset. -/
@[simp] theorem length_clean (s : Text) : (clean s).length = s.length := by
  conv => rhs; rw [← flatMap_text_segments s]
  simp [clean, List.length_flatMap]

end SchemaDiagram
