import SchemaDiagram.Proofs.Extent
import SchemaDiagram.Proofs.Pieces

/-! # What cleaning leaves and what it writes over

Cleaning writes over comments that are no doc comments, and nothing else. So every offset of the
cleaned text is one of the text, with the same line ends. Tokens are read from the cleaned text, and
their spans are used on the text. Both hold the same characters there: a token stands outside all
comments, line ends apart, and a stretch from token to token is cleaned by itself.

* **`IsLiteral body after`**, **`IsDoc body after`**, **`IsComment body after`** — the characters of
  a literal, of a doc comment and of a comment, told without the scanner that finds them.
* **`Segment.leads_iff_hasShape`** — the scanner cuts off what has such a shape, and nothing else.
* **`Outside front after`** — the place between two parts of a text lies outside every literal, doc
  comment and comment; such places are the boundaries (`outside_iff_joint`).
* **`CommentAt s front body after`** — a comment stands between two parts of a text, and starts
  outside all others; `InComment s i` says that the offset lies in one.
* **`CommentAt.of_joint`** — a comment stands on one side of a boundary.
* **`getElem?_clean_of_inComment`**, **`getElem?_clean_of_not_inComment`** — the cleaned text,
  offset by offset; `clean_offsets` says what it keeps.
* **`not_inComment_of_piece`** — no comment runs into a token.
* **`TokenEdge s i`** — a token that is no line end starts or ends at the offset; such a place is a
  boundary.
* **`tokens_uncovered`** — what stands at the span of a token, and between two edges.
* **`segments_clean`** — the segments of a cleaned text; `clean_idempotent` says that cleaning it
  again does nothing. -/

namespace SchemaDiagram

open Segment (Leads)

/-! ## The shapes of segments -/

/-- **The rest of a literal** behind its opening mark, with its closing mark, and the text after it.
Whether a backslash takes the next character with it, and whether the line end ends a literal that
is left open, differs from kind to kind. -/
inductive LiteralRest (mark : Text) (escapes oneLine : Bool) : Text → Text → Prop
  /-- The closing mark ends the literal. -/
  | closed {after : Text} : LiteralRest mark escapes oneLine mark after
  /-- The text ends, and the literal is left open. -/
  | ended : LiteralRest mark escapes oneLine [] []
  /-- The text ends behind a backslash that has no character to take with it. -/
  | backslash (hescapes : escapes = true) : LiteralRest mark escapes oneLine ['\\'] []
  /-- The line ends, and stays behind the literal. -/
  | lineEnd {after : Text} (honeLine : oneLine = true) :
      LiteralRest mark escapes oneLine [] ('\n' :: after)
  /-- A backslash takes the next character with it, whichever it is. -/
  | escape {body after : Text} (hescapes : escapes = true) (d : Char)
      (h : LiteralRest mark escapes oneLine body after) :
      LiteralRest mark escapes oneLine ('\\' :: d :: body) after
  /-- Every other character belongs to the literal. -/
  | char {c : Char} {body after : Text} (hescape : ¬(c = '\\' ∧ escapes = true))
      (hmark : ¬ mark <+: c :: (body ++ after)) (hline : ¬(c = '\n' ∧ oneLine = true))
      (h : LiteralRest mark escapes oneLine body after) :
      LiteralRest mark escapes oneLine (c :: body) after

/-- **The characters of a literal** with its quotes, and the text after it. -/
inductive IsLiteral : Text → Text → Prop
  /-- Between three single quotes, over lines and with escapes. -/
  | triple {body after : Text}
      (h : LiteralRest ['\x27', '\x27', '\x27'] true false body after) :
      IsLiteral ('\x27' :: '\x27' :: '\x27' :: body) after
  /-- Between single quotes, on one line and with escapes; two more quotes would make three. -/
  | single {body after : Text} (hone : ¬ ['\x27', '\x27'] <+: body ++ after)
      (h : LiteralRest ['\x27'] true true body after) : IsLiteral ('\x27' :: body) after
  /-- Between double quotes, on one line and with escapes. -/
  | double {body after : Text} (h : LiteralRest ['"'] true true body after) :
      IsLiteral ('"' :: body) after
  /-- Between backticks, over lines and without escapes. -/
  | backtick {body after : Text} (h : LiteralRest ['\x60'] false false body after) :
      IsLiteral ('\x60' :: body) after

/-- **The characters of a doc comment**, three slashes up to a line end or to the end of the text,
and the text after it. -/
inductive IsDoc : Text → Text → Prop
  | mk {body after : Text} (hline : '\n' ∉ body) (hend : after = [] ∨ after.head? = some '\n') :
      IsDoc ('/' :: '/' :: '/' :: body) after

/-- **The characters of a comment** that is no doc comment, and the text after it. -/
inductive IsComment : Text → Text → Prop
  /-- Two slashes and no third one, up to a line end or to the end of the text. -/
  | line {body after : Text} (hline : '\n' ∉ body) (hdoc : (body ++ after).head? ≠ some '/')
      (hend : after = [] ∨ after.head? = some '\n') : IsComment ('/' :: '/' :: body) after
  /-- From the start mark to the first end mark behind it. -/
  | closed {body after : Text} (hfirst : ¬ ['*', '/'] <:+: body ++ ['*']) :
      IsComment ('/' :: '*' :: (body ++ ['*', '/'])) after
  /-- From the start mark to the end of the text, where no end mark stands. -/
  | unclosed {body : Text} (hnone : ¬ ['*', '/'] <:+: body) : IsComment ('/' :: '*' :: body) []

/-- **A plain character** starts no literal and no comment in front of the text after it. -/
structure IsPlain (c : Char) (after : Text) : Prop where
  /-- It is none of the three quote characters. -/
  quote : c ≠ '\x27' ∧ c ≠ '"' ∧ c ≠ '\x60'
  /-- A slash has no slash and no star behind it. -/
  slash : c = '/' → after.head? ≠ some '/' ∧ after.head? ≠ some '*'

/-- A segment looks like what it is, in front of the text after it. -/
def Segment.HasShape : Segment → Text → Prop
  | .literal body, after => IsLiteral body after
  | .doc body, after => IsDoc body after
  | .comment body, after => IsComment body after
  | .char c, after => IsPlain c after

/-! ### Literals -/

/-- What is read of a literal has the shape of its rest. -/
theorem literalRest_finish (q : Quote) (s : Text) :
    LiteralRest q.mark q.escapes q.endsAtLine (q.finish s).1 (q.finish s).2 := by
  -- The cases are those of the scanner: each one is a constructor of the shape.
  fun_induction Quote.finish q s with
  | case1 => exact .ended
  | case2 c h => exact h.1 ▸ .backslash h.2
  | case3 c h d rest body after heq ih =>
    rw [heq] at ih
    exact h.1 ▸ .escape h.2 d ih
  | case4 => exact .closed
  | case5 c rest _ _ hline => exact hline.1 ▸ .lineEnd hline.2
  -- The mark is looked for in what is left of the text, which the scanner hands on in two parts.
  | case6 c rest hescape hmark hline body after heq ih =>
    have hrest : body ++ after = rest := by
      have happ := q.finish_append rest
      rwa [heq] at happ
    rw [heq] at ih
    exact .char hescape (by rwa [hrest, ← List.isPrefixOf_iff_prefix]) hline ih

/-- **What has the shape of the rest of a literal is read as one.** -/
theorem LiteralRest.finish_eq {q : Quote} {body after : Text}
    (h : LiteralRest q.mark q.escapes q.endsAtLine body after) :
    q.finish (body ++ after) = (body, after) := by
  induction h with
  | closed => exact q.finish_mark _
  | ended => rfl
  | backslash hescapes => rw [Quote.finish.eq_def]; simp [hescapes]
  | lineEnd honeLine => exact Quote.finish_newline honeLine _
  | escape hescapes d _ ih =>
    rw [List.cons_append, List.cons_append, Quote.finish_backslash hescapes, ih]
  | char hescape hmark hline _ ih =>
    rw [List.cons_append, Quote.finish_cons hescape hmark hline, ih]

/-- A text that starts with the mark of a literal has the shape of one where the scanner reads
one. -/
theorem isLiteral_iff {body after : Text} :
    IsLiteral body after ↔ Leads (.literal body) after := by
  constructor
  · intro h
    cases h with
    | triple h =>
      refine .literal ?_ (LiteralRest.finish_eq (q := .triple) h)
      rw [Quote.mark, List.cons_append, Quote.opening?_cons, if_pos rfl, if_pos ⟨_, rfl⟩]
    | single hone h =>
      refine .literal ?_ (LiteralRest.finish_eq (q := .single) h)
      rw [Quote.mark, List.cons_append, List.nil_append, Quote.opening?_cons, if_pos rfl,
        if_neg hone]
    | double h =>
      refine .literal ?_ (LiteralRest.finish_eq (q := .double) h)
      rw [Quote.mark, List.cons_append, Quote.opening?_cons, if_neg (by decide), if_pos rfl]
    | backtick h =>
      refine .literal ?_ (LiteralRest.finish_eq (q := .backtick) h)
      rw [Quote.mark, List.cons_append, Quote.opening?_cons, if_neg (by decide),
        if_neg (by decide), if_pos rfl]
  · intro h
    cases h with
    | @literal q body after ho hf =>
      have hrest := literalRest_finish q (body ++ after)
      rw [hf] at hrest
      cases q with
      | triple => exact .triple hrest
      | single =>
        refine .single (fun hp => ?_) hrest
        -- Three quotes would have opened the other kind.
        rw [Quote.mark, List.cons_append, List.nil_append, Quote.opening?_cons, if_pos rfl,
          if_pos (show ['\x27', '\x27'] <+: body ++ after from hp)] at ho
        cases ho
      | double => exact .double hrest
      | backtick => exact .backtick hrest

/-! ### Lines and block comments -/

/-- **A line is cut off where its end stands.** -/
theorem takeLine_eq_iff {body after : Text} :
    takeLine (body ++ after) = (body, after) ↔
      '\n' ∉ body ∧ (after = [] ∨ after.head? = some '\n') := by
  constructor
  · intro h
    -- A line end in the part before it would have ended the line there.
    refine ⟨fun hmem => ?_, (takeLine_cases h).1⟩
    have hbody : (body ++ after).takeWhile (· != '\n') = body := (Prod.mk.inj h).1
    rw [← hbody] at hmem
    exact absurd (List.mem_takeWhile_imp hmem) (by decide)
  · rintro ⟨hline, hend⟩
    -- The part is taken character by character, up to the first line end.
    have hbody : ∀ c ∈ body, (c != '\n') = true := fun c hc => bne_iff_ne.2 fun h => hline (h ▸ hc)
    have hafter : ∀ c ∈ after.head?, (c != '\n') = false := by
      intro c hc
      rcases hend with rfl | hend
      · cases hc
      · rw [hend] at hc
        cases hc
        rfl
    obtain ⟨htake, hdrop⟩ := takeWhile_of_head hbody hafter
    exact Prod.ext htake hdrop

/-- A text with a character in front has the end mark in it where it starts there, or further on. -/
theorem endMark_cons {c : Char} {s : Text} :
    ['*', '/'] <:+: c :: s ↔ (c = '*' ∧ s.head? = some '/') ∨ ['*', '/'] <:+: s := by
  rw [List.infix_cons_iff, List.cons_prefix_cons]
  cases s with
  | nil => simp
  | cons d s => simp [eq_comm]

/-- A block comment ends with the first end mark, or with the text. -/
theorem takeBlockComment_endMark (s : Text) :
    (∃ body, (takeBlockComment s).1 = body ++ ['*', '/'] ∧ ¬ ['*', '/'] <:+: body ++ ['*']) ∨
      (takeBlockComment s).2 = [] ∧ ¬ ['*', '/'] <:+: (takeBlockComment s).1 := by
  induction s with
  | nil => exact .inr ⟨rfl, by simp [takeBlockComment]⟩
  | cons c s ih =>
    by_cases hmark : c = '*' ∧ s.head? = some '/'
    · obtain ⟨rest, rfl⟩ := List.head?_eq_some_iff.1 hmark.2
      rw [hmark.1, takeBlockComment_mark]
      exact .inl ⟨[], rfl, by simp [endMark_cons]⟩
    · rw [takeBlockComment_cons hmark]
      -- What is taken starts as the text does, so the character in front starts no end mark.
      have hfront : ∀ {t : Text}, t <+: (takeBlockComment s).1 →
          ¬(c = '*' ∧ t.head? = some '/') := by
        rintro t ht ⟨hc, hslash⟩
        obtain ⟨rest, rfl⟩ := List.head?_eq_some_iff.1 hslash
        obtain ⟨more, hmore⟩ := ht.trans ⟨_, takeBlockComment_append s⟩
        exact hmark ⟨hc, by rw [← hmore]; rfl⟩
      rcases ih with ⟨body, hbody, hfirst⟩ | ⟨hnil, hnone⟩
      · refine .inl ⟨c :: body, by rw [hbody]; rfl, ?_⟩
        rw [List.cons_append, endMark_cons, not_or]
        refine ⟨fun h => hfront ⟨['/'], ?_⟩ h, hfirst⟩
        rw [hbody, List.append_assoc]
        rfl
      · refine .inr ⟨hnil, ?_⟩
        rw [endMark_cons, not_or]
        exact ⟨hfront (List.prefix_refl _), hnone⟩

/-- A block comment is cut off behind its first end mark. -/
theorem takeBlockComment_closed {body : Text} (after : Text)
    (hfirst : ¬ ['*', '/'] <:+: body ++ ['*']) :
    takeBlockComment (body ++ ('*' :: '/' :: after)) = (body ++ ['*', '/'], after) := by
  induction body with
  | nil => exact takeBlockComment_mark after
  | cons c body ih =>
    rw [List.cons_append, endMark_cons, not_or] at hfirst
    have hc : ¬(c = '*' ∧ (body ++ '*' :: '/' :: after).head? = some '/') := by
      cases body with
      | nil => simp
      | cons d body => simpa using hfirst.1
    rw [List.cons_append, takeBlockComment_cons hc, ih hfirst.2, List.cons_append]

/-- A block comment without an end mark is cut off at the end of the text. -/
theorem takeBlockComment_unclosed {body : Text} (hnone : ¬ ['*', '/'] <:+: body) :
    takeBlockComment body = (body, []) := by
  induction body with
  | nil => rfl
  | cons c body ih =>
    rw [endMark_cons, not_or] at hnone
    rw [takeBlockComment_cons hnone.1, ih hnone.2]

/-- What is cut off as a comment is one. -/
theorem isComment_of_leads {body after : Text} (h : Leads (.comment body) after) :
    IsComment body after := by
  cases h with
  | @block body after hcut =>
    -- A block comment is cut off at its mark, or it runs to the end of the text.
    rcases takeBlockComment_endMark (body ++ after) with ⟨inner, hinner, hfirst⟩ | ⟨hnil, hnone⟩
    · rw [hcut] at hinner
      rw [show body = inner ++ ['*', '/'] from hinner]
      exact .closed hfirst
    · rw [hcut] at hnil hnone
      obtain rfl : after = [] := hnil
      exact .unclosed hnone
  | @line body after hdoc hcut =>
    obtain ⟨hline, hend⟩ := takeLine_eq_iff.1 hcut
    exact .line hline hdoc hend

/-- A comment is cut off as one. -/
theorem IsComment.leads {body after : Text} (h : IsComment body after) :
    Leads (.comment body) after := by
  cases h with
  | line hline hdoc hend => exact .line hdoc (takeLine_eq_iff.2 ⟨hline, hend⟩)
  | closed hfirst =>
    refine .block ?_
    rw [List.append_assoc]
    exact takeBlockComment_closed _ hfirst
  | unclosed hnone =>
    refine .block ?_
    rw [List.append_nil]
    exact takeBlockComment_unclosed hnone

/-- The three quote characters. -/
theorem isQuoteChar_eq_false_iff {c : Char} :
    isQuoteChar c = false ↔ c ≠ '\x27' ∧ c ≠ '"' ∧ c ≠ '\x60' := by
  simp [isQuoteChar, and_assoc]

/-- **The scanner cuts off what has the shape of a segment**, and nothing else. -/
theorem Segment.leads_iff_hasShape {segment : Segment} {after : Text} :
    Leads segment after ↔ segment.HasShape after := by
  cases segment with
  | literal body => exact isLiteral_iff.symm
  | comment body => exact ⟨isComment_of_leads, IsComment.leads⟩
  | doc body =>
    constructor
    · rintro (_ | _ | hcut)
      obtain ⟨hline, hend⟩ := takeLine_eq_iff.1 hcut
      exact .mk hline hend
    · rintro ⟨hline, hend⟩
      exact .doc (takeLine_eq_iff.2 ⟨hline, hend⟩)
  | char c =>
    constructor
    · rintro (_ | _ | _ | _ | ⟨hquote, hslash⟩)
      exact ⟨isQuoteChar_eq_false_iff.1 hquote, hslash⟩
    · rintro ⟨hquote, hslash⟩
      exact .char (isQuoteChar_eq_false_iff.2 hquote) hslash

/-! ## Places outside -/

/-- **The place between two parts of a text lies outside every literal, doc comment and comment**:
the part in front of it is made of whole ones and of plain characters, one behind the other. -/
inductive Outside : Text → Text → Prop
  /-- The start of a text. -/
  | start {after : Text} : Outside [] after
  /-- A place further on, behind one more segment. -/
  | behind {segment : Segment} {front after : Text} (hshape : segment.HasShape (front ++ after))
      (h : Outside front after) : Outside (segment.text ++ front) after

/-- A boundary is a place outside. -/
theorem Joint.outside {front after : Text} (h : Joint front after) : Outside front after := by
  induction front using segments_induction with
  | nil => exact .start
  | append segment front hlead ih =>
    obtain ⟨hlead', hjoint⟩ := h.of_segment_append hlead
    exact .behind (Segment.leads_iff_hasShape.1 hlead') (ih hjoint)

/-- **The places outside are the boundaries.** -/
theorem outside_iff_joint {front after : Text} : Outside front after ↔ Joint front after := by
  refine ⟨fun h => ?_, Joint.outside⟩
  induction h with
  | start => exact Joint.nil_left _
  | @behind segment front after hshape _ ih =>
    have hlead := Segment.leads_iff_hasShape.2 hshape
    have hfront : Leads segment front := hlead.of_follows (Follows.of_append front after)
    rw [Joint, List.append_assoc, segments_append hlead, ih, segments_append hfront,
      List.cons_append]

/-! ## Where comments stand -/

/-- **A comment stands between two parts of a text**, and it starts outside every literal and every
doc comment. -/
structure CommentAt (s front body after : Text) : Prop where
  /-- The parts make up the text. -/
  text : s = front ++ (body ++ after)
  /-- The place where it starts lies outside all literals, doc comments and other comments. -/
  outside : Outside front (body ++ after)
  /-- Its characters are those of a comment. -/
  shape : IsComment body after

/-- The offset lies in a comment. -/
def InComment (s : Text) (i : Nat) : Prop :=
  ∃ front body after, CommentAt s front body after ∧ front.length ≤ i ∧
    i < front.length + body.length

namespace CommentAt

variable {s t front body after : Text}

/-- A comment that a text starts with. -/
theorem of_leads (h : Leads (.comment body) after) : CommentAt (body ++ after) [] body after :=
  ⟨rfl, .start, isComment_of_leads h⟩

/-- A comment behind a segment. -/
theorem cons {segment : Segment} (hlead : Leads segment s) (h : CommentAt s front body after) :
    CommentAt (segment.text ++ s) (segment.text ++ front) body after := by
  refine ⟨by rw [h.text, List.append_assoc], .behind ?_ h.outside, h.shape⟩
  rw [← h.text]
  exact Segment.leads_iff_hasShape.1 hlead

/-- The comment is a segment behind those of the part before it. -/
theorem segments_eq (h : CommentAt s front body after) :
    segments s = segments front ++ .comment body :: segments after := by
  rw [h.text, outside_iff_joint.1 h.outside]
  exact congrArg (segments front ++ ·) (segments_append h.shape.leads)

/-- A comment among the segments of a text stands in the text. -/
theorem of_segments {ahead behind : List Segment}
    (h : segments s = ahead ++ .comment body :: behind) :
    ∃ front after, CommentAt s front body after ∧ segments front = ahead ∧
      segments after = behind := by
  induction ahead generalizing s with
  | nil =>
    obtain ⟨after, rfl, hlead, hafter⟩ := eq_of_segments h
    exact ⟨[], after, of_leads hlead, segments_nil, hafter⟩
  | cons segment ahead ih =>
    obtain ⟨rest, rfl, hlead, hrest⟩ := eq_of_segments h
    obtain ⟨front, after, hcomment, rfl, hafter⟩ := ih hrest
    -- The segments in front are those of the whole text, cut off where the comment starts.
    have hfront : Leads segment front := by
      refine hlead.of_follows ?_
      rw [hcomment.text]
      exact Follows.of_append front _
    exact ⟨_, after, hcomment.cons hlead, segments_append hfront, hafter⟩

/-- Cleaning writes over the comment. -/
theorem clean_eq (h : CommentAt s front body after) :
    clean s = clean front ++ (blankOut body ++ clean after) := by
  rw [clean, h.segments_eq, List.flatMap_append, List.flatMap_cons]
  rfl

/-- **A comment stands before a boundary or behind it.** -/
theorem of_joint (hj : Joint s t) (h : CommentAt (s ++ t) front body after) :
    (front.length + body.length ≤ s.length ∧ ∃ after', CommentAt s front body after') ∨
      ∃ front', front = s ++ front' ∧ CommentAt t front' body after := by
  have htext : ∀ {a b : Text}, segments a = segments b → a = b := by
    intro a b hab
    rw [← flatMap_text_segments a, hab, flatMap_text_segments]
  -- Behind the boundary the comment is found among the segments that are left.
  have hbehind : ∀ mid, segments front = segments s ++ mid →
      segments t = mid ++ .comment body :: segments after →
      ∃ front', front = s ++ front' ∧ CommentAt t front' body after := by
    intro mid hfront ht
    obtain ⟨front', after', hcomment, rfl, hafter⟩ := of_segments ht
    obtain rfl := htext hafter
    refine ⟨front', ?_, hcomment⟩
    rw [← flatMap_text_segments front, hfront, List.flatMap_append, flatMap_text_segments,
      flatMap_text_segments]
  have hsegs : segments s ++ segments t = segments front ++ .comment body :: segments after :=
    hj.symm.trans h.segments_eq
  -- The boundary stands before the comment among the segments, or behind it.
  rcases List.append_eq_append_iff.1 hsegs with ⟨mid, hfront, ht⟩ | ⟨mid, hs, hrest⟩
  · exact .inr (hbehind mid hfront ht)
  · cases mid with
    -- Nothing stands between the boundary and the comment.
    | nil => exact .inr (hbehind [] (by simpa using hs.symm) (by simpa using hrest.symm))
    | cons segment mid =>
      obtain ⟨rfl, -⟩ := List.cons.inj hrest
      -- The comment is one of the segments before the boundary, so it ends there.
      obtain ⟨front', after', hcomment, hfront, -⟩ := of_segments hs
      obtain rfl := htext hfront
      refine .inl ⟨?_, after', hcomment⟩
      have hlen := congrArg List.length hcomment.text
      simp only [List.length_append] at hlen
      omega

end CommentAt

/-! ## The cleaned text, offset by offset -/

/-- **Inside a comment stand spaces and the line ends.** -/
theorem getElem?_clean_of_inComment {s : Text} {i : Nat} (h : InComment s i) :
    (clean s)[i]? = s[i]?.map fun c => if c = '\n' then '\n' else ' ' := by
  obtain ⟨front, body, after, hcomment, hle, hlt⟩ := h
  have hlen : (clean front).length = front.length := length_clean front
  rw [hcomment.clean_eq, hcomment.text, List.getElem?_append_right (by omega), hlen,
    List.getElem?_append_right hle, List.getElem?_append_left (by rw [length_blankOut]; omega),
    List.getElem?_append_left (by omega), blankOut, List.getElem?_map]

/-- **Outside all comments stands what stood there.** -/
theorem getElem?_clean_of_not_inComment {s : Text} {i : Nat} (h : ¬ InComment s i) :
    (clean s)[i]? = s[i]? := by
  induction s using segments_induction generalizing i with
  | nil => rw [clean_nil]
  | append segment after hlead ih =>
    have hclean : clean (segment.text ++ after) = segment.cleaned ++ clean after := by
      rw [hlead.joint.clean_append, clean_of_leads hlead]
    have hlen := segment.length_cleaned
    rw [hclean]
    by_cases hi : i < segment.text.length
    · -- In the first segment only a comment is changed, and the place stands in none.
      rw [List.getElem?_append_left (by omega), List.getElem?_append_left hi]
      cases segment with
      | comment body =>
        exact absurd ⟨[], body, after, .of_leads hlead, Nat.zero_le _,
          by simpa [Segment.text] using hi⟩ h
      | _ => rfl
    · rw [List.getElem?_append_right (by omega), List.getElem?_append_right (by omega), hlen]
      -- A comment over the place in the rest would be one in the whole text.
      refine ih fun hin => h ?_
      obtain ⟨front, body, rest, hcomment, hle, hlt⟩ := hin
      refine ⟨_, body, rest, hcomment.cons hlead, ?_, ?_⟩ <;> rw [List.length_append] <;> omega

/-- The line ends stay where they are, and there are no others. -/
theorem getElem?_clean_newline {s : Text} {i : Nat} :
    (clean s)[i]? = some '\n' ↔ s[i]? = some '\n' := by
  by_cases h : InComment s i
  · rw [getElem?_clean_of_inComment h]
    cases s[i]? with
    | none => simp
    | some c => by_cases hc : c = '\n' <;> simp [hc]
  · rw [getElem?_clean_of_not_inComment h]

/-- **Cleaning keeps the offsets of a text**: the cleaned text has the same length and the same line
ends, and where it does not hold the character of the text it holds a space, inside a comment.
Inside comments it holds nothing but spaces and line ends. -/
theorem clean_offsets (s : Text) :
    (clean s).length = s.length ∧
      (∀ i : Nat, (clean s)[i]? = some '\n' ↔ s[i]? = some '\n') ∧
      (∀ i : Nat, (clean s)[i]? = s[i]? ∨ (clean s)[i]? = some ' ' ∧ InComment s i) ∧
      ∀ i : Nat, InComment s i →
      (clean s)[i]? = s[i]?.map fun c => if c = '\n' then '\n' else ' ' := by
  refine ⟨length_clean s, fun _ => getElem?_clean_newline, fun i => ?_,
    fun _ => getElem?_clean_of_inComment⟩
  by_cases h : InComment s i
  · rw [getElem?_clean_of_inComment h]
    cases s[i]? with
    | none => exact .inl rfl
    | some c =>
      -- A line end in a comment is kept, and any other character turns into a space.
      by_cases hc : c = '\n'
      · exact .inl (by simp [hc])
      · exact .inr ⟨by simp [hc], h⟩
  · exact .inl (getElem?_clean_of_not_inComment h)

/-- Comment marks in literals of all four kinds, of which one has an escaped quote, one a backslash
that escapes nothing and one is left open; then in a doc comment. Two comments have quotes in
them. -/
def quotedMarks : Text :=
  "'''a // b''' \"/* c\" `// d\\` 'e\\'// f' /* 'g */ 'h // i\n/// j // k\n// 'l".toList

/-- Of the characters that are no blanks those of the two comments lie in a comment, and no
others. -/
theorem clean_offsets_quotedMarks :
    ∀ i < quotedMarks.length, quotedMarks[i]? ≠ some ' ' → quotedMarks[i]? ≠ some '\n' →
      (InComment quotedMarks i ↔ 38 ≤ i ∧ i < 46 ∨ 66 ≤ i) := by
  have hcleaned : ∀ i < quotedMarks.length, quotedMarks[i]? ≠ some ' ' →
      quotedMarks[i]? ≠ some '\n' →
      (clean quotedMarks)[i]? = if 38 ≤ i ∧ i < 46 ∨ 66 ≤ i then some ' ' else quotedMarks[i]? := by
    decide +kernel
  obtain ⟨-, -, hkept, hcovered⟩ := clean_offsets quotedMarks
  intro i hi hspace hline
  have hclean := hcleaned i hi hspace hline
  refine ⟨fun hin => ?_, fun hrange => ?_⟩
  · by_contra hout
    rw [if_neg hout, hcovered i hin, List.getElem?_eq_getElem hi, Option.map_some] at hclean
    rw [List.getElem?_eq_getElem hi] at hspace hline
    -- A character outside the two stretches is kept, so it is the space or the line end of a
    -- comment.
    split at hclean
    next hc => exact hline (congrArg some hc)
    next => exact hspace hclean.symm
  · rw [if_pos hrange] at hclean
    rcases hkept i with hsame | ⟨-, hin⟩
    · exact absurd (hsame.symm.trans hclean) hspace
    · exact hin

/-! ## Tokens and comments -/

/-- A comment starts with a slash. -/
theorem IsComment.head? {body after : Text} (h : IsComment body after) : body.head? = some '/' := by
  cases h <;> rfl

/-- No comment stands in a text that cleaning leaves as it is. -/
theorem not_commentAt_of_clean_eq {s front body after : Text} (h : clean s = s) :
    ¬ CommentAt s front body after := by
  intro hc
  obtain ⟨rest, rfl⟩ := List.head?_eq_some_iff.1 hc.shape.head?
  have hin : InComment s front.length := ⟨front, _, after, hc, Nat.le_refl _, by simp⟩
  have hclean := getElem?_clean_of_inComment hin
  have hget : s[front.length]? = some '/' := by
    rw [hc.text, List.getElem?_append_right (Nat.le_refl _), Nat.sub_self]
    rfl
  rw [h, hget] at hclean
  exact absurd (Option.some.inj hclean) (by decide)

/-- **No comment runs into a token.** -/
theorem not_inComment_of_piece {s x after : Text} {k : TokenKind} (hj : Joint s (x ++ after))
    (hpiece : Piece (some k) x after) {i : Nat} (hle : s.length ≤ i)
      (hlt : i < s.length + x.length) :
    ¬ InComment (s ++ (x ++ after)) i := by
  rintro ⟨front, body, behind, hcomment, hstart, hstop⟩
  rcases hcomment.of_joint hj with ⟨hbefore, -⟩ | ⟨front', rfl, hcomment'⟩
  · omega
  · rcases hcomment'.of_joint hpiece.joint with ⟨-, behind', hinside⟩ | ⟨front'', rfl, -⟩
    · exact not_commentAt_of_clean_eq hpiece.clean_eq hinside
    · rw [List.length_append, List.length_append] at hstart
      omega

/-! ## Places between tokens -/

/-- A token that is no line end starts or ends at the offset. -/
def TokenEdge (s : Text) (i : Nat) : Prop :=
  ∃ t ∈ tokenize (clean s), t.kind ≠ .newline ∧ (i = t.span.start ∨ i = t.span.stop)

/-- Every token that is no line end is a piece of the text between two boundaries. -/
theorem exists_piece_of_token {s : Text} {t : Token} (h : t ∈ tokenize (clean s))
    (ht : t.kind ≠ .newline) :
    ∃ ahead k x behind, s = ahead ++ (x ++ behind) ∧ Joint ahead (x ++ behind) ∧
      Piece (some k) x behind ∧ t.span = .behind ahead.length x := by
  obtain ⟨front, back, htokens⟩ := List.append_of_mem h
  obtain ⟨ahead, k, x, behind, hs, hj, hpiece, -, rfl, -⟩ := exists_boundary_of_token htokens ht
  refine ⟨ahead, k, x, behind, hs, hj, hpiece, ?_⟩
  have hspan : (pieceToken k x (0 + ahead.length) (1 + ahead.count '\n')).span
      = .behind (0 + ahead.length) x := rfl
  rw [hspan, Nat.zero_add]

/-- The edge of a token is a boundary of the text. -/
theorem TokenEdge.joint {s : Text} {i : Nat} (h : TokenEdge s i) :
    Joint (s.take i) (s.drop i) ∧ i ≤ s.length := by
  obtain ⟨t, ht, hkind, hi⟩ := h
  obtain ⟨ahead, k, x, behind, rfl, hj, hpiece, hspan⟩ := exists_piece_of_token ht hkind
  rw [hspan, Span.behind] at hi
  rcases hi with rfl | rfl
  · rw [List.take_left, List.drop_left]
    exact ⟨hj, by simp⟩
  · rw [← List.length_append, ← List.append_assoc, List.take_left, List.drop_left]
    exact ⟨hj.trans hpiece.joint, by simp⟩

/-- **A stretch from edge to edge is cleaned by itself.** -/
theorem clean_slice {s : Text} {i j : Nat} (hi : TokenEdge s i) (hj : TokenEdge s j) (hij : i ≤ j) :
    clean (s.slice i j) = (clean s).slice i j := by
  obtain ⟨hjoint, hilen⟩ := hi.joint
  obtain ⟨hjoint', hjlen⟩ := hj.joint
  -- The text is cut at both edges, and the stretch is what stands between them.
  have htake : s.take j = s.take i ++ s.slice i j := by
    have hadd := List.take_add (l := s) (i := i) (j := j - i)
    rwa [Nat.add_sub_cancel' hij] at hadd
  have hdrop : s.drop i = s.slice i j ++ s.drop j := by
    have hsplit := List.take_append_drop (j - i) (s.drop i)
    rwa [List.drop_drop, Nat.add_sub_cancel' hij, eq_comm] at hsplit
  -- What stands behind the stretch does not change where the first edge is.
  have hmid : Joint (s.take i) (s.slice i j) := by
    rw [hdrop] at hjoint
    exact hjoint.swap (Follows.of_append _ _)
  have hclean : clean s = clean (s.take i) ++ (clean (s.slice i j) ++ clean (s.drop j)) := by
    have hall := hjoint'.clean_append
    rwa [List.take_append_drop, htake, hmid.clean_append, List.append_assoc] at hall
  have hlen : (clean (s.take i)).length = i := by
    rw [length_clean, List.length_take]
    omega
  have hlen' : (clean (s.slice i j)).length = j - i := by
    rw [length_clean, Text.slice, List.length_take, List.length_drop]
    omega
  have hspan : Span.behind i (clean (s.slice i j)) = ⟨i, j⟩ := by
    rw [Span.behind, hlen', Nat.add_sub_cancel' hij]
  have hslice := slice_behind hclean hlen.symm
  rw [hspan] at hslice
  exact hslice.symm

/-! ## Tokens -/

/-- A line end stands in the text where it stands in the cleaned text. -/
theorem slice_newline {s : Text} {t : Token} (h : t ∈ tokenize (clean s)) (ht : t.kind = .newline) :
    t.span.slice s = t.span.slice (clean s) := by
  -- A line end is one character, and cleaning puts none in and takes none out.
  obtain ⟨front, c, rest, line, hclean, rfl⟩ := exists_lexeme_of_token h
  obtain rfl : c = '\n' := Lexeme.eq_newline_of_kind ht
  have hspan : ((Lexeme.first '\n' rest).toToken (0 + front.length) line).span
      = .behind front.length ['\n'] := by
    rw [Lexeme.first_newline, Nat.zero_add]
    rfl
  have hget : (clean s)[front.length]? = some '\n' := by
    rw [hclean, List.getElem?_append_right (Nat.le_refl _), Nat.sub_self]
    rfl
  have hone : ∀ u : Text, (Span.behind front.length ['\n']).slice u = u[front.length]?.toList := by
    intro u
    simp [Span.behind, Span.slice, Text.slice, List.take_one, List.head?_drop]
  rw [hspan, hone, hone, hget, getElem?_clean_newline.1 hget]

/-- **The tokens of a text stand in the text**: at its span each one has the same characters in the
text as in the cleaned text, and no comment runs into it unless it is a line end. What stands
between two tokens is cleaned by itself. -/
theorem tokens_uncovered (s : Text) :
    (∀ t ∈ tokenize (clean s), t.span.start < t.span.stop ∧ t.span.stop ≤ s.length ∧
      t.span.slice s = t.span.slice (clean s) ∧
      (t.kind ≠ .newline → ∀ i, t.span.start ≤ i → i < t.span.stop → ¬ InComment s i)) ∧
    ∀ i j, TokenEdge s i → TokenEdge s j → i ≤ j →
      clean ((Span.mk i j).slice s) = (Span.mk i j).slice (clean s) := by
  -- A token other than a line end is a piece of the text, which is cleaned as it stands.
  refine ⟨fun t ht => ?_, fun i j hi hj hij => clean_slice hi hj hij⟩
  have hbounds := bounds_of_mem_tokensFrom ht
  rw [length_clean, Nat.zero_add] at hbounds
  refine ⟨(apart_tokensFrom 0 1 (clean s)).own t ht, hbounds.2.2, ?_, fun hkind => ?_⟩
  · by_cases hkind : t.kind = .newline
    · exact slice_newline ht hkind
    · obtain ⟨ahead, k, x, behind, rfl, hj, hpiece, hspan⟩ := exists_piece_of_token ht hkind
      have hclean : clean (ahead ++ (x ++ behind)) = clean ahead ++ (x ++ clean behind) := by
        rw [hj.clean_append, hpiece.joint.clean_append, hpiece.clean_eq]
      rw [hspan, slice_behind rfl rfl, slice_behind hclean (length_clean ahead).symm]
  · obtain ⟨ahead, k, x, behind, rfl, hj, hpiece, hspan⟩ := exists_piece_of_token ht hkind
    rw [hspan]
    exact fun i => not_inComment_of_piece hj hpiece

/-- A block comment of two lines between the words of a line, and a literal that looks like one. -/
def folded : Text := "a int /* one\ntwo */ 'no /* comment */'".toList

/-- The literal of a folded line is read whole, outside the comment. -/
theorem tokens_uncovered_folded :
    ∃ t ∈ tokenize (clean folded), t.kind = .string ∧ t.span = ⟨20, 38⟩ ∧
      t.span.slice folded = "'no /* comment */'".toList ∧ ¬ InComment folded 24 := by
  have htokens : (tokenize (clean folded)).any (fun t => t.kind = .string ∧ t.span = ⟨20, 38⟩ ∧
      t.span.slice (clean folded) = "'no /* comment */'".toList) = true := by decide +kernel
  obtain ⟨t, ht, hall⟩ := List.any_eq_true.1 htokens
  obtain ⟨hkind, hspan, hslice⟩ := of_decide_eq_true hall
  obtain ⟨-, -, hsame, hout⟩ := (tokens_uncovered folded).1 t ht
  refine ⟨t, ht, hkind, hspan, hsame.trans hslice, hout (by rw [hkind]; decide) 24 ?_ ?_⟩ <;>
    rw [hspan] <;> decide

/-- The line end of a comment of two lines is a token, and it stands in the comment. -/
theorem exists_token_inComment : ∃ t ∈ tokenize (clean folded), InComment folded t.span.start := by
  -- What stands in front of the comment ends outside a literal.
  have hjoint :
      Joint "a int ".toList ("/* one\ntwo */".toList ++ " 'no /* comment */'".toList) := by
    unfold Joint
    decide +kernel
  have hcomment : CommentAt folded "a int ".toList "/* one\ntwo */".toList
      " 'no /* comment */'".toList :=
    ⟨by decide, hjoint.outside, isComment_of_leads (.block (by decide))⟩
  have htokens : (tokenize (clean folded)).any (fun t => t.span.start = 12) = true := by
    decide +kernel
  obtain ⟨t, ht, hstart⟩ := List.any_eq_true.1 htokens
  refine ⟨t, ht, _, _, _, hcomment, ?_⟩
  rw [of_decide_eq_true hstart]
  decide

/-! ## Cleaning again -/

namespace Segment

/-- **What a segment is cut into once the text is cleaned**: a comment falls apart into spaces and
line ends, every other segment stays whole. -/
def recut : Segment → List Segment
  | comment s => (blankOut s).map char
  | segment => [segment]

/-- Cleaned again, a segment is what it was cleaned to. -/
theorem flatMap_cleaned_recut (segment : Segment) :
    segment.recut.flatMap cleaned = segment.cleaned := by
  cases segment with
  | comment s =>
    rw [recut, List.flatMap_map]
    exact List.flatMap_singleton' (blankOut s)
  | _ => exact List.append_nil _

end Segment

/-- Written-over characters are segments by themselves, and what follows them is cut by itself. -/
theorem segments_blankOut_append (x t : Text) :
    segments (blankOut x ++ t) = (blankOut x).map .char ++ segments t := by
  induction x with
  | nil => rfl
  | cons c x ih =>
    have hcons : blankOut (c :: x) = (if c = '\n' then '\n' else ' ') :: blankOut x := rfl
    have hspace : isBlank (if c = '\n' then '\n' else ' ') = true := by split <;> decide
    rw [hcons, List.cons_append, List.map_cons, List.cons_append, ← ih]
    exact segments_cons_char (isQuoteChar_of_isBlank hspace) (ne_of_isBlank hspace (by decide)) _

/-- **The segments of a cleaned text** are those of the text, the comments apart. -/
theorem segments_clean (s : Text) : segments (clean s) = (segments s).flatMap Segment.recut := by
  induction s using segments_induction with
  | nil => simp
  | append segment after hlead ih =>
    rw [hlead.joint.clean_append, clean_of_leads hlead, segments_append hlead,
      List.flatMap_cons, ← ih]
    cases segment with
    | comment body => exact segments_blankOut_append body (clean after)
    -- A space in place of the slash of a comment continues no segment in front of it.
    | _ => exact segments_append (hlead.of_follows (follows_clean after))

/-- A cleaned text is left as it is. -/
theorem clean_clean (s : Text) : clean (clean s) = clean s := by
  rw [clean, segments_clean, List.flatMap_assoc, funext Segment.flatMap_cleaned_recut, clean]

/-- **Cleaning is idempotent**: a cleaned text holds no comment, and no literal and no doc comment
of the text has become anything else, nor is there a new one. -/
theorem clean_idempotent (s : Text) :
    clean (clean s) = clean s ∧ segments (clean s) = (segments s).flatMap Segment.recut ∧
      ∀ front body after, ¬ CommentAt (clean s) front body after :=
  ⟨clean_clean s, segments_clean s, fun _ _ _ => not_commentAt_of_clean_eq (clean_clean s)⟩

/-- Marks that meet at the edges of comments make no new ones. -/
example : clean (clean "/ /* x */* '/* y' //z\n/// */ 'open".toList)
    = clean "/ /* x */* '/* y' //z\n/// */ 'open".toList := by decide +kernel

end SchemaDiagram
