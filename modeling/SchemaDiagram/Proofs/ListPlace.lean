import SchemaDiagram.Proofs.HeaderList
import SchemaDiagram.Proofs.Rewriting
import SchemaDiagram.Proofs.Site

/-! # The place of a settings list

A block with braces has a *place* for a settings list: the text falls apart before the list and
behind it, and so do the tokens. A text with another list at the place has the same tokens before
and behind it, in other places; so its blocks say the same, but for the list.

* **`ListPlace`** — a text that falls apart at the list of a block; `ListPlace.Fits` that the tokens
  do so, too, and `ListPlace.Valid` that the list there is that of the header.
* **`ListPlace.relist`** — the text with another list; `Fits.relist` and `Valid.relist` say that it
  is one of this kind.
* **`Valid.view_block`** — what the block says with another list.
* **`exists_fit`**, **`exists_place`** — every site has a place; `exists_relist` says what the
  blocks of the text are with another list there. -/

namespace SchemaDiagram

/-! ## Lists in brackets -/

/-- The characters of a list with its brackets, or of none. -/
def bracketed : Option Text → Text
  | none => []
  | some content => '[' :: (content ++ [']'])

/-- The tokens of a list with its brackets that starts at the given offset and line, or of none. -/
def bracketedTokens (offset line : Nat) : Option Text → List Token
  | none => []
  | some content =>
    pieceToken .openBracket ['['] offset line ::
      (tokensFrom (offset + 1) line content ++
        [pieceToken .closeBracket [']'] (offset + 1 + content.length) (line + content.count '\n')])

/-- What lies between the brackets of a list that starts at the given offset. -/
def bracketedSpan (offset : Nat) (content : Option Text) : Option Span :=
  content.map fun K => .behind (offset + 1) K

/-- A closing bracket may follow every segment. -/
theorem calm_closeBracket (t : Text) : Calm (']' :: t) := by
  intro c hc
  cases hc
  decide

/-- A closing bracket goes on with no word and no arrow. -/
theorem severs_closeBracket (t : Text) : Severs (']' :: t) := by
  intro c hc
  cases hc
  decide

/-- An opening bracket is a token of its own. -/
theorem piece_openBracket (t : Text) : Piece (some .openBracket) ['['] t :=
  Piece.of_char (c := '[') (by decide) (by decide) (by decide) (by decide) t

/-- A closing bracket is a token of its own. -/
theorem piece_closeBracket (t : Text) : Piece (some .closeBracket) [']'] t :=
  Piece.of_char (c := ']') (by decide) (by decide) (by decide) (by decide) t

/-- The tokens of a well-formed text may be moved anywhere. -/
theorem tokensFrom_eq_map (offset line : Nat) (s : Text) :
    tokensFrom offset (line + 1) s = (tokenize s).map (Token.move offset line) := by
  rw [tokenize, ← tokensFrom_move, Nat.zero_add, Nat.add_comm]

/-- **The tokens of a list** come before those of what stands behind it. -/
theorem tokensFrom_bracketed {content : Option Text} (h : ∀ K ∈ content, IsList K) (behind : Text)
    (o l : Nat) :
    tokensFrom o l (clean (bracketed content ++ behind))
      = bracketedTokens o l content ++
        tokensFrom (o + (bracketed content).length) (l + (bracketed content).count '\n')
          (clean behind) := by
  cases content with
  | none => rfl
  | some K =>
    -- The list is cleaned as it stands, between two brackets that go on with nothing.
    have hK := (h K rfl).settled
    have hopen := (piece_openBracket (K ++ ']' :: behind)).tokensFrom_append o l
    have hmid := tokensFrom_clean_append (hK.joint (calm_closeBracket behind))
      (severs_closeBracket behind) (o + 1) l
    have hclose := (piece_closeBracket behind).tokensFrom_append (o + 1 + K.length)
      (l + K.count '\n')
    have htext : bracketed (some K) ++ behind = ['['] ++ (K ++ ']' :: behind) := by
      simp [bracketed]
    have hlen : o + (bracketed (some K)).length = o + 1 + K.length + 1 := by
      simp [bracketed]
      omega
    have hcount : l + (bracketed (some K)).count '\n' = l + K.count '\n' := by
      simp [bracketed]
    rw [(piece_openBracket (K ++ ']' :: behind)).tokensFrom_eq] at hopen
    rw [(piece_closeBracket behind).tokensFrom_eq, List.singleton_append] at hclose
    rw [hK.clean_eq] at hmid
    rw [htext, hlen, hcount, hopen]
    change _ :: tokensFrom (o + 1) l (clean (K ++ ']' :: behind)) = _
    rw [hmid, hclose, bracketedTokens]
    simp

/-- A well-formed list is cleaned already. -/
theorem clean_bracketed {content : Option Text} (h : ∀ K ∈ content, IsList K) (behind : Text) :
    clean (bracketed content ++ behind) = bracketed content ++ clean behind := by
  cases content with
  | none => rfl
  | some K =>
    have hK := (h K rfl).settled
    have hopen := (piece_openBracket (K ++ ']' :: behind)).joint.clean_append
    have hmid := (hK.joint (calm_closeBracket behind)).clean_append
    have hclose := (piece_closeBracket behind).joint.clean_append
    rw [(piece_openBracket (K ++ ']' :: behind)).clean_eq, hmid, hK.clean_eq] at hopen
    rw [(piece_closeBracket behind).clean_eq, List.singleton_append] at hclose
    rw [hclose] at hopen
    simpa [bracketed] using hopen

/-- The tokens of a well-formed list are those of a list. -/
theorem listTokens_bracketed {content : Option Text} (h : ∀ K ∈ content, IsList K) (o l : Nat) :
    ListTokens (bracketedSpan o content) (bracketedTokens o (l + 1) content) := by
  cases content with
  | none => exact .absent
  | some K =>
    have hopen : (pieceToken .openBracket ['['] o (l + 1)).kind = .openBracket := rfl
    have hclose : (pieceToken .closeBracket [']'] (o + 1 + K.length)
        (l + 1 + K.count '\n')).kind = .closeBracket := rfl
    refine .present hopen hclose ?_
    rw [tokensFrom_eq_map, nesting_map (Keeps.move _ _)]
    exact (h K rfl).nested

/-- The tokens of a quiet list are quiet, and only those. -/
theorem isQuiet_bracketedTokens (o l : Nat) (K : Text) :
    isQuiet (bracketedTokens o (l + 1) (some K)) = isQuiet (tokenize K) := by
  have hopen : ((pieceToken .openBracket ['['] o (l + 1)).kind != .newline) = true := rfl
  have hclose : isQuiet [pieceToken .closeBracket [']'] (o + 1 + K.length)
      (l + 1 + K.count '\n')] = true := rfl
  rw [bracketedTokens, isQuiet, hopen, isQuiet_append (Closes.closeBracket rfl []), hclose,
    tokensFrom_eq_map, isQuiet_map (Keeps.move _ _), Bool.true_or, Bool.true_and, Bool.and_true]

/-! ## Places -/

/-- A text that falls apart at the settings list of a block. The tokens behind the list are those of
the text behind it by itself. -/
structure ListPlace where
  /-- The tokens before the block. -/
  before : List Token
  /-- The doc comments that wait for the block. -/
  doc : List Text
  /-- The first token of the block. -/
  head : Token
  /-- The tokens of the name and the alias. -/
  name : List Token
  /-- The text before the list. -/
  ahead : Text
  /-- What lies between the brackets; nothing where there is no list. -/
  content : Option Text
  /-- How many spaces stand behind the list. -/
  pad : Nat
  /-- The text behind them. -/
  behind : Text
  /-- The tokens between the list and the brace. -/
  rest : List Token
  /-- The opening brace. -/
  brace : Token
  /-- The tokens between the braces. -/
  body : List Token
  /-- The closing brace. -/
  close : Token
  /-- The tokens behind the block. -/
  after : List Token

namespace ListPlace

/-- The text up to what stands behind the list. -/
def lead (p : ListPlace) : Text := p.ahead ++ bracketed p.content ++ List.replicate p.pad ' '

/-- The whole text. -/
def text (p : ListPlace) : Text :=
  p.ahead ++ (bracketed p.content ++ (List.replicate p.pad ' ' ++ p.behind))

/-- The place of a token behind the list in the whole text. -/
def shift (p : ListPlace) : Token → Token := Token.move p.lead.length (1 + p.lead.count '\n')

/-- The tokens of the list with its brackets. -/
def list (p : ListPlace) : List Token :=
  bracketedTokens p.ahead.length (p.ahead.count '\n' + 1) p.content

/-- The tokens behind the list. -/
def tail (p : ListPlace) : List Token := p.rest ++ p.brace :: (p.body ++ p.close :: p.after)

/-- The site of the block in the whole text. -/
def site (p : ListPlace) : Site :=
  { before := p.before
    doc := p.doc
    head := p.head
    header := p.name ++ (p.list ++ p.rest.map p.shift)
    brace := p.shift p.brace
    body := p.body.map p.shift
    close := p.shift p.close
    after := p.after.map p.shift }

/-- The tokens fall apart as the text does, and the block is read. -/
structure Fits (p : ListPlace) : Prop where
  /-- The text before the list ends at a boundary. -/
  joint : Joint p.ahead ['[']
  /-- The tokens before the list are those of the text before it. -/
  ahead : tokenize (clean p.ahead) = p.before ++ p.head :: p.name
  /-- The tokens behind the list are those of the text behind it. -/
  behind : tokensFrom 0 0 (clean p.behind) = p.tail
  /-- A list is well formed. -/
  isList : ∀ K ∈ p.content, IsList K
  /-- A logical line goes through the tokens before the list. -/
  passes : ∀ rest, Closes rest →
    scanLine true [] (p.name ++ rest) = (scanLine true [] rest).prepend p.name
  /-- They make the name of the block, whatever list stands behind them. -/
  label : ∀ rest, EndsName rest →
    (Header.ofTokens (p.name ++ rest)).name = (Header.ofTokens p.site.header).name
  /-- Without a list the brace stands next. -/
  bare : p.content = none → p.rest = [] ∧ p.pad = 0 ∧ p.behind.head? = some '\x7b'
  /-- The block is read at its site. -/
  site : p.site.Valid

/-- The list is that of the header: nothing but a name and an alias stands before it. -/
structure Valid (p : ListPlace) : Prop extends Fits p where
  /-- The tokens before the list are those of a name and an alias. -/
  name : ∀ t ∈ p.name, t.isOfName = true
  /-- They make the same name and alias, whatever list stands behind them. -/
  header : ∃ header : Header, ∀ rest, EndsName rest → Header.ofTokens (p.name ++ rest) =
    { header with
      settingsSpan := (Header.takeSettings rest).1
      leftovers := (Header.takeSettings rest).2.filter (·.kind != .newline) }

variable {p : ListPlace}

/-- Moving the tokens behind a list keeps what they are read as. -/
theorem keeps_shift (p : ListPlace) : Keeps p.shift := Keeps.move _ _

/-- The tokens from the first one of the block on. -/
theorem own_site (p : ListPlace) :
    p.site.own = p.head :: (p.name ++ (p.list ++ p.tail.map p.shift)) := by
  simp [Site.own, Site.braced, site, tail]

/-- Spaces stay as they are. -/
theorem clean_spaces (n : Nat) (s : Text) :
    clean (List.replicate n ' ' ++ s) = List.replicate n ' ' ++ clean s := by
  induction n with
  | zero => rfl
  | succ n ih =>
    have hlead : Segment.Leads (.char ' ') (List.replicate n ' ' ++ s) :=
      .char (by decide) fun h => absurd h (by decide)
    have hclean := hlead.joint.clean_append
    rw [clean_of_leads hlead, ih] at hclean
    exact hclean

/-- Spaces are skipped. -/
theorem tokensFrom_spaces (n o l : Nat) (s : Text) :
    tokensFrom o l (List.replicate n ' ' ++ s) = tokensFrom (o + n) l s := by
  induction n generalizing o with
  | zero => rfl
  | succ n ih =>
    rw [List.replicate_succ, List.cons_append, tokensFrom_blank (by decide) (by decide), ih,
      Nat.add_right_comm, Nat.add_assoc]

/-- What stands behind the text before the list starts with a bracket, or with the brace. -/
theorem Fits.head? (h : p.Fits) :
    (bracketed p.content ++ (List.replicate p.pad ' ' ++ p.behind)).head? = some '[' ∨
      (bracketed p.content ++ (List.replicate p.pad ' ' ++ p.behind)).head? = some '\x7b' := by
  cases hcontent : p.content with
  | some K => exact .inl rfl
  | none =>
    obtain ⟨-, hpad, hhead⟩ := h.bare hcontent
    rw [hpad]
    exact .inr hhead

/-- The text before the list ends at a boundary. -/
theorem Fits.boundary (h : p.Fits) :
    Joint p.ahead (bracketed p.content ++ (List.replicate p.pad ' ' ++ p.behind)) := by
  refine h.joint.swap ?_
  rcases h.head? with hhead | hhead
  · exact .inr (.inl hhead)
  · exact .inr (.inr ⟨'[', '\x7b', rfl, hhead, by decide, by decide⟩)

/-- **The tokens of the text are those at the site.** -/
theorem Fits.tokens (h : p.Fits) : tokenize (clean p.text) = p.site.tokens := by
  -- What stands behind the header starts with a bracket or with the brace.
  have hsevers : Severs (bracketed p.content ++ (List.replicate p.pad ' ' ++ p.behind)) := by
    intro c hc
    rcases h.head? with hhead | hhead
    · obtain rfl := Option.some.inj (hhead.symm.trans hc)
      decide
    · obtain rfl := Option.some.inj (hhead.symm.trans hc)
      decide
  have hmove := tokensFrom_move 0 0 p.lead.length (1 + p.lead.count '\n') (clean p.behind)
  -- The tokens behind are those of what follows, moved by what stands ahead of it.
  have hplace : 0 + p.ahead.length + (bracketed p.content).length + p.pad = 0 + p.lead.length := by
    simp [lead, Nat.add_assoc]
  have hline : 1 + p.ahead.count '\n' + (bracketed p.content).count '\n'
      = 0 + (1 + p.lead.count '\n') := by
    simp [lead, List.count_replicate]
    omega
  rw [text, tokenize, tokensFrom_clean_append h.boundary hsevers, tokensFrom_bracketed h.isList,
    clean_spaces, tokensFrom_spaces, hplace, hline, hmove, h.behind, ← tokenize, h.ahead,
    Nat.zero_add, Nat.add_comm 1, Site.tokens, own_site, List.append_assoc, List.cons_append]
  rfl

/-! ## Other lists at the place -/

/-- The tokens from the opening brace on. -/
def braced (p : ListPlace) : List Token := p.brace :: (p.body ++ p.close :: p.after)

/-- The body behind a list is moved with it. -/
theorem braced_site (p : ListPlace) : p.site.braced = p.braced.map p.shift := by
  simp [Site.braced, site, braced]

/-- The tokens of the list are those of a list. -/
theorem Fits.listTokens (h : p.Fits) :
    ListTokens (bracketedSpan p.ahead.length p.content) p.list :=
  listTokens_bracketed h.isList p.ahead.length (p.ahead.count '\n')

/-- The list, or the brace, goes on with nothing that stands before it. -/
theorem Fits.closes (h : p.Fits) : Closes (p.list ++ p.tail.map p.shift) := by
  cases hcontent : p.content with
  | none =>
    have hbrace : (p.shift p.brace).kind = .openBrace := h.site.brace
    rw [list, hcontent, tail, (h.bare hcontent).1]
    exact Closes.cons _ (by rw [hbrace]; decide)
  | some K =>
    have hlist := h.listTokens
    rw [hcontent] at hlist
    exact hlist.closes _

/-- The tokens behind the list are those before the brace and those from it on. -/
theorem tail_eq (p : ListPlace) : p.tail = p.rest ++ p.braced := rfl

/-- The logical line of the header goes through the list and ends behind it. -/
theorem Fits.line (h : p.Fits) :
    isQuiet p.list = true ∧ ∃ u, scanLine true [] (p.rest.map p.shift ++ p.braced.map p.shift)
      = ⟨p.rest.map p.shift, p.braced.map p.shift, u⟩ := by
  obtain ⟨u, hscan⟩ := h.site.header
  have hheader : p.site.header = p.name ++ (p.list ++ p.rest.map p.shift) := rfl
  have hcloses := h.closes
  rw [tail_eq, List.map_append] at hcloses
  rw [hheader, braced_site, List.append_assoc, List.append_assoc, h.passes _ hcloses] at hscan
  have hlist := LineScan.eq_of_prepend hscan
  have hquiet := h.listTokens.isQuiet_of_scanLine hlist
  rw [h.listTokens.scanLine_eq hquiet] at hlist
  exact ⟨hquiet, u, LineScan.eq_of_prepend hlist⟩

/-- A list that is read is quiet. -/
theorem Fits.quiet (h : p.Fits) : ∀ K ∈ p.content, isQuiet (tokenize K) = true := by
  intro K hK
  have hquiet := h.line.1
  rwa [list, Option.mem_def.1 hK, isQuiet_bracketedTokens] at hquiet

/-- The text with another list at the place. A new list is followed by a space. -/
def relist (p : ListPlace) (K : Text) : ListPlace :=
  { p with
    content := some K
    pad := if p.content.isSome then p.pad else 1 }

/-- **Another list that is well formed and quiet** leaves the tokens before and behind it as they
were. -/
theorem Fits.relist (h : p.Fits) {K : Text} (hK : IsList K) (hq : isQuiet (tokenize K) = true) :
    (p.relist K).Fits := by
  -- The new list is well formed, and it is all that the place has to change.
  have hlist : ∀ K' ∈ (p.relist K).content, IsList K' := by
    intro K' hK'
    cases hK'
    exact hK
  have htokens : ListTokens (bracketedSpan p.ahead.length (some K)) (p.relist K).list :=
    listTokens_bracketed hlist p.ahead.length (p.ahead.count '\n')
  obtain ⟨-, u, hscan⟩ := h.line
  obtain ⟨u', hscan'⟩ := scanLine_moved p.keeps_shift (p.relist K).keeps_shift hscan
  have hheader : (p.relist K).site.header
      = p.name ++ ((p.relist K).list ++ p.rest.map (p.relist K).shift) := rfl
  refine ⟨h.joint, h.ahead, h.behind, hlist, h.passes, fun rest hrest => ?_, (nomatch ·),
    ⟨h.site.head, ⟨u', ?_⟩, h.site.brace, closeBrace_moved p.keeps_shift (p.relist K).keeps_shift
      h.site.close⟩⟩
  · -- The name is told before the list.
    rw [hheader, h.label _ (htokens.endsName _)]
    exact h.label rest hrest
  · -- The line goes through the new list, too, and behind it nothing has changed.
    have hbraced : (p.relist K).site.braced = p.braced.map (p.relist K).shift := braced_site _
    rw [hheader, hbraced, List.append_assoc, List.append_assoc, h.passes _ (htokens.closes _),
      htokens.scanLine_eq ((isQuiet_bracketedTokens _ _ K).trans hq), hscan']
    simp [LineScan.prepend]

/-- It stays the list of the header. -/
theorem Valid.relist (h : p.Valid) {K : Text} (hK : IsList K) (hq : isQuiet (tokenize K) = true) :
    (p.relist K).Valid := ⟨h.toFits.relist hK hq, h.name, h.header⟩

/-- The tokens of another list may stand at the place. -/
theorem Fits.stands (h : p.Fits) {K : Text} (h' : (p.relist K).Fits) :
    Stands p.site.own (p.relist K).site.own := by
  -- Without a list the brace stands next, which is no colon.
  have hcolon : bracketedSpan p.ahead.length p.content = none →
      (p.tail.map p.shift).head?.map (·.kind) ≠ some .colon := by
    intro hnone
    obtain ⟨hrest, -, -⟩ := h.bare (Option.map_eq_none_iff.1 hnone)
    have hbrace : (p.shift p.brace).kind = .openBrace := h.site.brace
    rw [tail, hrest, List.nil_append, List.map_cons, List.head?_cons, Option.map_some, hbrace]
    decide
  rw [own_site, own_site]
  -- The lists open and close no brace, so the same brace closes what stands behind them.
  refine Stands.of_word h.site.head p.name (h.listTokens.head?_ne_colon hcolon)
    (h'.listTokens.head?_ne_colon (nomatch ·)) fun depth hnone => ?_
  rw [h.listTokens.closeBrace_eq_none, closeBrace_map p.keeps_shift,
    Option.map_eq_none_iff] at hnone
  rw [h'.listTokens.closeBrace_eq_none, closeBrace_map (p.relist K).keeps_shift,
    Option.map_eq_none_iff]
  exact hnone

/-! ## What the blocks say -/

/-- The text is cleaned part by part. -/
theorem Fits.clean_text (h : p.Fits) :
    clean p.text
      = clean p.ahead ++ (bracketed p.content ++ (List.replicate p.pad ' ' ++ clean p.behind)) := by
  rw [text, h.boundary.clean_append, clean_bracketed h.isList, clean_spaces]

/-- A stretch behind the list is one of the text behind it. -/
theorem Fits.slice_shift (h : p.Fits) {i j : Nat} (hj : j ≤ p.behind.length) :
    (clean p.text).slice (i + p.lead.length) (j + p.lead.length) = (clean p.behind).slice i j := by
  have htext : clean p.text
      = (clean p.ahead ++ bracketed p.content ++ List.replicate p.pad ' ')
        ++ (clean p.behind ++ []) := by
    rw [h.clean_text]
    simp
  have hlen : (clean p.ahead ++ bracketed p.content ++ List.replicate p.pad ' ').length
      = p.lead.length := by
    simp [lead]
  rw [Nat.add_comm i, Nat.add_comm j, ← hlen]
  exact Text.slice_inside htext (by rwa [length_clean])

/-- A stretch before the list is one of the text before it. -/
theorem Fits.slice_ahead (h : p.Fits) {i j : Nat} (hj : j ≤ p.ahead.length) :
    (clean p.text).slice i j = (clean p.ahead).slice i j := by
  have htext : clean p.text = [] ++ (clean p.ahead ++
      (bracketed p.content ++ (List.replicate p.pad ' ' ++ clean p.behind))) := h.clean_text
  have hslice := Text.slice_inside htext (i := i) (j := j) (by rwa [length_clean])
  rwa [List.length_nil, Nat.zero_add, Nat.zero_add] at hslice

/-- The list of the text, and of the cleaned text. -/
theorem Fits.slice_content (h : p.Fits) {span : Span}
    (hspan : bracketedSpan p.ahead.length p.content = some span) :
    some (span.slice (clean p.text)) = p.content ∧ some (span.slice p.text) = p.content := by
  cases hcontent : p.content with
  | none =>
    rw [hcontent] at hspan
    cases hspan
  | some K =>
    rw [hcontent] at hspan
    obtain rfl : Span.behind (p.ahead.length + 1) K = span := Option.some.inj hspan
    -- The list stands as it is in the cleaned text, since it holds no comment.
    have hclean : clean p.text = (clean p.ahead ++ ['[']) ++
        (K ++ (']' :: (List.replicate p.pad ' ' ++ clean p.behind))) := by
      rw [h.clean_text, hcontent]
      simp [bracketed]
    have htext : p.text = (p.ahead ++ ['[']) ++
        (K ++ (']' :: (List.replicate p.pad ' ' ++ p.behind))) := by
      rw [text, hcontent]
      simp [bracketed]
    exact ⟨congrArg some (slice_behind hclean (by simp)),
      congrArg some (slice_behind htext (by simp))⟩

/-- A name ends before the list. -/
theorem Valid.endsName (h : p.Valid) : EndsName (p.list ++ p.rest.map p.shift) := by
  cases hcontent : p.content with
  | none =>
    rw [list, hcontent, (h.bare hcontent).1]
    intro t ht
    cases ht
  | some K =>
    have hlist := h.listTokens
    rw [hcontent] at hlist
    exact hlist.endsName _

/-- The span of the list. -/
theorem Valid.settingsSpan (h : p.Valid) :
    (Header.ofTokens p.site.header).settingsSpan = bracketedSpan p.ahead.length p.content := by
  obtain ⟨header, hheader⟩ := h.header
  have hsite : p.site.header = p.name ++ (p.list ++ p.rest.map p.shift) := rfl
  rw [hsite, hheader _ h.endsName]
  dsimp only
  cases hcontent : p.content with
  | none =>
    rw [list, hcontent, (h.bare hcontent).1]
    rfl
  | some K =>
    have hlist := h.listTokens
    rw [hcontent] at hlist
    exact congrArg Prod.fst (hlist.takeSettings_eq _)

/-- Two texts that differ in the list say the same behind it. -/
theorem Valid.alike (h : p.Valid) {K : Text} (h' : (p.relist K).Valid) :
    Alike (clean p.text) (clean (p.relist K).text) p.shift (p.relist K).shift p.tail := by
  have hbounds : ∀ t ∈ p.tail, t.span.start ≤ p.behind.length ∧ t.span.stop ≤ p.behind.length := by
    intro t ht
    rw [← h.behind] at ht
    have hle := bounds_of_mem_tokensFrom ht
    rw [length_clean] at hle
    omega
  refine ⟨p.keeps_shift, (p.relist K).keeps_shift, fun t ht _ u hu _ => ?_, fun t ht _ u hu _ => ?_⟩
  · exact (h.slice_shift (hbounds u hu).2).trans (h'.slice_shift (hbounds u hu).2).symm
  · exact (h.slice_shift (hbounds u hu).1).trans (h'.slice_shift (hbounds u hu).1).symm

/-- They say the same before it. -/
theorem Valid.alike_before (h : p.Valid) {K : Text} (h' : (p.relist K).Valid) :
    Alike (clean p.text) (clean (p.relist K).text) id id p.before := by
  have hbounds : ∀ t ∈ p.before, t.span.start ≤ p.ahead.length ∧ t.span.stop ≤ p.ahead.length := by
    intro t ht
    have hmem : t ∈ tokenize (clean p.ahead) := by
      rw [h.ahead]
      exact List.mem_append_left _ ht
    have hle := bounds_of_mem_tokensFrom hmem
    rw [length_clean] at hle
    omega
  refine ⟨Keeps.id, Keeps.id, fun t ht _ u hu _ => ?_, fun t ht _ u hu _ => ?_⟩
  · exact (h.slice_ahead (hbounds u hu).2).trans (h'.slice_ahead (hbounds u hu).2).symm
  · exact (h.slice_ahead (hbounds u hu).1).trans (h'.slice_ahead (hbounds u hu).1).symm

/-- The name and the alias stay as they are. -/
theorem Valid.names (h : p.Valid) {K : Text} (h' : (p.relist K).Valid) :
    (Header.ofTokens (p.relist K).site.header).name = (Header.ofTokens p.site.header).name ∧
      (Header.ofTokens (p.relist K).site.header).aliasName
        = (Header.ofTokens p.site.header).aliasName := by
  obtain ⟨header, hheader⟩ := h.header
  have hold : p.site.header = p.name ++ (p.list ++ p.rest.map p.shift) := rfl
  have hnew : (p.relist K).site.header
      = p.name ++ ((p.relist K).list ++ p.rest.map (p.relist K).shift) := rfl
  have hends : EndsName ((p.relist K).list ++ p.rest.map (p.relist K).shift) := h'.endsName
  rw [hold, hnew, hheader _ h.endsName, hheader _ hends]
  exact ⟨rfl, rfl⟩

/-- What a block says of its list. -/
theorem Valid.settings (h : p.Valid) :
    (Header.ofTokens p.site.header).settingsSpan.map (·.slice (clean p.text)) = p.content := by
  rw [h.settingsSpan]
  cases hspan : bracketedSpan p.ahead.length p.content with
  | none => exact (Option.map_eq_none_iff.1 hspan).symm
  | some span => exact (h.slice_content hspan).1

/-- **The block says the same with another list, but for the list.** -/
theorem Valid.view_block (h : p.Valid) {K : Text} (h' : (p.relist K).Valid) :
    ((p.relist K).site.block (clean (p.relist K).text)).view (clean (p.relist K).text)
      = { (p.site.block (clean p.text)).view (clean p.text) with settings := some K } := by
  -- The tokens before and behind the list are read alike.
  have halike := h.alike h'
  have hmem : ∀ t ∈ p.brace :: (p.body ++ [p.close]), t ∈ p.tail := by
    intro t ht
    simp only [tail, List.mem_cons, List.mem_append] at ht ⊢
    tauto
  -- So the body says the same, and its span cuts out the same text.
  have hcontents := contentsFrom_view (halike.mono fun t (ht : t ∈ p.body) => hmem t (by simp [ht]))
    false []
  have hbrace : p.brace.kind = .openBrace := h.site.brace
  have hclose : p.site.close.kind = .closeBrace := kind_of_closeBrace h.site.close
  rw [ListPlace.site, ListPlace.shift, Token.move_kind] at hclose
  have hbody := halike.inner p.brace (hmem _ (by simp)) (by rw [hbrace]; decide) p.close
    (hmem _ (by simp)) (by rw [hclose]; decide)
  -- The name and the alias stand before the list.
  obtain ⟨hname, halias⟩ := h.names h'
  have hsettings : (Header.ofTokens (p.relist K).site.header).settingsSpan.map
      (·.slice (clean (p.relist K).text)) = some K := h'.settings
  simp only [Contents.view, ContentsView.mk.injEq] at hcontents
  obtain ⟨hchildren, hlines, hproperties⟩ := hcontents
  rw [Block.view, Block.view]
  simp only [Site.block, makeBlock, hname, halias, hsettings, BlockView.mk.injEq]
  exact ⟨rfl, trivial, trivial, trivial, rfl, congrArg some hbody.symm, hchildren.symm, hlines.symm,
    hproperties.symm, rfl⟩

end ListPlace

/-! ## Every block has a place -/

/-- Tokens that have been moved can be moved back. -/
theorem exists_moved {n m : Nat} {s : Text} {rest body after : List Token} {brace close : Token}
    (h : tokensFrom n m s = rest ++ brace :: (body ++ close :: after)) :
    ∃ rest₀ brace₀ body₀ close₀ after₀,
      tokensFrom 0 0 s = rest₀ ++ brace₀ :: (body₀ ++ close₀ :: after₀) ∧
        rest = rest₀.map (Token.move n m) ∧ brace = Token.move n m brace₀ ∧
        body = body₀.map (Token.move n m) ∧ close = Token.move n m close₀ ∧
        after = after₀.map (Token.move n m) := by
  -- The tokens at another place are the tokens at the start, moved.
  have hmove := tokensFrom_move 0 0 n m s
  rw [Nat.zero_add, Nat.zero_add, h] at hmove
  obtain ⟨rest₀, tail, htokens, rfl, htail⟩ := List.map_eq_append_iff.1 hmove.symm
  obtain ⟨brace₀, inner, rfl, rfl, hinner⟩ := List.map_eq_cons_iff.1 htail
  obtain ⟨body₀, outer, rfl, rfl, houter⟩ := List.map_eq_append_iff.1 hinner
  obtain ⟨close₀, after₀, rfl, rfl, rfl⟩ := List.map_eq_cons_iff.1 houter
  exact ⟨rest₀, brace₀, body₀, close₀, after₀, htokens, rfl, rfl, rfl, rfl, rfl⟩

/-- **The text falls apart at the brackets of a list** as its tokens do. -/
theorem exists_cut_of_list {text : Text} {front inner back : List Token} {opening close : Token}
    (h : tokenize (clean text) = front ++ opening :: (inner ++ close :: back))
    (hopen : opening.kind = .openBracket) (hclose : close.kind = .closeBracket) :
    ∃ A K B, text = A ++ ('[' :: (K ++ (']' :: B))) ∧ Joint A ('[' :: (K ++ (']' :: B))) ∧
      tokenize (clean A) = front ∧
      opening = pieceToken .openBracket ['['] A.length (A.count '\n' + 1) ∧
      inner = tokensFrom (A.length + 1) (A.count '\n' + 1) (clean K) ∧
      close = pieceToken .closeBracket [']'] (A.length + 1 + K.length)
        (A.count '\n' + 1 + K.count '\n') ∧
      back = tokensFrom (A.length + 1 + K.length + 1) (A.count '\n' + 1 + K.count '\n')
        (clean B) := by
  -- The text is cut at the first bracket, and what stands behind it at the second one.
  obtain ⟨A, k, x, s, rfl, hA, hpiece, htokA, rfl, htokB⟩ :=
    exists_boundary_of_token h (by rw [hopen]; decide)
  obtain rfl : k = .openBracket := hopen
  obtain rfl : x = ['['] := hpiece.eq_char (c := '[') (by decide)
  obtain ⟨K, k, x, B, rfl, -, hpiece', htokK, rfl, htokB'⟩ :=
    exists_boundary_of_token htokB (by rw [hclose]; decide)
  obtain rfl : k = .closeBracket := hclose
  obtain rfl : x = [']'] := hpiece'.eq_char (c := ']') (by decide)
  -- A bracket is no line end, so the lines are those of the texts around it.
  have hcount : (['['] : Text).count '\n' = 0 := by decide
  have hcount' : ([']'] : Text).count '\n' = 0 := by decide
  simp only [Nat.zero_add, List.length_singleton, hcount, hcount', Nat.add_zero, Nat.add_comm 1]
    at htokK htokB' ⊢
  exact ⟨A, K, B, rfl, hA, htokA, rfl, htokK.symm, rfl, htokB'.symm⟩

section

variable {text : Text} {w : Site}

/-- A header without a list and without stray tokens ends with its name and alias. -/
theorem Site.Valid.behindName_eq_nil (h : w.Valid)
    (hnone : (Header.ofTokens w.header).settingsSpan = none)
    (hstray : (Header.ofTokens w.header).leftovers = []) : Header.behindName w.header = [] := by
  obtain ⟨front, hheader, hfront, -⟩ := Header.exists_front w.header
  have hlines := Header.kind_of_mem_behindName hnone hstray
  obtain ⟨u, hscan⟩ := h.header
  cases hbehind : Header.behindName w.header with
  | nil => rfl
  | cons t behind =>
    -- A line end outside brackets would end the header.
    rw [hbehind] at hheader hlines
    have ht : t.kind = .newline := hlines t (List.mem_cons_self ..)
    have hstop : lineStop true [] t (behind ++ w.braced) = some none := by
      rw [lineStop, ht]
      rfl
    rw [hheader, List.append_assoc, scanLine_name hfront, List.cons_append, scanLine_cons, hstop]
      at hscan
    have hnil := LineScan.eq_of_prepend hscan
    simp at hnil

/-- The place of a block with a list. -/
theorem exists_place_of_list (hvalid : w.Valid) (htokens : tokenize (clean text) = w.tokens)
    {span : Span} (hspan : (Header.ofTokens w.header).settingsSpan = some span)
    (hlist : IsList (span.slice text)) :
    ∃ p : ListPlace, p.Valid ∧ p.text = text ∧ p.site = w := by
  -- The brackets are those of the list that the header has.
  obtain ⟨opening, inner, close, after, hbehind, hopen, hclose, rfl⟩ := Header.exists_list hspan
  have hends : EndsName (Header.behindName w.header) := by
    rw [hbehind]
    intro t ht
    cases ht
    exact hopen
  obtain ⟨front, hheader, hfront, hswap⟩ := Header.exists_front w.header
  rw [hbehind] at hheader
  have htext : tokensFrom 0 1 (clean text) = (w.before ++ w.head :: front) ++
      opening :: (inner ++ close :: (after ++ w.braced)) := by
    rw [← tokenize, htokens, Site.tokens, Site.own, hheader]
    simp
  -- The text is cut at both of them.
  have hkind : close.kind = .closeBracket := Header.kind_of_closeBracket? hclose
  obtain ⟨A, K, B, rfl, hA, htokA, rfl, rfl, rfl, htokB⟩ := exists_cut_of_list htext hopen hkind
  have hslice : (Span.behind (A.length + 1) K).slice (A ++ ('[' :: (K ++ (']' :: B)))) = K := by
    have happ : A ++ ('[' :: (K ++ (']' :: B))) = (A ++ ['[']) ++ (K ++ (']' :: B)) := by simp
    exact slice_behind happ (by simp)
  have hK : IsList K := hslice ▸ hlist
  -- The tokens behind the list are those of the rest, moved by what stands ahead of it.
  obtain ⟨rest, brace, body, closing, behind, hB, hrest, hbrace, hbody, hclosing, hbehindB⟩ :=
    exists_moved htokB.symm
  have hplace : A.length + 1 + K.length + 1
      = (A ++ bracketed (some K) ++ List.replicate 0 ' ').length := by
    simp [bracketed]
    omega
  have hline : A.count '\n' + 1 + K.count '\n'
      = 1 + (A ++ bracketed (some K) ++ List.replicate 0 ' ').count '\n' := by
    simp [bracketed]
    omega
  rw [hplace, hline] at hrest hbrace hbody hclosing hbehindB
  let p : ListPlace :=
    { before := w.before
      doc := w.doc
      head := w.head
      name := front
      ahead := A
      content := some K
      pad := 0
      behind := B
      rest
      brace
      body
      close := closing
      after := behind }
  -- The site with this list is the one of the tokens.
  have hsite : p.site = w := by
    have hheader' : p.site.header = w.header := by
      rw [hheader, hrest, hK.settled.clean_eq]
      simp [p, ListPlace.site, ListPlace.list, bracketedTokens, ListPlace.shift, ListPlace.lead]
    cases w
    simp only [ListPlace.site, Site.mk.injEq] at hheader' ⊢
    exact ⟨rfl, rfl, rfl, hheader', hbrace.symm, hbody.symm, hclosing.symm, hbehindB.symm⟩
  -- The name and the alias are passed by the line, whatever stands behind them.
  have hpasses : ∀ rest, Closes rest →
      scanLine true [] (front ++ rest) = (scanLine true [] rest).prepend front :=
    fun rest _ => scanLine_name hfront rest
  refine ⟨p, ⟨⟨hA.swap (.inr (.inl rfl)), htokA, hB, ?_, hpasses, fun rest hrest =>
    ?_, ?_, ?_⟩, hfront, ⟨_, hswap hends⟩⟩, ?_, hsite⟩
  · intro K' hK'
    cases hK'
    exact hK
  · rw [hsite]
    change (Header.ofTokens (front ++ rest)).name = _
    rw [hswap hends rest hrest]
  · intro hnone
    cases hnone
  · rw [hsite]
    exact hvalid
  · simp [p, ListPlace.text, bracketed]

/-- The place of a block without a list is before its brace. -/
theorem exists_fit_of_brace (hvalid : w.Valid) (htokens : tokenize (clean text) = w.tokens) :
    ∃ p : ListPlace, p.Fits ∧ p.text = text ∧ p.site = w ∧ p.content = none ∧
    p.name = w.header := by
  -- Without a list the text is cut at the brace.
  have htext : tokensFrom 0 1 (clean text) = (w.before ++ w.head :: w.header) ++
      w.brace :: (w.body ++ w.close :: w.after) := by
    rw [← tokenize, htokens, Site.tokens, Site.own, Site.braced]
    simp
  obtain ⟨A, k, x, B, rfl, hA, hpiece, htokA, hbrace, htokB⟩ :=
    exists_boundary_of_token htext (by rw [hvalid.brace]; decide)
  obtain rfl : k = .openBrace := by
    have hk := hvalid.brace
    rw [hbrace] at hk
    exact hk
  obtain rfl : x = ['\x7b'] := hpiece.eq_char (c := '\x7b') (by decide)
  -- The tokens from the brace on are those of the rest, moved.
  have htokens' : tokensFrom (0 + A.length) (1 + A.count '\n') (clean (['\x7b'] ++ B))
      = [] ++ w.brace :: (w.body ++ w.close :: w.after) := by
    rw [hpiece.tokensFrom_append, hpiece.tokensFrom_eq, htokB, hbrace]
    rfl
  obtain ⟨rest, brace, body, closing, behind, hB, hrest, hbrace', hbody, hclosing, hbehindB⟩ :=
    exists_moved htokens'
  -- No token stands between the header and the brace.
  obtain rfl : rest = [] := List.map_eq_nil_iff.1 hrest.symm
  have hplace : 0 + A.length = (A ++ bracketed none ++ List.replicate 0 ' ').length := by
    simp [bracketed]
  have hline : 1 + A.count '\n'
      = 1 + (A ++ bracketed none ++ List.replicate 0 ' ').count '\n' := by
    simp [bracketed]
  rw [hplace, hline] at hbrace' hbody hclosing hbehindB
  let p : ListPlace :=
    { before := w.before
      doc := w.doc
      head := w.head
      name := w.header
      ahead := A
      content := none
      pad := 0
      behind := ['\x7b'] ++ B
      rest := []
      brace
      body
      close := closing
      after := behind }
  have hsite : p.site = w := by
    have hheader' : p.site.header = w.header := by
      simp [p, ListPlace.site, ListPlace.list, bracketedTokens]
    cases w
    simp only [ListPlace.site, Site.mk.injEq] at hheader' ⊢
    exact ⟨rfl, rfl, rfl, hheader', hbrace'.symm, hbody.symm, hclosing.symm, hbehindB.symm⟩
  refine ⟨p, ⟨hA.swap ?_, htokA, hB, by simp [p], fun rest hrest => ?_, fun rest hrest => ?_,
    fun _ => ⟨rfl, rfl, rfl⟩, ?_⟩, ?_, hsite, rfl, rfl⟩
  · exact .inr (.inr ⟨'\x7b', '[', rfl, rfl, by decide, by decide⟩)
  · obtain ⟨u, hscan⟩ := hvalid.header
    exact scanLine_of_brace hvalid.brace hscan hrest
  · rw [hsite]
    exact Header.name_append w.header hrest
  · rw [hsite]
    exact hvalid
  · simp [p, ListPlace.text, bracketed]

/-- It is the place of a list of the header when no stray token stands before the brace. -/
theorem exists_place_of_brace (hvalid : w.Valid) (htokens : tokenize (clean text) = w.tokens)
    (hnone : (Header.ofTokens w.header).settingsSpan = none)
    (hstray : (Header.ofTokens w.header).leftovers = []) :
    ∃ p : ListPlace, p.Valid ∧ p.text = text ∧ p.site = w := by
  obtain ⟨p, hp, htext, hsite, -, hname⟩ := exists_fit_of_brace hvalid htokens
  obtain ⟨front, hheader, hfront, hswap⟩ := Header.exists_front w.header
  -- Without stray tokens the header ends with the name and the alias.
  have hnil := hvalid.behindName_eq_nil hnone hstray
  have hends : EndsName (Header.behindName w.header) := by
    rw [hnil]
    intro t ht
    cases ht
  rw [hnil, List.append_nil] at hheader
  rw [← hname] at hheader
  exact ⟨p, ⟨hp, hheader ▸ hfront, _, hheader ▸ hswap hends⟩, htext, hsite⟩

/-- **Every site fits a place**, where the list is well formed. -/
theorem exists_fit (hvalid : w.Valid) (htokens : tokenize (clean text) = w.tokens)
    (hlist : ∀ span ∈ (Header.ofTokens w.header).settingsSpan, IsList (span.slice text)) :
    ∃ p : ListPlace, p.Fits ∧ p.text = text ∧ p.site = w ∧
      (Header.ofTokens p.site.header).settingsSpan = bracketedSpan p.ahead.length p.content := by
  cases hspan : (Header.ofTokens w.header).settingsSpan with
  | none =>
    obtain ⟨p, hp, htext, hsite, hcontent, -⟩ := exists_fit_of_brace hvalid htokens
    exact ⟨p, hp, htext, hsite, by rw [hsite, hspan, hcontent]; rfl⟩
  | some span =>
    obtain ⟨p, hp, htext, hsite⟩ := exists_place_of_list hvalid htokens hspan (hlist span hspan)
    exact ⟨p, hp.toFits, htext, hsite, hp.settingsSpan⟩

/-- **Every site has a place**, where the list is well formed or no stray token stands. -/
theorem exists_place (hvalid : w.Valid) (htokens : tokenize (clean text) = w.tokens)
    (hlist : ∀ span ∈ (Header.ofTokens w.header).settingsSpan, IsList (span.slice text))
    (hstray : (Header.ofTokens w.header).settingsSpan = none →
      (Header.ofTokens w.header).leftovers = []) :
    ∃ p : ListPlace, p.Valid ∧ p.text = text ∧ p.site = w := by
  cases hspan : (Header.ofTokens w.header).settingsSpan with
  | none => exact exists_place_of_brace hvalid htokens hspan (hstray hspan)
  | some span => exact exists_place_of_list hvalid htokens hspan (hlist span hspan)

end

/-- **Every block with a keyword and braces has a place**, and another list there leaves the other
blocks as they were. -/
theorem exists_relist {text : Text} {front back : List Block} {b : Block}
    (h : (parseBlocks (clean text)).blocks = front ++ b :: back)
    (hbrace : b.openBrace.isSome = true) (hkeyword : b.keyword ≠ [])
    (hlist : ∀ span ∈ b.settingsSpan, IsList (span.slice text))
    (hstray : b.settingsSpan = none → b.strayTokens (clean text) = []) :
    ∃ p : ListPlace, p.Valid ∧ p.text = text ∧ b = p.site.block (clean text) ∧
      ∀ K, (p.relist K).Valid → ∃ front' back',
        (parseBlocks (clean (p.relist K).text)).blocks
          = front' ++ (p.relist K).site.block (clean (p.relist K).text) :: back' ∧
        front'.map (Block.view (clean (p.relist K).text)) = front.map (Block.view (clean text)) ∧
        back'.map (Block.view (clean (p.relist K).text)) = back.map (Block.view (clean text)) := by
  obtain ⟨w, hvalid, htokens, rfl, rfl, hswap⟩ := exists_site h hbrace hkeyword
  -- The tokens that are left over in the header are the stray tokens of the block.
  have hstray' : (Header.ofTokens w.header).settingsSpan = none →
      (Header.ofTokens w.header).leftovers = [] := by
    intro hnone
    have hnil := hstray hnone
    rwa [Block.strayTokens, Site.headerTokens_block htokens] at hnil
  obtain ⟨p, hp, rfl, rfl⟩ := exists_place hvalid htokens hlist hstray'
  refine ⟨p, hp, rfl, rfl, fun K hK => ?_⟩
  obtain ⟨front', hchildren, hfront⟩ := hswap (clean (p.relist K).text) (p.relist K).site.own
    (hp.stands hK.toFits) (hp.alike_before hK)
  have htokens' : tokenize (clean (p.relist K).text) = p.before ++ (p.relist K).site.own :=
    hK.tokens
  have hdoc : p.site.doc = (p.relist K).site.doc := rfl
  have hbefore : p.site.before = p.before := rfl
  rw [hbefore, hdoc, hK.site.children, ← htokens'] at hchildren
  refine ⟨front', _, hchildren, hfront, ?_⟩
  -- The tokens behind the block are among those behind the list.
  have hafter : ∀ t ∈ p.after, t ∈ p.tail := by
    intro t ht
    simp [ListPlace.tail, ht]
  have hback := contentsFrom_view ((hp.alike hK).mono hafter) true []
  exact (congrArg ContentsView.children hback).symm

end SchemaDiagram
