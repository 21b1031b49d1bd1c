import SchemaDiagram.Proofs.ValueEdit

/-! # The end of a body

New properties are written behind the last character of a body that is not blank. A comment may
stand there, and then the blanks at its end are cut off it; no statement of the body runs over that
place, since the body is balanced. So the body says what it said when a line end follows it.

* **`Step.extend`** — a statement of a balanced body stays as it is before a line end.
* **`contentsFrom_append`** — what is said before a line end and behind it.
* **`exists_trail`** — the tokens of a body up to its last character that is not blank. -/

namespace SchemaDiagram

open Segment (Leads)

/-! ## Statements before a line end -/

/-- A brace that is owed in balanced tokens is closed in them. -/
theorem exists_closeBrace {tokens : List Token} (h : balance [.closeBrace] tokens = some []) :
    ∃ body close after, closeBrace 0 tokens = some (body, close, after) := by
  have howed : balance ([] ++ .closeBrace :: []) tokens = some [] := h
  have hcases := balance_of_closeBrace howed
  rw [List.count_nil] at hcases
  cases hclose : closeBrace 0 tokens with
  | none =>
    rw [hclose] at hcases
    exact absurd rfl hcases
  | some found => exact ⟨_, _, _, rfl⟩

/-- A body ends where it ends when more tokens follow. -/
theorem closeBrace_extend {depth : Nat} {tokens body after : List Token} {close : Token}
    (h : closeBrace depth tokens = some (body, close, after)) (more : List Token) :
    closeBrace depth (tokens ++ more) = some (body, close, after ++ more) := by
  rw [eq_of_closeBrace h, List.append_assoc, List.cons_append]
  exact closeBrace_swap h (after ++ more)

section

variable {more : List Token} (hmore : ∀ t ∈ more.head?, t.kind = .newline)

include hmore

/-- **A logical line of balanced tokens ends where it ends** when a line end follows. -/
theorem scanLine_extend {opened segment rest tokens : List Token} {owed : List TokenKind}
    {u : Option Token} (hscan : scanLine false opened tokens = ⟨segment, rest, u⟩)
    (h : Tracks opened owed) (hb : balance owed tokens = some []) :
    scanLine false opened (tokens ++ more) = ⟨segment, rest ++ more, u⟩ := by
  induction tokens generalizing opened owed segment with
  | nil =>
    cases hscan
    -- The tokens end here, so no bracket is open, and the line end that follows stops the line.
    obtain rfl : owed = [] := Option.some.inj hb
    obtain rfl : opened = [] := List.length_eq_zero_iff.1 h.length
    have hnone : ∀ t ∈ ([] : List Token), t.isInline = true := by simp
    exact scanLine_flat hnone hmore
  | cons t others ih =>
    -- Where the line stops inside the tokens, it looks at the next token only.
    have hsame : lineStop false opened t (others ++ more) = lineStop false opened t others := by
      simp [lineStop]
    rw [List.cons_append, scanLine_cons, hsame]
    rw [scanLine_cons] at hscan
    cases hstop : lineStop false opened t others with
    | some v =>
      rw [hstop] at hscan
      cases hscan
      rfl
    | none =>
      rw [hstop] at hscan
      rw [balance_cons, Option.bind_eq_some_iff] at hb
      obtain ⟨mid, hmid, hothers⟩ := hb
      generalize hinner : scanLine false (openedBehind opened t) others = scan at hscan
      obtain ⟨segment', rest', u'⟩ := scan
      cases hscan
      rw [ih hinner (h.behind hstop hmid) hothers]
      rfl

/-- **A statement of balanced tokens stays as it is** when a line end follows them. -/
theorem Step.extend {doc doc' : List Text} {tokens rest : List Token} {item : Item}
    (h : Step false doc tokens item doc' rest) (hb : balance [] tokens = some []) :
    Step false doc (tokens ++ more) item doc' (rest ++ more) := by
  -- In balanced tokens every block is closed, whatever follows it.
  have hbrace : ∀ {brace : Token} {behind : List Token}, brace.kind = .openBrace →
      balance [] (brace :: behind) = some [] → ∃ found, closeBrace 0 behind = some found := by
    intro brace behind hkind hbb
    rw [balance_cons, hkind] at hbb
    obtain ⟨body, close, after, hclose⟩ := exists_closeBrace hbb
    exact ⟨_, hclose⟩
  have hline : ∀ {t : Token} {others segment behind : List Token} {u : Option Token},
      t.kind.startsStatement = true → balance [] (t :: others) = some [] →
      scanLine false (openedBy t) others = ⟨segment, behind, u⟩ →
      balance [] behind = some [] ∧
        scanLine false (openedBy t) (others ++ more) = ⟨segment, behind ++ more, u⟩ := by
    intro t others segment behind u hstart hbt hscan
    rw [balance_cons, Option.bind_eq_some_iff] at hbt
    obtain ⟨mid, hmid, hothers⟩ := hbt
    have htracks := Tracks.openedBy hstart hmid
    exact ⟨(balance_of_scanLine hscan htracks hothers).2.1,
      scanLine_extend hmore hscan htracks hothers⟩
  cases h with
  | newline hk => exact .newline hk
  | doc hk => exact .doc hk
  | strayBrace hk =>
    rw [balance_cons, hk] at hb
    cases hb
  -- The block would be closed, against the step.
  | bareUnclosed hk hclose =>
    obtain ⟨found, hfound⟩ := hbrace hk hb
    rw [hclose] at hfound
    cases hfound
  | bareBlock hk hclose => exact .bareBlock hk (closeBrace_extend hclose more)
  | unclosed hstart hscan hkind hclose =>
    obtain ⟨found, hfound⟩ := hbrace hkind (hline hstart hb hscan).1
    rw [hclose] at hfound
    cases hfound
  | block hstart hscan hkind hclose =>
    exact .block hstart (hline hstart hb hscan).2 hkind (closeBrace_extend hclose more)
  | line hstart hscan hnone =>
    refine .line hstart (hline hstart hb hscan).2 fun brace hbr => ?_
    cases rest with
    -- The line goes on up to the end of the tokens, and there is a line end behind it.
    | nil =>
      rw [hmore brace hbr]
      decide
    | cons t rest => exact hnone brace hbr

end

/-- **Balanced tokens say what they say when a line end follows them**, and then the rest is
said. -/
theorem contentsFrom_append {tokens : List Token} (hb : balance [] tokens = some [])
    (doc : List Text) : ∃ doc', ∀ (s : Text) (more : List Token),
      (∀ t ∈ more.head?, t.kind = .newline) →
      (contentsFrom s false doc (tokens ++ more)).view s
          = (contentsFrom s false doc tokens).view s ++ (contentsFrom s false doc' more).view s ∧
        (contentsFrom s false doc (tokens ++ more)).valueSpans
          = (contentsFrom s false doc tokens).valueSpans
            ++ (contentsFrom s false doc' more).valueSpans := by
  -- The doc comments that are collected behind the tokens depend on the tokens only.
  induction doc, tokens using steps_induction false with
  | nil doc =>
    refine ⟨doc, fun s more _ => ?_⟩
    rw [contentsFrom_nil]
    exact ⟨rfl, rfl⟩
  | step doc t others item doc' rest hstep ih =>
    obtain ⟨doc'', hrest⟩ := ih (hstep.balance_rest hb)
    refine ⟨doc'', fun s more hmore => ?_⟩
    obtain ⟨hview, hspans⟩ := hrest s more hmore
    have hstep' := hstep.extend hmore hb
    refine ⟨?_, ?_⟩
    · rw [hstep'.view s, hstep.view s, hview, ContentsView.append_assoc]
    · rw [hstep'.valueSpans s s, hstep.valueSpans s s, hspans, List.append_assoc]

/-- Line ends say nothing. -/
theorem contentsFrom_newlines {tokens : List Token} (h : ∀ t ∈ tokens, t.kind = .newline) (s : Text)
    (doc : List Text) : contentsFrom s false doc tokens = .empty := by
  induction tokens with
  | nil => exact contentsFrom_nil
  | cons t tokens ih =>
    rw [contentsFrom_newline (h t (List.mem_cons_self ..))]
    exact ih fun u hu => h u (List.mem_cons_of_mem _ hu)

/-! ## Shorter doc comments -/

/-- The token that ends at a place at the latest, if it is a doc comment. -/
def Token.clip (n : Nat) (t : Token) : Token :=
  if t.kind = .doc then { t with span := ⟨t.span.start, min t.span.stop n⟩ } else t

/-- Only doc comments are cut. -/
theorem Token.clip_of_ne {n : Nat} {t : Token} (h : t.kind ≠ .doc) : t.clip n = t := if_neg h

/-- A token that ends before the place stays as it is. -/
theorem Token.clip_of_le {n : Nat} {t : Token} (h : t.span.stop ≤ n) : t.clip n = t := by
  rw [clip, Nat.min_eq_left h]
  exact ite_self t

/-- Cutting doc comments keeps what a token is read as. -/
theorem Keeps.clip (n : Nat) : Keeps (Token.clip n) := by
  refine ⟨fun t => ?_, fun t => ?_⟩
  · rw [Token.clip]
    split <;> rfl
  · rw [Token.clip]
    split <;> rfl

/-- Where the value of a property stands does not depend on doc comments. -/
theorem readBodyLine_clip (s s' : Text) (n : Nat) (doc : List Text) {t : Token} (ht : t.kind ≠ .doc)
    (others : List Token) :
    (readBodyLine s doc (t.clip n) (others.map (Token.clip n))).map (fun _ => ()) Property.valueSpan
      = (readBodyLine s' doc t others).map (fun _ => ()) (id ∘ Property.valueSpan) := by
  -- Neither the colon nor the value is a doc comment, so both keep their ends.
  have hfilter : (others.map (Token.clip n)).filter (·.kind != .doc)
      = others.filter (·.kind != .doc) := by
    rw [(Keeps.clip n).filter_kind (· != .doc)]
    refine (List.map_congr_left fun u hu => ?_).trans (List.map_id _)
    exact Token.clip_of_ne (by simpa using (List.mem_filter.1 hu).2)
  unfold readBodyLine
  rw [hfilter, Token.clip_of_ne ht]
  dsimp only
  split
  next => split <;> rfl
  next => rfl

/-- Where the values of contents stand does not depend on doc comments. -/
theorem valueSpans_clip (s s' : Text) (n : Nat) (doc : List Text) (tokens : List Token) :
    (contentsFrom s false doc (tokens.map (Token.clip n))).valueSpans
      = (contentsFrom s' false doc tokens).valueSpans := by
  have hmap := valueSpans_map (Keeps.clip n) (fun doc _ ht others =>
    readBodyLine_clip s s' n doc ht others) doc tokens
  rwa [List.map_id] at hmap

/-! ## Blanks at the end of a body -/

namespace Text

/-- What is cut off on the right is cut off the last text that is not blank. -/
theorem trimRight_append_of_ne_nil (s : Text) {t : Text} (h : trimRight t ≠ []) :
    trimRight (s ++ t) = s ++ trimRight t := by
  induction s with
  | nil => rfl
  | cons c s ih =>
    obtain ⟨d, kept, hkept⟩ := List.exists_cons_of_ne_nil (List.append_ne_nil_of_right_ne_nil s h)
    rw [List.cons_append, trimRight, ih, hkept, List.cons_append, hkept]

/-- Where all of the last text is cut off, it is blank. -/
theorem allBlank_of_trimRight {t : Text} (h : trimRight t = []) : AllBlank t := by
  obtain ⟨blanks, hblanks, hall⟩ := exists_eq_trimRight_append t
  rw [h, List.nil_append] at hblanks
  rwa [hblanks]

/-- Blanks that have been cut off on the right do not count. -/
theorem trim_trimRight (s : Text) : trim (trimRight s) = trim s := by
  obtain ⟨blanks, hblanks, hall⟩ := exists_eq_trimRight_append s
  obtain ⟨lead, trail, htrim, hlead, htrail⟩ := exists_eq_trim (trimRight s)
  have htail : AllBlank (trail ++ blanks) := List.forall_mem_append.2 ⟨htrail, hall⟩
  have htext : s = lead ++ (trim (trimRight s) ++ (trail ++ blanks)) :=
    calc s = trimRight s ++ blanks := hblanks
      _ = lead ++ (trim (trimRight s) ++ trail) ++ blanks := congrArg (· ++ blanks) htrim
      _ = lead ++ (trim (trimRight s) ++ (trail ++ blanks)) := by simp
  exact (trim_eq hlead (trimmed_trim (trimRight s)) htail).symm.trans (congrArg trim htext).symm

end Text

/-- Whether a literal is closed: it takes nothing from a blank behind it. -/
def isClosed (x : Text) : Bool :=
  match Quote.opening? x with
  | some q => (q.literal (x ++ [' '])).1 == x
  | none => false

/-- Every literal of the body is closed. -/
def HasClosedLiterals (X : Text) : Prop :=
  ∀ t ∈ tokenize (clean X), t.kind = .string → isClosed t.value = true

instance (X : Text) : Decidable (HasClosedLiterals X) := by
  unfold HasClosedLiterals
  infer_instance

/-- **A closed literal ends with a quote.** -/
theorem getLast?_of_isClosed {x : Text} (h : isClosed x = true) :
    ∃ m, x.getLast? = some m ∧ isBlank m = false := by
  rw [isClosed] at h
  cases hopen : Quote.opening? x with
  | none =>
    rw [hopen] at h
    cases h
  | some q =>
    rw [hopen] at h
    obtain ⟨body, rfl⟩ := Quote.isPrefix_of_opening? hopen
    replace h : (q.literal (q.mark ++ body ++ [' '])).1 = q.mark ++ body := by simpa using h
    rw [Quote.literal, List.append_assoc, List.drop_left] at h
    -- The space behind the literal is not taken, so the literal ends with its mark.
    have happ := q.finish_append (body ++ [' '])
    generalize hfinish : q.finish (body ++ [' ']) = cut at h happ
    obtain ⟨inner, after⟩ := cut
    obtain rfl : inner = body := List.append_cancel_left h
    obtain rfl : after = [' '] := List.append_cancel_left happ
    -- It is closed by the mark, for the text goes on, and with no line end.
    have hmark : q.mark <:+ inner := by
      rcases Quote.finish_cases hfinish with ⟨hmark, -⟩ | hnil | ⟨-, hline, -⟩
      · exact hmark
      · cases hnil
      · cases hline
    obtain ⟨front, rfl⟩ := hmark
    -- The mark ends with a quote, of whatever kind it is.
    obtain ⟨rest, m, hm, hblank⟩ : ∃ rest m, q.mark = rest ++ [m] ∧ isBlank m = false := by
      cases q with
      | triple => exact ⟨['\x27', '\x27'], _, rfl, by decide⟩
      | single => exact ⟨[], _, rfl, by decide⟩
      | double => exact ⟨[], _, rfl, by decide⟩
      | backtick => exact ⟨[], _, rfl, by decide⟩
    have htext : q.mark ++ (front ++ q.mark) = q.mark ++ front ++ rest ++ [m] := by
      rw [List.append_assoc, List.append_assoc, ← hm]
    exact ⟨m, by rw [htext, List.getLast?_concat], hblank⟩

/-! ## Segments before a line end -/

/-- **A segment that does not run to the end of the text** stays as it is before a line end. -/
theorem Segment.Leads.newline {segment : Segment} {after : Text} (h : Leads segment after)
    (hne : after ≠ []) (z : Text) : Leads segment ('\n' :: z) := by
  -- A comment up to the end of its line is followed by a line end already.
  have hline : ∀ {body : Text}, takeLine (body ++ after) = (body, after) →
      Follows after ('\n' :: z) := by
    intro body hcut
    rcases (takeLine_cases hcut).1 with hnil | hhead
    · exact absurd hnil hne
    · exact .inr (.inl hhead.symm)
  cases h with
  -- A literal ends with its mark or at a line end, and either way it may be followed by a line end.
  | @literal q body _ hopen hfinish =>
    have hfinish' : q.finish (body ++ '\n' :: z) = (body, '\n' :: z) := by
      rcases Quote.finish_cases hfinish with ⟨-, hall⟩ | hnil | ⟨-, -, hall⟩
      · exact hall _
      · exact absurd hnil hne
      · exact hall _ (.inr rfl)
    refine .literal (Quote.opening?_of_finish hopen hfinish' fun hquote => ?_) hfinish'
    cases hquote
  -- A block comment that does not run to the end is closed.
  | block hcut =>
    rcases takeBlockComment_cases hcut with ⟨-, hall⟩ | hnil
    · exact .block (hall _)
    · exact absurd hnil hne
  | doc hcut => exact (Leads.doc hcut).of_follows (hline hcut)
  | line hs hcut => exact (Leads.line hs hcut).of_follows (hline hcut)
  | char hq hc => exact .char hq fun heq => ⟨by simp, by simp⟩

/-- A block comment that is closed ends with a slash. -/
theorem getLast?_takeBlockComment {s : Text} (h : (takeBlockComment s).2 ≠ []) :
    (takeBlockComment s).1.getLast? = some '/' := by
  fun_induction takeBlockComment s with
  | case1 => exact absurd rfl h
  | case2 => rfl
  | case3 c rest _ body after heq ih =>
    rw [heq] at ih
    rw [List.getLast?_cons, ih h]
    rfl

/-- No line end stands in a line. -/
theorem not_mem_of_takeLine {body after : Text} (h : takeLine (body ++ after) = (body, after)) :
    '\n' ∉ body := by
  intro hmem
  have hbody : (body ++ after).takeWhile (· != '\n') = body := congrArg Prod.fst h
  rw [← hbody] at hmem
  simpa using List.mem_takeWhile_imp hmem

/-- A line without the blanks at its end is a line. -/
theorem takeLine_trimRight {body : Text} (h : '\n' ∉ body) (z : Text) :
    takeLine (Text.trimRight body ++ '\n' :: z) = (Text.trimRight body, '\n' :: z) := by
  obtain ⟨blanks, hblanks, -⟩ := Text.exists_eq_trimRight_append body
  have hchars : ∀ c ∈ Text.trimRight body, (c != '\n') = true := by
    intro c hc
    have hmem : c ∈ body := by
      rw [hblanks]
      exact List.mem_append_left _ hc
    simpa using fun heq : c = '\n' => h (heq ▸ hmem)
  have hcut := takeWhile_of_head (z := '\n' :: z) hchars (by simp)
  exact Prod.ext hcut.1 hcut.2

/-! ## The last character of a body -/

/-- **The tokens of a body up to its last character that is not blank**: those of the body without
the line ends behind it, and a doc comment there is cut off. A line end may follow. -/
structure Trail (X : Text) (o l : Nat) (front ends : List Token) : Prop where
  /-- The body ends at a boundary before a line end. -/
  joint : ∀ z : Text, Joint (Text.trimRight X) ('\n' :: z)
  /-- The tokens of the body. -/
  tokens : tokensFrom o l (clean X) = front ++ ends
  /-- Line ends stand at its end. -/
  ends : ∀ t ∈ ends, t.kind = .newline
  /-- The tokens without the blanks there. -/
  kept : tokensFrom o l (clean (Text.trimRight X))
    = front.map (Token.clip (o + (Text.trimRight X).length))
  /-- The cleaned body starts with the cleaned text without the blanks. -/
  clean : clean (Text.trimRight X) <+: clean X

namespace Trail

variable {X : Text} {o l : Nat}

/-- A blank body. -/
theorem of_blanks (h : AllBlank X) : Trail X o l [] (tokensFrom o l (SchemaDiagram.clean X)) := by
  have hnil := Text.trimRight_of_blank h
  refine ⟨fun z => by rw [hnil]; exact Joint.nil_left _, rfl, fun t ht => ?_, ?_, ?_⟩
  · rw [h.settled.clean_eq] at ht
    exact kind_of_mem_blanks h ht
  · rw [hnil, clean_nil, tokensFrom_nil, List.map_nil]
  · rw [hnil, clean_nil]
    exact List.nil_prefix

variable {kind : Option TokenKind} {x after : Text} {front ends : List Token}

/-- A piece before a body that is not blank. -/
theorem append (hpiece : Piece kind x after) (hne : Text.trimRight after ≠ [])
    (h : Trail after (o + x.length) (l + x.count '\n') front ends) :
    Trail (x ++ after) o l (tokensFrom o l (SchemaDiagram.clean x) ++ front) ends := by
  obtain ⟨blanks, hblanks, -⟩ := Text.exists_eq_trimRight_append after
  have hpiece' : Piece kind x (Text.trimRight after) := by
    rw [hblanks] at hpiece
    exact hpiece.of_append
  have htrim := Text.trimRight_append_of_ne_nil x hne
  -- The tokens of the piece come before the end that is dropped, so they are not cut.
  refine ⟨fun z => ?_, ?_, h.ends, ?_, ?_⟩
  · -- The rest starts with the same character when blanks are dropped at its end.
    have hfollows : Follows after (Text.trimRight after ++ '\n' :: z) := by
      refine .inr (.inl ?_)
      obtain ⟨c, rest, hc⟩ := List.exists_cons_of_ne_nil hne
      rw [hc]
      rw [hc] at hblanks
      rw [hblanks]
      rfl
    rw [htrim]
    exact Joint.trans (hpiece.joint.swap hfollows) (h.joint z)
  · rw [hpiece.tokensFrom_append, h.tokens, List.append_assoc]
  · -- The piece stops before the end of the kept text.
    have hself : (tokensFrom o l (SchemaDiagram.clean x)).map
        (Token.clip (o + (Text.trimRight (x ++ after)).length))
          = tokensFrom o l (SchemaDiagram.clean x) := by
      refine (List.map_congr_left fun t ht => ?_).trans (List.map_id _)
      have hle := bounds_of_mem_tokensFrom ht
      rw [length_clean] at hle
      refine Token.clip_of_le (hle.2.2.trans ?_)
      rw [htrim, List.length_append]
      omega
    rw [List.map_append, hself, htrim, hpiece'.tokensFrom_append, h.kept, List.length_append,
      Nat.add_assoc]
  · rw [htrim, hpiece'.joint.clean_append, hpiece.joint.clean_append, List.prefix_append_right_inj]
    exact h.clean

/-- A piece that does not end with a blank, with blanks behind it. -/
theorem last (hpiece : Piece kind x after) (hafter : AllBlank after)
    (hx : ∀ c ∈ x.getLast?, isBlank c = false) (hjoint : ∀ z : Text, Joint x ('\n' :: z)) :
    Trail (x ++ after) o l (tokensFrom o l (SchemaDiagram.clean x))
      (tokensFrom (o + x.length) (l + x.count '\n') (SchemaDiagram.clean after)) := by
  -- The blanks are all that is dropped.
  have htrim : Text.trimRight (x ++ after) = x := by
    rw [Text.trimRight_append_blank x hafter, Text.trimRight_eq_self hx]
  refine ⟨by rwa [htrim], hpiece.tokensFrom_append o l, fun t ht => ?_, ?_, ?_⟩
  · rw [hafter.settled.clean_eq] at ht
    exact kind_of_mem_blanks hafter ht
  · rw [htrim]
    refine ((List.map_congr_left fun t ht => ?_).trans (List.map_id _)).symm
    have hle := bounds_of_mem_tokensFrom ht
    rw [length_clean] at hle
    exact Token.clip_of_le hle.2.2
  · rw [htrim, hpiece.joint.clean_append]
    exact List.prefix_append ..

/-- The slashes that start a comment are no blanks. -/
theorem trimRight_slashes (mark : Text) (hmark : mark.getLast? = some '/') (body : Text) :
    Text.trimRight (mark ++ body) = mark ++ Text.trimRight body := by
  refine Text.trimRight_append (fun c hc => ?_) body
  rw [hmark] at hc
  cases hc
  decide

/-- A doc comment, with blanks behind it. -/
theorem doc {body : Text} (hcut : takeLine (body ++ after) = (body, after))
    (hafter : AllBlank after) :
    ∃ front ends, Trail (['/', '/', '/'] ++ body ++ after) o l front ends := by
  have hbody := not_mem_of_takeLine hcut
  have hpiece : Piece (some .doc) (['/', '/', '/'] ++ body) after := .doc (.doc hcut)
  -- The comment without the blanks at its end is a doc comment as well.
  have hkept : Piece (some .doc) (['/', '/', '/'] ++ Text.trimRight body) ['\n'] :=
    .doc (.doc (takeLine_trimRight hbody []))
  have htrim : Text.trimRight (['/', '/', '/'] ++ body ++ after)
      = ['/', '/', '/'] ++ Text.trimRight body := by
    rw [Text.trimRight_append_blank _ hafter, trimRight_slashes _ rfl]
  obtain ⟨blanks, hblanks, -⟩ := Text.exists_eq_trimRight_append body
  have hlength := congrArg List.length hblanks
  rw [List.length_append] at hlength
  refine ⟨_, tokensFrom (o + (['/', '/', '/'] ++ body : Text).length)
    (l + (['/', '/', '/'] ++ body : Text).count '\n') (SchemaDiagram.clean after), ?_,
    hpiece.tokensFrom_append o l, fun t ht => ?_, ?_, ?_⟩
  · rw [htrim]
    exact fun z => Leads.joint (.doc (takeLine_trimRight hbody z))
  · rw [hafter.settled.clean_eq] at ht
    exact kind_of_mem_blanks hafter ht
  · -- Its token ends where the kept text ends, and its value is trimmed anyway.
    rw [htrim, hkept.tokensFrom_eq, hpiece.tokensFrom_eq]
    simp [pieceToken, Lexeme.toToken, Token.clip, Text.trim_trimRight]
    omega
  · rw [htrim, hkept.clean_eq, hpiece.joint.clean_append, hpiece.clean_eq]
    refine List.IsPrefix.trans ?_ (List.prefix_append ..)
    rw [List.prefix_append_right_inj]
    exact ⟨blanks, hblanks.symm⟩

/-- A comment up to the line end, with blanks behind it. -/
theorem comment {body : Text} (hs : (body ++ after).head? ≠ some '/')
    (hcut : takeLine (body ++ after) = (body, after)) (hafter : AllBlank after) :
    ∃ front ends, Trail (['/', '/'] ++ body ++ after) o l front ends := by
  have hbody := not_mem_of_takeLine hcut
  have hlead : Leads (.comment (['/', '/'] ++ body)) after := .line hs hcut
  have htrim : Text.trimRight (['/', '/'] ++ body ++ after)
      = ['/', '/'] ++ Text.trimRight body := by
    rw [Text.trimRight_append_blank _ hafter, trimRight_slashes _ rfl]
  obtain ⟨blanks, hblanks, -⟩ := Text.exists_eq_trimRight_append body
  -- The comment without the blanks at its end does not turn into a doc comment.
  have hkept : ∀ z : Text, Leads (.comment (['/', '/'] ++ Text.trimRight body)) ('\n' :: z) := by
    refine fun z => .line ?_ (takeLine_trimRight hbody z)
    intro hhead
    apply hs
    cases hkept : Text.trimRight body with
    | nil =>
      rw [hkept] at hhead
      cases hhead
    | cons c rest =>
      rw [hkept] at hhead hblanks
      rw [hblanks]
      exact hhead
  have hclean : SchemaDiagram.clean (['/', '/'] ++ body ++ after)
      = blankOut (['/', '/'] ++ body) ++ after := by
    have hjoint := hlead.joint.clean_append
    rw [clean_of_leads hlead, hafter.settled.clean_eq] at hjoint
    exact hjoint
  -- A comment is blank once it is cleaned, and so no token is left of it.
  have hblank : ∀ s : Text, AllBlank (blankOut s) := by
    intro s c hc
    obtain ⟨d, -, rfl⟩ := List.mem_map.1 hc
    split <;> decide
  have hclean' : SchemaDiagram.clean (['/', '/'] ++ Text.trimRight body)
      = blankOut (['/', '/'] ++ Text.trimRight body) := clean_of_leads (hkept [])
  refine ⟨[], _, ?_, rfl, fun t ht => ?_, ?_, ?_⟩
  · rw [htrim]
    exact fun z => (hkept z).joint
  · rw [hclean] at ht
    exact kind_of_mem_blanks (List.forall_mem_append.2 ⟨hblank _, hafter⟩) ht
  · -- Nothing but blanks is kept.
    rw [htrim, hclean', List.map_nil]
    refine InlineBlank.tokens ⟨hblank _, fun hmem => ?_⟩ o l
    obtain ⟨c, hc, hline⟩ := List.mem_map.1 hmem
    have hne : c ≠ '\n' := by
      rintro rfl
      refine hbody ?_
      rw [hblanks]
      simpa using Or.inl hc
    rw [if_neg hne] at hline
    cases hline
  · rw [htrim, hclean', hclean]
    refine List.IsPrefix.trans (List.IsPrefix.map _ ?_) (List.prefix_append ..)
    rw [List.prefix_append_right_inj]
    exact ⟨blanks, hblanks.symm⟩

end Trail

/-- **Every body that is followed by its brace has a trail**, where its literals are closed. -/
theorem exists_trail {X post : Text} {o l : Nat} (hjoint : Joint X ('\x7d' :: post))
    (hclosed : ∀ t ∈ tokensFrom o l (clean X), t.kind = .string → isClosed t.value = true) :
    ∃ front ends, Trail X o l front ends := by
  induction X using pieces_induction generalizing o l with
  | nil => exact ⟨_, _, .of_blanks (by simp [AllBlank])⟩
  | append kind x after hpiece ih =>
    obtain ⟨-, hafter⟩ := hpiece.joint.split hjoint
    rw [hpiece.tokensFrom_append, List.forall_mem_append] at hclosed
    -- The last piece that is not blank ends the kept text, and what comes before it is kept as it
    -- is.
    by_cases hne : Text.trimRight after = []
    · have hblank := Text.allBlank_of_trimRight hne
      -- A segment at the end is decided by the brace behind the body as well.
      have hlead : ∀ {segment : Segment}, Leads segment after → x = segment.text →
          Leads segment (after ++ '\x7d' :: post) := by
        rintro segment hlead rfl
        exact (Joint.of_segment_append hlead hjoint).1
      have hend : after ++ '\x7d' :: post ≠ [] := List.append_ne_nil_of_right_ne_nil _ (by simp)
      have hlast : (∀ c ∈ x.getLast?, isBlank c = false) → (∀ z : Text, Joint x ('\n' :: z)) →
          ∃ front ends, Trail (x ++ after) o l front ends :=
        fun hx hj => ⟨_, _, .last hpiece hblank hx hj⟩
      cases hpiece with
      -- A block comment ends with its mark.
      | comment hcomment =>
        cases hlead hcomment rfl with
        | @block body _ hcut =>
          refine hlast ?_ fun z => ((Leads.block hcut).newline hend z).joint
          have hbody := getLast?_takeBlockComment (s := body ++ (after ++ '\x7d' :: post))
            (by rw [hcut]; exact hend)
          rw [hcut] at hbody
          rw [List.getLast?_cons_cons, List.getLast?_cons, hbody]
          intro c hc
          cases hc
          decide
        -- A comment up to the line end may lose blanks at its end.
        | line hs hcut =>
          cases hcomment with
          | line hs hcut => exact Trail.comment hs hcut hblank
      | blank hb =>
        exact ⟨_, _, .of_blanks (List.forall_mem_append.2 ⟨by simpa using hb, hblank⟩)⟩
      | newline =>
        exact ⟨_, _, .of_blanks (List.forall_mem_append.2 ⟨by simp [isBlank], hblank⟩)⟩
      -- A literal is closed, so it ends with a quote.
      | literal hliteral =>
        refine hlast ?_ fun z => ((hlead hliteral rfl).newline hend z).joint
        rw [(Piece.literal hliteral).tokensFrom_eq, List.forall_mem_singleton] at hclosed
        obtain ⟨m, hm, hblank⟩ := getLast?_of_isClosed (hclosed.1 rfl)
        intro c hc
        obtain rfl := Option.some.inj (hm.symm.trans hc)
        exact hblank
      -- A doc comment may lose blanks at its end, as a comment may.
      | doc hdoc =>
        cases hdoc with
        | doc hcut => exact Trail.doc hcut hblank
      | word hne hx =>
        refine hlast ?_ fun z => Solid.of_word hx _
        exact fun c hc => isBlank_of_isWordChar (hx c (List.mem_of_mem_getLast? hc))
      | arrow =>
        have hsolid : Solid ['<', '>'] :=
          (Solid.singleton (by decide) (by decide)).append (Solid.singleton (by decide) (by decide))
        refine hlast ?_ fun z => hsolid _
        intro c hc
        cases hc
        decide
      | char hchar hb =>
        refine hlast ?_ fun z => ((hlead hchar rfl).newline hend z).joint
        intro c hc
        cases hc
        exact hb
    · obtain ⟨front, ends, htrail⟩ := ih hafter hclosed.2
      exact ⟨_, _, htrail.append hpiece hne⟩

end SchemaDiagram
