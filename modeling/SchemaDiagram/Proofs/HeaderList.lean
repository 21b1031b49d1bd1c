import SchemaDiagram.Proofs.Nesting

/-! # The settings list of a header

A header is a name, an alias and a settings list. Another list put in its place, or a list put
behind a header that has none, leaves the name and the alias as they were.

* **`EndsName rest`** — a settings list or nothing stands next.
* **`Header.exists_front`** — the tokens before the list, and what any other list behind them makes
  of the header.
* **`Header.exists_list`** — the tokens of the list of a header that has one.
* **`ListTokens span list`** — the tokens of a list or of none; `scanLine_eq` says that a logical
  line goes through them when they are quiet.
* **`Stands.of_word`** — what may stand behind the first word of a block. -/

namespace SchemaDiagram

/-- A settings list or nothing stands next. -/
def EndsName (rest : List Token) : Prop := ∀ t ∈ rest.head?, t.kind = .openBracket

/-- Whether a token belongs to the name or the alias of a header. -/
def Token.isOfName (t : Token) : Bool := t.kind = .word || t.kind = .string || t.kind = .dot

namespace Header

/-- A token that is part of a name belongs to it. -/
theorem isOfName_of_isNamePart {t : Token} (h : isNamePart t = true) : t.isOfName = true := by
  rw [isNamePart] at h
  rw [Token.isOfName, h]
  rfl

/-- A bracket is no part of a name. -/
theorem isNamePart_of_openBracket {t : Token} (h : t.kind = .openBracket) :
    isNamePart t = false := by
  rw [isNamePart, h]
  rfl

/-- Without a name part there is no name. -/
theorem takeName_of_not {isFirst : Bool} {tokens : List Token}
    (h : ∀ t ∈ tokens.head?, (isNamePart t && (isFirst || !t.isWord "as")) = false) :
    takeName isFirst tokens = ([], tokens) := by
  match tokens with
  | [] => rfl
  | [t] => rw [takeName, if_neg (by rw [h t rfl]; decide)]
  | t :: d :: rest => rw [takeName, if_neg (by rw [h t rfl]; decide)]

/-- A name part without a dot behind it is a name. -/
theorem takeName_single {isFirst : Bool} {t : Token} {rest : List Token}
    (h : (isNamePart t && (isFirst || !t.isWord "as")) = true)
    (hrest : ∀ d ∈ rest.head?, d.kind ≠ .dot) : takeName isFirst (t :: rest) = ([t], rest) := by
  cases rest with
  | nil => rw [takeName, if_pos h]
  | cons d rest => rw [takeName, if_pos h, if_neg (hrest d rfl)]

end Header

/-- Behind a name stands no dot. -/
theorem EndsName.dot {rest : List Token} (h : EndsName rest) : ∀ d ∈ rest.head?, d.kind ≠ .dot := by
  intro d hd
  rw [h d hd]
  decide

/-- A list is no name. -/
theorem EndsName.takeName {rest : List Token} (h : EndsName rest) (isFirst : Bool) :
    Header.takeName isFirst rest = ([], rest) := by
  refine Header.takeName_of_not fun t ht => ?_
  rw [Header.isNamePart_of_openBracket (h t ht)]
  rfl

namespace Header

/-- Without a name part before the list there is no name. -/
theorem takeName_of_middle {isFirst : Bool} {t : Token} {others rest' : List Token}
    (ht : (isNamePart t && (isFirst || !t.isWord "as")) = false) (middle rest : List Token)
    (h : t :: others = middle ++ rest) (hrest' : EndsName rest') :
    takeName isFirst (middle ++ rest') = ([], middle ++ rest') := by
  cases middle with
  | nil => exact hrest'.takeName isFirst
  | cons u middle =>
    obtain ⟨rfl, -⟩ := List.cons.inj h
    refine takeName_of_not fun e he => ?_
    cases he
    exact ht

/-- **The name is told before the list**: other tokens in place of a list, or of the end, leave it
as it was. -/
theorem exists_name (isFirst : Bool) (tokens : List Token) :
    ∃ front, tokens = front ++ (takeName isFirst tokens).2 ∧
      (∀ t ∈ front, t.isOfName = true) ∧
      ∀ middle rest rest', (takeName isFirst tokens).2 = middle ++ rest → EndsName rest →
        EndsName rest' →
        takeName isFirst (front ++ (middle ++ rest'))
          = ((takeName isFirst tokens).1, middle ++ rest') := by
  -- The cases are those of the name: it ends before a token that is no part of it, or goes on
  -- behind a dot.
  fun_induction takeName isFirst tokens with
  | case1 isFirst =>
    refine ⟨[], rfl, by simp, fun middle rest rest' h _ hrest' => ?_⟩
    obtain ⟨rfl, rfl⟩ := List.append_eq_nil_iff.1 h.symm
    exact hrest'.takeName isFirst
  | case2 isFirst t ht =>
    refine ⟨[t], rfl, by simpa using isOfName_of_isNamePart (Bool.and_eq_true_iff.1 ht).1,
      fun middle rest rest' h _ hrest' => ?_⟩
    obtain ⟨rfl, rfl⟩ := List.append_eq_nil_iff.1 h.symm
    exact takeName_single ht hrest'.dot
  | case3 isFirst t ht =>
    exact ⟨[], rfl, by simp, fun middle rest rest' h _ hrest' =>
      takeName_of_middle (by rwa [Bool.not_eq_true] at ht) middle rest h hrest'⟩
  -- A part of the name and a dot: the rest of the name is taken behind them.
  | case4 isFirst t d others ht hd parts after heq ih =>
    obtain ⟨front, hfront, hnames, hswap⟩ := ih
    rw [heq] at hfront hswap
    refine ⟨t :: d :: front, by rw [hfront]; rfl, ?_, fun middle rest rest' h hrest hrest' => ?_⟩
    · intro u hu
      rcases List.mem_cons.1 hu with rfl | hu
      · exact isOfName_of_isNamePart (Bool.and_eq_true_iff.1 ht).1
      · rcases List.mem_cons.1 hu with rfl | hu
        · simp [Token.isOfName, hd]
        · exact hnames u hu
    · rw [List.cons_append, List.cons_append, takeName, if_pos ht, if_pos hd,
        hswap middle rest rest' h hrest hrest']
  -- A part of the name without a dot ends the name, and what stands next is no dot with other
  -- tokens either.
  | case5 isFirst t d others ht hd =>
    refine ⟨[t], rfl, by simpa using isOfName_of_isNamePart (Bool.and_eq_true_iff.1 ht).1,
      fun middle rest rest' h hrest hrest' => takeName_single ht ?_⟩
    cases middle with
    | nil => exact hrest'.dot
    | cons u middle =>
      obtain ⟨rfl, -⟩ := List.cons.inj h
      intro e he
      cases he
      exact hd
  | case6 isFirst t d others ht =>
    exact ⟨[], rfl, by simp, fun middle rest rest' h _ hrest' =>
      takeName_of_middle (by rwa [Bool.not_eq_true] at ht) middle rest h hrest'⟩

/-- A list behind a header leaves its name as it was. -/
theorem name_append (tokens : List Token) {rest : List Token} (hrest : EndsName rest) :
    (ofTokens (tokens ++ rest)).name = (ofTokens tokens).name := by
  obtain ⟨front, hfront, -, hswap⟩ := exists_name true tokens
  have hname := hswap (takeName true tokens).2 [] rest (List.append_nil _).symm
    (fun t ht => nomatch ht) hrest
  rw [← List.append_assoc, ← hfront] at hname
  simp only [ofTokens, hname]

/-- **The alias is told before the list**, too. -/
theorem exists_alias {tokens rest : List Token} (h : (takeAlias tokens).2 = rest) :
    ∃ front, tokens = front ++ rest ∧ (∀ t ∈ front, t.isOfName = true) ∧
      ∀ rest', EndsName rest' → takeAlias (front ++ rest') = ((takeAlias tokens).1, rest') := by
  -- A list starts with a bracket, so no alias is read there.
  have hnone : ∀ rest', EndsName rest' → takeAlias rest' = (none, rest') := by
    intro rest' hrest'
    cases rest' with
    | nil => rfl
    | cons t others =>
      cases others with
      | nil => rfl
      | cons name others =>
        have ht : t.isWord "as" = false := by
          rw [Token.isWord, hrest' t rfl]
          rfl
        rw [takeAlias, ht]
        rfl
  rcases tokens with _ | ⟨t, _ | ⟨name, others⟩⟩
  · subst h
    exact ⟨[], rfl, by simp, hnone⟩
  · subst h
    exact ⟨[], rfl, by simp, hnone⟩
  · rw [takeAlias] at h ⊢
    split at h
    -- The alias is the word behind its keyword.
    next hc =>
      subst h
      obtain ⟨hword, hname⟩ := Bool.and_eq_true_iff.1 hc
      refine ⟨[t, name], rfl, ?_, fun rest' _ => ?_⟩
      · have ht : t.kind = .word := by
          rw [Token.isWord, Bool.and_eq_true] at hword
          simpa using hword.1
        intro u hu
        rcases List.mem_cons.1 hu with rfl | hu
        · simp [Token.isOfName, ht]
        · rw [List.mem_singleton.1 hu]
          exact isOfName_of_isNamePart hname
      · rw [List.cons_append, List.cons_append, takeAlias, if_pos hc, if_pos hc]
        rfl
    -- Without the keyword there is no alias, and none with other tokens behind.
    next hc =>
      subst h
      refine ⟨[], rfl, by simp, fun rest' hrest' => ?_⟩
      rw [if_neg hc]
      exact hnone rest' hrest'

/-- The tokens of a header behind its name and alias. -/
def behindName (tokens : List Token) : List Token := (takeAlias (takeName true tokens).2).2

/-- **The tokens before the list make the name and the alias**, whatever list stands behind
them. -/
theorem exists_front (tokens : List Token) :
    ∃ front, tokens = front ++ behindName tokens ∧ (∀ t ∈ front, t.isOfName = true) ∧
      (EndsName (behindName tokens) → ∀ rest', EndsName rest' → ofTokens (front ++ rest') =
        { name := (ofTokens tokens).name
          nameSpan := (ofTokens tokens).nameSpan
          aliasName := (ofTokens tokens).aliasName
          settingsSpan := (takeSettings rest').1
          leftovers := (takeSettings rest').2.filter (·.kind != .newline) }) := by
  -- The tokens of the name, and behind them those of the alias.
  obtain ⟨names, htokens, hnames, hname⟩ := exists_name true tokens
  have hrest : (takeAlias (takeName true tokens).2).2 = behindName tokens := rfl
  obtain ⟨aliasing, hbehind, haliasing, halias⟩ := exists_alias hrest
  refine ⟨names ++ aliasing, ?_, ?_, fun h rest' hrest' => ?_⟩
  · rw [List.append_assoc, ← hbehind, ← htokens]
  · intro t ht
    rcases List.mem_append.1 ht with ht | ht
    · exact hnames t ht
    · exact haliasing t ht
  · have hnew := hname aliasing (behindName tokens) rest' hbehind h hrest'
    rw [List.append_assoc]
    simp only [ofTokens, hnew, halias rest' hrest']

/-- A list that is closed is the list of the header. -/
theorem takeSettings_of_close {opening close : Token} {inner after : List Token}
    (hopen : opening.kind = .openBracket)
    (hclose : closeBracket? 0 (inner ++ close :: after) = some (close, after)) :
    takeSettings (opening :: (inner ++ close :: after))
      = (some ⟨opening.span.stop, close.span.start⟩, after) := by
  rw [takeSettings, if_pos hopen, hclose]

/-- **The tokens of the list of a header that has one.** -/
theorem exists_list {tokens : List Token} {span : Span}
    (h : (ofTokens tokens).settingsSpan = some span) :
    ∃ opening inner close after,
      behindName tokens = opening :: (inner ++ close :: after) ∧ opening.kind = .openBracket ∧
        closeBracket? 0 (inner ++ close :: after) = some (close, after) ∧
        span = ⟨opening.span.stop, close.span.start⟩ := by
  have hspan : (takeSettings (behindName tokens)).1 = some span := h
  -- The first token behind the name opens the list, or there is none.
  cases htokens : behindName tokens with
  | nil =>
    rw [htokens] at hspan
    cases hspan
  | cons opening rest =>
    rw [htokens, takeSettings] at hspan
    split at hspan
    next hopen =>
      split at hspan
      next close after hclose =>
        obtain ⟨inner, rfl⟩ := eq_of_closeBracket? hclose
        exact ⟨opening, inner, close, after, rfl, hopen, hclose, (Option.some.inj hspan).symm⟩
      next => cases hspan
    next => cases hspan

/-- A header without a list and without tokens that are left over ends with its name and alias, line
ends apart. -/
theorem kind_of_mem_behindName {tokens : List Token} (h : (ofTokens tokens).settingsSpan = none)
    (hleft : (ofTokens tokens).leftovers = []) : ∀ t ∈ behindName tokens, t.kind = .newline := by
  have hspan : (takeSettings (behindName tokens)).1 = none := h
  have hrest : (takeSettings (behindName tokens)).2.filter (·.kind != .newline) = [] := hleft
  -- A first token that opens a list would leave a span or itself behind.
  intro t ht
  cases htokens : behindName tokens with
  | nil =>
    rw [htokens] at ht
    cases ht
  | cons first rest =>
    rw [htokens, takeSettings] at hspan hrest
    by_cases hopen : first.kind = .openBracket
    · rw [if_pos hopen] at hspan hrest
      cases hclose : closeBracket? 0 rest with
      | none =>
        rw [hclose] at hrest
        simp [hopen] at hrest
      | some found =>
        rw [hclose] at hspan
        cases hspan
    · rw [if_neg hopen, List.filter_eq_nil_iff] at hrest
      rw [htokens] at ht
      simpa using hrest t ht

end Header

/-! ## The tokens of a list -/

/-- The line with tokens put in front tells them apart from the rest of it. -/
theorem LineScan.eq_of_prepend {scan : LineScan} {front segment rest : List Token}
    {u : Option Token} (h : scan.prepend front = ⟨front ++ segment, rest, u⟩) :
    scan = ⟨segment, rest, u⟩ := by
  cases scan
  simpa [prepend] using h

/-- **A logical line goes through the name and the alias.** -/
theorem scanLine_name {tl : Bool} {front : List Token} (h : ∀ t ∈ front, t.isOfName = true)
    (rest : List Token) :
    scanLine tl [] (front ++ rest) = (scanLine tl [] rest).prepend front := by
  induction front with
  | nil => rfl
  | cons t front ih =>
    have ht := h t (List.mem_cons_self ..)
    -- A part of a name neither stops the line nor opens a bracket.
    have hstop : lineStop tl [] t (front ++ rest) = none ∧ openedBehind [] t = [] := by
      rw [lineStop, openedBehind]
      cases hk : t.kind <;> simp [Token.isOfName, hk] at ht <;>
        simp [TokenKind.opens, TokenKind.closes]
    rw [List.cons_append, scanLine_cons, hstop.1, hstop.2]
    dsimp only
    rw [ih fun u hu => h u (List.mem_cons_of_mem _ hu)]
    rfl

/-- **A logical line goes through the tokens before the brace it ends at**, whatever stands there in
place of the brace and goes on with nothing. -/
theorem scanLine_of_brace {tl : Bool} {opened segment rest : List Token} {brace : Token}
    {u : Option Token} (hbrace : brace.kind = .openBrace)
    (h : scanLine tl opened (segment ++ brace :: rest) = ⟨segment, brace :: rest, u⟩)
    {rest' : List Token} (hrest' : Closes rest') :
    scanLine tl opened (segment ++ rest') = (scanLine tl [] rest').prepend segment := by
  have hcloses : Closes (brace :: rest) := Closes.cons rest (by rw [hbrace]; decide)
  induction segment generalizing opened with
  | nil =>
    -- The line ends at the brace, so no bracket is open there.
    rw [List.nil_append, scanLine_cons] at h
    cases opened with
    | nil => rfl
    | cons o opened =>
      simp [lineStop, hbrace, TokenKind.opens, TokenKind.closes, LineScan.cons] at h
  | cons t segment ih =>
    have hstarts : startsBlock (segment ++ brace :: rest) = startsBlock (segment ++ rest') := by
      rw [startsBlock_append hcloses, startsBlock_append hrest']
    rw [List.cons_append, scanLine_cons] at h ⊢
    rw [← lineStop_congr tl opened rfl fun _ => hstarts]
    split at h
    next => simp at h
    next =>
      have hscan : scanLine tl (openedBehind opened t) (segment ++ brace :: rest)
          = ⟨segment, brace :: rest, u⟩ := by
        cases hs : scanLine tl (openedBehind opened t) (segment ++ brace :: rest) with
        | mk segment' behind' u' =>
          rw [hs] at h
          simpa [LineScan.cons] using h
      rw [ih hscan]
      rfl

/-- **The tokens of a settings list** with its brackets, or of none, and the span between the
brackets. -/
inductive ListTokens : Option Span → List Token → Prop
  | absent : ListTokens none []
  | present {opening close : Token} {inner : List Token} (hopen : opening.kind = .openBracket)
      (hclose : close.kind = .closeBracket) (hinner : nesting true [] inner = some []) :
      ListTokens (some ⟨opening.span.stop, close.span.start⟩) (opening :: (inner ++ [close]))

/-- The first bracket of a list is open in it. -/
theorem lineStop_openBracket {t : Token} (h : t.kind = .openBracket) (tl : Bool)
    (opened rest : List Token) :
    lineStop tl opened t rest = none ∧ openedBehind opened t = t :: opened := by
  rw [lineStop, openedBehind, h]
  exact ⟨rfl, rfl⟩

/-- The last bracket of a list closes the first one. -/
theorem lineStop_closeBracket {t : Token} (h : t.kind = .closeBracket) (tl : Bool)
    (opened rest : List Token) :
    lineStop tl opened t rest = none ∧ openedBehind opened t = opened.tail := by
  rw [lineStop, openedBehind, h]
  exact ⟨rfl, rfl⟩

/-- A closing bracket goes on with no statement. -/
theorem Closes.closeBracket {t : Token} (h : t.kind = .closeBracket) (rest : List Token) :
    Closes (t :: rest) := Closes.cons rest (by rw [h]; decide)

namespace ListTokens

variable {span : Option Span} {list : List Token}

/-- No block is closed in a list. -/
theorem closeBrace_eq_none (h : ListTokens span list) (depth : Nat) (rest : List Token) :
    closeBrace depth (list ++ rest) = none ↔ closeBrace depth rest = none := by
  cases h with
  | absent => exact Iff.rfl
  | present hopen hclose hinner =>
    rw [List.cons_append, List.append_assoc, List.singleton_append, closeBrace,
      if_neg (by rw [hopen]; simp), hopen]
    dsimp only
    rw [closeBrace_nested hinner, closeBrace, if_neg (by rw [hclose]; simp), hclose]
    simp only [Option.map_eq_none_iff]

/-- A list does not start with a colon. -/
theorem head?_ne_colon (h : ListTokens span list) {rest : List Token}
    (hrest : span = none → rest.head?.map (·.kind) ≠ some .colon) :
    (list ++ rest).head?.map (·.kind) ≠ some .colon := by
  cases h with
  | absent => exact hrest rfl
  | present hopen =>
    rw [List.cons_append, List.head?_cons, Option.map_some, hopen]
    decide

/-- **A logical line goes through a quiet list.** -/
theorem scanLine_eq (h : ListTokens span list) (hquiet : isQuiet list = true)
    (rest : List Token) :
      scanLine true [] (list ++ rest) = (scanLine true [] rest).prepend list := by
  cases h with
  | absent => rfl
  | @present opening close inner hopen hclose hinner =>
    -- The tokens inside are quiet, so no line stops among them.
    have hq : isQuiet inner = true := by
      rw [isQuiet, isQuiet_append (Closes.closeBracket hclose []), Bool.and_eq_true,
        Bool.and_eq_true] at hquiet
      exact hquiet.2.1
    -- The line goes through them with one bracket open.
    obtain ⟨opened, hlen, hscan⟩ : ∃ opened : List Token, opened.length = 0 ∧
        scanLine true ([] ++ [opening]) (inner ++ close :: rest)
          = (scanLine true (opened ++ [opening]) (close :: rest)).prepend inner :=
      scanLine_nested hinner hq (Closes.closeBracket hclose rest) rfl (List.cons_ne_nil _ _)
    obtain rfl : opened = [] := List.length_eq_zero_iff.1 hlen
    have hstart := lineStop_openBracket hopen true [] (inner ++ close :: rest)
    have hend := lineStop_closeBracket hclose true [opening] rest
    rw [List.nil_append] at hscan
    rw [List.cons_append, List.append_assoc, List.singleton_append, scanLine_cons, hstart.1,
      hstart.2]
    dsimp only
    rw [hscan, scanLine_cons, hend.1, hend.2]
    simp [LineScan.prepend, LineScan.cons]

/-- **A list that a logical line goes through is quiet.** -/
theorem isQuiet_of_scanLine (h : ListTokens span list) {rest segment behind : List Token}
    {u : Option Token} (hscan : scanLine true [] (list ++ rest) = ⟨list ++ segment, behind, u⟩) :
    isQuiet list = true := by
  cases h with
  | absent => rfl
  -- The line went through the list, so no block started in it.
  | @present opening close inner hopen hclose hinner =>
    have hstart := lineStop_openBracket hopen true [] (inner ++ close :: rest)
    rw [List.cons_append, List.append_assoc, List.singleton_append, scanLine_cons, hstart.1,
      hstart.2] at hscan
    have hscan' : scanLine true ([] ++ [opening]) (inner ++ close :: rest)
        = ⟨inner ++ (close :: segment), behind, u⟩ := by
      rw [List.nil_append]
      cases hs : scanLine true [opening] (inner ++ close :: rest) with
      | mk segment' behind' u' =>
        rw [hs] at hscan
        simpa [LineScan.cons] using hscan
    have hq := SchemaDiagram.isQuiet_of_scanLine hinner (Closes.closeBracket hclose rest)
      (List.length_nil.trans List.length_nil.symm) (List.cons_ne_nil opening []) hscan'
    rw [isQuiet, isQuiet_append (Closes.closeBracket hclose []), hq]
    simp [hopen, hclose, isQuiet]

/-- The list of a header is told at its end. -/
theorem takeSettings_eq {span : Span} (h : ListTokens (some span) list) (rest : List Token) :
    Header.takeSettings (list ++ rest) = (some span, rest) := by
  cases h with
  | @present opening close inner hopen hclose hinner =>
    rw [List.cons_append, List.append_assoc, List.singleton_append]
    refine Header.takeSettings_of_close hopen ?_
    have hcount := closeBracket?_nested hinner (close :: rest)
    rw [List.count_nil] at hcount
    rw [hcount, Header.closeBracket?, hclose]
    rfl

/-- A name ends before a list. -/
theorem endsName {span : Span} (h : ListTokens (some span) list) (rest : List Token) :
    EndsName (list ++ rest) := by
  cases h with
  | present hopen =>
    intro t ht
    cases ht
    exact hopen

/-- A list goes on with nothing that stands before it. -/
theorem closes {span : Span} (h : ListTokens (some span) list) (rest : List Token) :
    Closes (list ++ rest) := by
  cases h with
  | present hopen => exact Closes.cons _ (by rw [hopen]; decide)

end ListTokens

/-! ## The tokens behind a list -/

/-- **Other tokens may stand behind the first word of a block**, when no colon stands next and no
brace is closed that was not. -/
theorem Stands.of_word {t : Token} (ht : t.kind = .word) (front : List Token)
    {rest rest' : List Token} (h : rest.head?.map (·.kind) ≠ some .colon)
    (h' : rest'.head?.map (·.kind) ≠ some .colon)
    (hclose : ∀ depth, closeBrace depth rest = none → closeBrace depth rest' = none) :
    Stands (t :: (front ++ rest)) (t :: (front ++ rest')) := by
  -- What closes no brace in front closes none with other tokens behind.
  have hcloses : ∀ depth, closeBrace depth (front ++ rest) = none →
      closeBrace depth (front ++ rest') = none := by
    induction front with
    | nil => exact hclose
    | cons u front ih =>
      intro depth hnone
      rw [List.cons_append, closeBrace] at hnone ⊢
      split at hnone
      next => cases hnone
      next hc =>
        rw [if_neg hc, Option.map_eq_none_iff] at *
        exact ih _ hnone
  refine ⟨rfl, ?_, fun depth hnone => ?_⟩
  · -- The word starts a block or not by what stands next to it.
    have hline : ¬(t.kind = .newline ∨ t.kind = .doc) := by simp [ht]
    rw [startsBlock_cons, startsBlock_cons, if_neg hline, if_neg hline, if_pos ht, if_pos ht]
    cases front with
    | nil =>
      have hnot : ∀ {r : List Token}, r.head?.map (·.kind) ≠ some TokenKind.colon →
          (r.head?.map (·.kind) != some TokenKind.colon) = true := by simp
      rw [List.nil_append, List.nil_append, hnot h, hnot h']
    | cons u front => rfl
  · rw [closeBrace, if_neg (by simp [ht]), Option.map_eq_none_iff] at hnone ⊢
    exact hcloses _ hnone

section

variable {f g : Token → Token} (hf : Keeps f) (hg : Keeps g)

include hf hg

/-- A logical line ends at the same token in other places. -/
theorem scanLine_moved {tl : Bool} {segment rest : List Token} {u : Option Token}
    (h : scanLine tl [] (segment.map f ++ rest.map f) = ⟨segment.map f, rest.map f, u⟩) :
    ∃ u', scanLine tl [] (segment.map g ++ rest.map g) = ⟨segment.map g, rest.map g, u'⟩ := by
  have hleft := scanLine_map hf tl [] (segment ++ rest)
  have hright := scanLine_map hg tl [] (segment ++ rest)
  rw [List.map_nil, List.map_append] at hleft hright
  rw [hleft, LineScan.mk.injEq] at h
  have happ := scanLine_append tl [] (segment ++ rest)
  have hlen := congrArg List.length h.1
  rw [List.length_map, List.length_map] at hlen
  obtain ⟨hsegment, hrest⟩ := List.append_inj happ hlen
  exact ⟨_, by rw [hright, hsegment, hrest]⟩

/-- A block is closed at the same token in other places. -/
theorem closeBrace_moved {depth : Nat} {body after : List Token} {close : Token}
    (h : closeBrace depth (body.map f ++ f close :: after.map f)
      = some (body.map f, f close, after.map f)) :
    closeBrace depth (body.map g ++ g close :: after.map g)
      = some (body.map g, g close, after.map g) := by
  -- The kinds of the tokens are the same in all places, so the same brace closes the block.
  rw [← List.map_cons, ← List.map_append, closeBrace_map hf, Option.map_eq_some_iff] at h
  obtain ⟨⟨body', close', after'⟩, hclose, heq⟩ := h
  have happ := eq_of_closeBrace hclose
  have hlen := congrArg List.length (Prod.mk.inj heq).1
  rw [List.length_map, List.length_map] at hlen
  -- The body that is found is as long as the body, so it is the body.
  obtain ⟨rfl, htail⟩ := List.append_inj happ hlen.symm
  obtain ⟨rfl, rfl⟩ := List.cons.inj htail
  rw [← List.map_cons, ← List.map_append, closeBrace_map hg, hclose]
  rfl

end

end SchemaDiagram
