import SchemaDiagram.Source.Block

/-! # Steps of the block parser

The contents of a token sequence are read statement by statement. A *step* is one turn of that
reading: which tokens it takes, what it finds in them and where reading goes on. What is proved of
every step holds of every sequence by induction.

* **`Item`** — what a step finds: nothing, a block with its braces, or a line.
* **`Step topLevel doc tokens item doc' rest`** — one step; `exists_step` says that there always is
  one, `contentsFrom_of_step` what it means for the contents, `Step.length_lt` that it gets on.
* **`steps_induction`**, **`nested_induction`** — induction on the steps of a sequence, and on those
  of the bodies in it as well.
* **`Step.swap`** — a step is decided by the tokens it takes and by how the following ones start. -/

namespace SchemaDiagram

/-- Whether a statement starts with a token of this kind: it is no line end, doc comment or
brace. -/
def TokenKind.startsStatement (k : TokenKind) : Bool :=
  k != .newline && k != .doc && k != .closeBrace && k != .openBrace

/-- The brackets that are open behind the first token of a statement. -/
def openedBy (t : Token) : List Token := if t.kind.opens then [t] else []

/-- Puts the statement that a line is in front of the contents that follow it. -/
def addStatement (source : Text) (topLevel : Bool) (doc : List Text) (t : Token)
    (line : List Token) (after : Contents) : Contents :=
  if topLevel then
    match readShortRef source doc t line with
    | .ok block => after.addBlock block
    | .error problems => after.report problems
  else match readBodyLine source doc t line with
    | .inl line => after.addLine line
    | .inr property => after.addProperty property

/-- The reports on a bracket that is still open where the next block starts. -/
def LineScan.reports (scan : LineScan) : List Diagnostic :=
  scan.unclosed.toList.map fun o => o.report (.unclosedBracket o.value)

/-! ## What is read behind each kind of token -/

section Equations

variable {s : Text} {tl : Bool} {doc : List Text} {t : Token} {rest : List Token}

@[simp] theorem contentsFrom_nil : contentsFrom s tl doc [] = .empty := by rw [contentsFrom]

/-- A line end is passed. -/
theorem contentsFrom_newline (h : t.kind = .newline) :
    contentsFrom s tl doc (t :: rest) = contentsFrom s tl doc rest := by
  rw [contentsFrom]
  simp only [h]

/-- A doc comment is kept for what stands behind it. -/
theorem contentsFrom_doc (h : t.kind = .doc) :
    contentsFrom s tl doc (t :: rest) = contentsFrom s tl (doc ++ [t.value]) rest := by
  rw [contentsFrom]
  simp only [h]

/-- A closing brace without an opening one is reported and passed. -/
theorem contentsFrom_closeBrace (h : t.kind = .closeBrace) :
    contentsFrom s tl doc (t :: rest)
      = (contentsFrom s tl doc rest).report [t.report .unmatchedBrace] := by
  rw [contentsFrom]
  simp only [h]

/-- An opening brace without a header starts a body that is passed, if it is closed. -/
theorem contentsFrom_openBrace (h : t.kind = .openBrace) :
    contentsFrom s tl doc (t :: rest) =
      match closeBrace 0 rest with
      | none => (contentsFrom s tl [] rest).report [t.report (.unclosedBrace t.value)]
      | some (body, close, after) =>
        ((contentsFrom s tl [] after).addBlock
          (makeBlock doc t (.ofTokens []) t close (contentsFrom s false [] body))).report
            (contentsFrom s false [] body).problems := by
  rw [contentsFrom]
  simp only [h]
  split
  next heq => rw [heq]
  next heq => rw [heq]

/-- Any other token starts a statement, up to where its line stops. -/
theorem contentsFrom_statement (h : t.kind.startsStatement = true) :
    contentsFrom s tl doc (t :: rest) =
      let scan := scanLine tl (openedBy t) rest
      match scan.rest with
      | [] => (addStatement s tl doc t scan.segment .empty).report scan.reports
      | brace :: behind =>
        if brace.kind = .openBrace then
          match closeBrace 0 behind with
          | none =>
            (contentsFrom s tl [] behind).report
              (scan.reports ++ [t.report (.unclosedBrace t.value)])
          | some (body, close, after) =>
            let header := Header.ofTokens scan.segment
            let inner := contentsFrom s false [] body
            ((contentsFrom s tl [] after).addBlock
              (makeBlock doc t header brace close inner)).report
                (scan.reports ++ header.reports t ++ inner.problems)
        else
          (addStatement s tl doc t scan.segment (contentsFrom s tl [] (brace :: behind))).report
            scan.reports := by
  rw [contentsFrom]
  -- All kinds that start a statement do the same from here on.
  cases hk : t.kind <;> simp [hk, TokenKind.startsStatement] at h
  all_goals
    simp only [openedBy, hk]
    split
    next heq =>
      rw [heq]
      rfl
    next heq =>
      rw [heq]
      dsimp only
      split
      next =>
        split
        next heq' =>
          rw [heq']
          rfl
        next heq' =>
          rw [heq']
          rfl
      next => rfl

end Equations

/-! ## Steps -/

/-- What a step finds. -/
inductive Item where
  /-- Nothing: a line end, a doc comment, a stray brace or a block that is not closed. -/
  | nothing
  /-- A block: its first token, header and brace, its body and its closing brace. -/
  | block (head : Token) (header : List Token) (brace : Token) (body : List Token) (close : Token)
  /-- A line: its first token and the others. -/
  | line (head : Token) (others : List Token)

namespace Item

/-- Puts what a step finds in front of the contents that follow it. -/
def add (source : Text) (topLevel : Bool) (doc : List Text) : Item → Contents → Contents
  | nothing, after => after
  | block head header brace body close, after =>
    after.addBlock
      (makeBlock doc head (.ofTokens header) brace close (contentsFrom source false [] body))
  | line head others, after => addStatement source topLevel doc head others after

/-- The tokens of what a step finds. -/
def tokens : Item → List Token
  | nothing => []
  | block head header brace body close => head :: header ++ brace :: body ++ [close]
  | line head others => head :: others

end Item

/-- **One step of reading a token sequence**: what it finds, the doc comments that wait behind it
and the tokens it leaves. -/
inductive Step (topLevel : Bool) (doc : List Text) :
    List Token → Item → List Text → List Token → Prop
  | newline {t : Token} {rest : List Token} (h : t.kind = .newline) :
      Step topLevel doc (t :: rest) .nothing doc rest
  | doc {t : Token} {rest : List Token} (h : t.kind = .doc) :
      Step topLevel doc (t :: rest) .nothing (doc ++ [t.value]) rest
  | strayBrace {t : Token} {rest : List Token} (h : t.kind = .closeBrace) :
      Step topLevel doc (t :: rest) .nothing doc rest
  | bareUnclosed {t : Token} {rest : List Token} (h : t.kind = .openBrace)
      (hclose : closeBrace 0 rest = none) : Step topLevel doc (t :: rest) .nothing [] rest
  | bareBlock {t : Token} {rest body after : List Token} {close : Token} (h : t.kind = .openBrace)
      (hclose : closeBrace 0 rest = some (body, close, after)) :
      Step topLevel doc (t :: rest) (.block t [] t body close) [] after
  | unclosed {t : Token} {rest segment behind : List Token} {brace : Token} {u : Option Token}
      (h : t.kind.startsStatement = true)
      (hscan : scanLine topLevel (openedBy t) rest = ⟨segment, brace :: behind, u⟩)
      (hbrace : brace.kind = .openBrace) (hclose : closeBrace 0 behind = none) :
      Step topLevel doc (t :: rest) .nothing [] behind
  | block {t : Token} {rest segment behind body after : List Token} {brace close : Token}
      {u : Option Token} (h : t.kind.startsStatement = true)
      (hscan : scanLine topLevel (openedBy t) rest = ⟨segment, brace :: behind, u⟩)
      (hbrace : brace.kind = .openBrace)
        (hclose : closeBrace 0 behind = some (body, close, after)) :
      Step topLevel doc (t :: rest) (.block t segment brace body close) [] after
  | line {t : Token} {rest segment behind : List Token} {u : Option Token}
      (h : t.kind.startsStatement = true)
      (hscan : scanLine topLevel (openedBy t) rest = ⟨segment, behind, u⟩)
      (hbrace : ∀ brace ∈ behind.head?, brace.kind ≠ .openBrace) :
      Step topLevel doc (t :: rest) (.line t segment) [] behind

section Step

variable {tl : Bool} {doc doc' : List Text} {tokens rest : List Token} {item : Item}

/-- Every sequence that is not empty has a step. -/
theorem exists_step (tl : Bool) (doc : List Text) (t : Token) (rest : List Token) :
    ∃ item doc' rest', Step tl doc (t :: rest) item doc' rest' := by
  -- A statement goes up to a brace or to the end of its line.
  by_cases hstart : t.kind.startsStatement = true
  · cases hscan : scanLine tl (openedBy t) rest with
    | mk segment behind u =>
      by_cases hbrace : ∃ brace ∈ behind.head?, brace.kind = .openBrace
      · obtain ⟨brace, hhead, hkind⟩ := hbrace
        obtain ⟨behind, rfl⟩ := List.head?_eq_some_iff.1 hhead
        cases hclose : closeBrace 0 behind with
        | none => exact ⟨_, _, _, .unclosed hstart hscan hkind hclose⟩
        | some found =>
          obtain ⟨body, close, after⟩ := found
          exact ⟨_, _, _, .block hstart hscan hkind hclose⟩
      · exact ⟨_, _, _, .line hstart hscan fun brace hhead hkind => hbrace ⟨brace, hhead, hkind⟩⟩
  · cases hkind : t.kind with
    | newline => exact ⟨_, _, _, .newline hkind⟩
    | doc => exact ⟨_, _, _, .doc hkind⟩
    | closeBrace => exact ⟨_, _, _, .strayBrace hkind⟩
    | openBrace =>
      cases hclose : closeBrace 0 rest with
      | none => exact ⟨_, _, _, .bareUnclosed hkind hclose⟩
      | some found =>
        obtain ⟨body, close, after⟩ := found
        exact ⟨_, _, _, .bareBlock hkind hclose⟩
    | _ =>
      rw [hkind] at hstart
      exact absurd rfl hstart

/-- **What a step means for the contents**: what it finds comes before what is read behind it. -/
theorem contentsFrom_of_step (h : Step tl doc tokens item doc' rest) (source : Text) :
    ∃ problems, contentsFrom source tl doc tokens
      = (item.add source tl doc (contentsFrom source tl doc' rest)).report problems := by
  cases h with
  | newline h => exact ⟨[], contentsFrom_newline h⟩
  | doc h => exact ⟨[], contentsFrom_doc h⟩
  | strayBrace h => exact ⟨_, contentsFrom_closeBrace h⟩
  -- A brace that is never closed.
  | @bareUnclosed t _ h hclose =>
    refine ⟨[t.report (.unclosedBrace t.value)], (contentsFrom_openBrace h).trans ?_⟩
    rw [hclose]
    rfl
  | @bareBlock t _ body _ _ h hclose =>
    refine ⟨(contentsFrom source false [] body).problems, (contentsFrom_openBrace h).trans ?_⟩
    rw [hclose]
    rfl
  -- A header whose brace is never closed.
  | @unclosed t _ segment _ brace u h hscan hbrace hclose =>
    refine ⟨LineScan.reports ⟨segment, brace :: rest, u⟩ ++ [t.report (.unclosedBrace t.value)],
      (contentsFrom_statement h).trans ?_⟩
    simp only [hscan, hbrace, if_true, hclose]
    rfl
  | @block t _ segment behind body _ brace close u h hscan hbrace hclose =>
    refine ⟨LineScan.reports ⟨segment, brace :: behind, u⟩ ++ (Header.ofTokens segment).reports t ++
      (contentsFrom source false [] body).problems, (contentsFrom_statement h).trans ?_⟩
    simp only [hscan, hbrace, if_true, hclose]
    rfl
  | @line t _ segment _ u h hscan hbrace =>
    refine ⟨LineScan.reports ⟨segment, rest, u⟩, (contentsFrom_statement h).trans ?_⟩
    cases rest with
    | nil => simp only [hscan, contentsFrom_nil, Item.add]
    | cons brace behind => simp only [hscan, hbrace brace rfl, if_false, Item.add]

/-- A step takes at least one token, and the tokens of what it finds are among those it takes. -/
theorem Step.exists_used (h : Step tl doc tokens item doc' rest) :
    ∃ used, tokens = used ++ rest ∧ used ≠ [] ∧ ∀ t ∈ item.tokens, t ∈ used := by
  cases h with
  | @newline t => exact ⟨[t], rfl, List.cons_ne_nil _ _, by simp [Item.tokens]⟩
  | @doc t => exact ⟨[t], rfl, List.cons_ne_nil _ _, by simp [Item.tokens]⟩
  | @strayBrace t => exact ⟨[t], rfl, List.cons_ne_nil _ _, by simp [Item.tokens]⟩
  | @bareUnclosed t => exact ⟨[t], rfl, List.cons_ne_nil _ _, by simp [Item.tokens]⟩
  | @bareBlock t _ body _ close _ hclose =>
    rw [eq_of_closeBrace hclose]
    exact ⟨t :: body ++ [close], by simp, by simp, by simp [Item.tokens]⟩
  -- The brace is left open, and the step takes what stands up to it.
  | @unclosed t others segment _ brace _ _ hscan =>
    rw [← scanLine_append tl (openedBy t) others, hscan]
    exact ⟨t :: segment ++ [brace], by simp, by simp, by simp [Item.tokens]⟩
  | @block t others segment behind body _ brace close _ _ hscan _ hclose =>
    rw [← scanLine_append tl (openedBy t) others, hscan, eq_of_closeBrace hclose]
    exact ⟨t :: segment ++ brace :: body ++ [close], by simp, by simp, by simp [Item.tokens]⟩
  | @line t others segment _ _ _ hscan =>
    rw [← scanLine_append tl (openedBy t) others, hscan]
    exact ⟨t :: segment, by simp, by simp, by simp [Item.tokens]⟩

/-- A step gets on. -/
theorem Step.length_lt (h : Step tl doc tokens item doc' rest) : rest.length < tokens.length := by
  obtain ⟨used, rfl, hne, -⟩ := h.exists_used
  have hpos := List.length_pos_iff.2 hne
  rw [List.length_append]
  omega

/-- The body of a block is shorter than the tokens it is found in. -/
theorem Step.length_body_lt {head brace close : Token} {header body : List Token}
    (h : Step tl doc tokens (.block head header brace body close) doc' rest) :
    body.length < tokens.length := by
  cases h with
  -- The body stands between the brace and the one that closes it.
  | bareBlock _ hclose =>
    rw [eq_of_closeBrace hclose]
    simp only [List.length_cons, List.length_append]
    omega
  -- The header and the brace stand before the body.
  | block _ hscan _ hclose =>
    have hlen := congrArg (fun scan => (scan.segment ++ scan.rest).length) hscan
    simp only [scanLine_append, eq_of_closeBrace hclose, List.length_append,
      List.length_cons] at hlen
    rw [List.length_cons]
    omega

end Step

/-- **Induction on the steps of a sequence and of the bodies in it**: what holds of no tokens, and
of tokens when it holds of what a step leaves and of the body that it finds, holds of all tokens. -/
theorem nested_induction {motive : Bool → List Text → List Token → Prop}
    (nil : ∀ tl doc, motive tl doc [])
    (step : ∀ (tl : Bool) (doc : List Text) (t : Token) (others : List Token) (item : Item)
      (doc' : List Text) (rest : List Token), Step tl doc (t :: others) item doc' rest →
      motive tl doc' rest →
      (∀ head header brace body close, item = .block head header brace body close →
        motive false [] body) → motive tl doc (t :: others))
    (tl : Bool) (doc : List Text) (tokens : List Token) : motive tl doc tokens := by
  induction hn : tokens.length using Nat.strongRecOn generalizing tl doc tokens with
  | ind n ih =>
    cases tokens with
    | nil => exact nil tl doc
    | cons t others =>
      -- The step leaves fewer tokens, and the body that it finds is shorter, too.
      obtain ⟨item, doc', rest, hstep⟩ := exists_step tl doc t others
      refine step tl doc t others item doc' rest hstep
        (ih rest.length (hn ▸ hstep.length_lt) tl doc' rest rfl) ?_
      rintro head header brace body close rfl
      exact ih body.length (hn ▸ hstep.length_body_lt) false [] body rfl

/-- **Induction on the steps of a sequence.** -/
theorem steps_induction (tl : Bool) {motive : List Text → List Token → Prop}
    (nil : ∀ doc, motive doc [])
    (step : ∀ (doc : List Text) (t : Token) (others : List Token) (item : Item) (doc' : List Text)
      (rest : List Token), Step tl doc (t :: others) item doc' rest → motive doc' rest →
      motive doc (t :: others))
    (doc : List Text) (tokens : List Token) : motive doc tokens := by
  refine nested_induction (motive := fun tl' doc tokens => tl' = tl → motive doc tokens)
    (fun _ doc _ => nil doc) ?_ tl doc tokens rfl
  rintro tl' doc t others item doc' rest hstep ih - rfl
  exact step doc t others item doc' rest hstep (ih rfl)

/-! ## Other tokens behind a step -/

/-- **The tokens `rest'` may stand behind a step in place of `rest`**: they start alike, and no
brace is closed in the former that is not closed in the latter. -/
structure Stands (rest rest' : List Token) : Prop where
  /-- Both start with a token of the same kind. -/
  kind : rest.head?.map (·.kind) = rest'.head?.map (·.kind)
  /-- Both or none start a block. -/
  starts : startsBlock rest = startsBlock rest'
  /-- A brace that is not closed in the old tokens is not closed in the new ones. -/
  closes : ∀ depth, closeBrace depth rest = none → closeBrace depth rest' = none

/-- The tokens that a token starts a block with are told by its kind, its value and the next
token. -/
theorem startsBlock_cons (t : Token) (rest : List Token) :
    startsBlock (t :: rest)
      = if t.kind = .newline ∨ t.kind = .doc then startsBlock rest
        else if t.kind = .word then
          topLevelKeywords.contains t.value.lower &&
            (t.value.lower != "note".toList || (rest.head?.map (·.kind)) != some .colon)
        else false := by
  rw [startsBlock]
  cases t.kind <;> simp

namespace Stands

variable {rest rest' : List Token}

/-- The same tokens may be put in front. -/
theorem cons (h : Stands rest rest') (t : Token) : Stands (t :: rest) (t :: rest') := by
  refine ⟨rfl, ?_, fun depth hnone => ?_⟩
  · rw [startsBlock_cons, startsBlock_cons, h.starts, h.kind]
  · rw [closeBrace] at hnone ⊢
    by_cases hc : (t.kind = .closeBrace && depth = 0) = true
    · rw [if_pos hc] at hnone
      cases hnone
    · rw [if_neg hc, Option.map_eq_none_iff] at hnone ⊢
      exact h.closes _ hnone

/-- What stands the same behind stands the same with tokens in front. -/
theorem append (h : Stands rest rest') (front : List Token) :
    Stands (front ++ rest) (front ++ rest') := by
  induction front with
  | nil => exact h
  | cons t front ih => exact ih.cons t

/-- Nothing stands the same as nothing only. -/
theorem nil (h : Stands [] rest') : rest' = [] := by
  have := h.kind
  cases rest' with
  | nil => rfl
  | cons t rest' => simp at this

end Stands

/-- Whether a logical line ends before a token, and with which bracket open. -/
def lineStop (topLevel : Bool) (opened : List Token) (t : Token) (rest : List Token) :
    Option (Option Token) :=
  if t.kind.opens || t.kind.closes then none
  else if opened.isEmpty && (t.kind = .newline || t.kind = .openBrace || t.kind = .closeBrace) then
    some none
  else if topLevel && t.kind = .newline && startsBlock rest then some opened.getLast?
  else none

/-- The brackets that are open behind a token. -/
def openedBehind (opened : List Token) (t : Token) : List Token :=
  if t.kind.opens then t :: opened else if t.kind.closes then opened.tail else opened

/-- A line ends before its next token or goes on with it. -/
theorem scanLine_cons (tl : Bool) (opened : List Token) (t : Token) (rest : List Token) :
    scanLine tl opened (t :: rest) =
      match lineStop tl opened t rest with
      | some u => ⟨[], t :: rest, u⟩
      | none => (scanLine tl (openedBehind opened t) rest).cons t := by
  rw [scanLine, lineStop, openedBehind]
  by_cases h₁ : t.kind.opens = true
  · simp [h₁]
  · -- What closes a bracket ends no line, inside or outside.
    by_cases h₂ : t.kind.closes = true
    · simp [h₁, h₂]
    · simp only [h₁, h₂, Bool.or_self, Bool.false_eq_true, if_false]
      split
      next => rfl
      next => split <;> rfl

/-- Where a line ends is told by the kind of the token and by what a line end is followed by. -/
theorem lineStop_congr (tl : Bool) (opened : List Token) {t t' : Token} {rest rest' : List Token}
    (hkind : t.kind = t'.kind)
    (hstarts : t.kind = .newline → startsBlock rest = startsBlock rest') :
    lineStop tl opened t rest = lineStop tl opened t' rest' := by
  rw [lineStop, lineStop, ← hkind]
  by_cases hn : t.kind = .newline
  · rw [hstarts hn]
  · simp [hn]

/-- **A logical line ends where it ends**, whatever stands behind it. -/
theorem scanLine_swap {tl : Bool} {opened segment rest rest' : List Token} {u : Option Token}
    (h : scanLine tl opened (segment ++ rest) = ⟨segment, rest, u⟩) (hs : Stands rest rest') :
    scanLine tl opened (segment ++ rest') = ⟨segment, rest', u⟩ := by
  induction segment generalizing opened with
  | nil =>
    rw [List.nil_append] at h ⊢
    -- The line stops here, and what stands next has the same kind in both sequences.
    cases rest with
    | nil =>
      rw [hs.nil]
      exact h
    | cons t rest =>
      cases rest' with
      | nil => exact absurd hs.kind (by simp)
      | cons t' rest' =>
        have hkind : t.kind = t'.kind := by simpa using hs.kind
        have hstarts : t.kind = .newline → startsBlock rest = startsBlock rest' := by
          intro hn
          have := hs.starts
          rwa [startsBlock_cons, startsBlock_cons, if_pos (.inl hn),
            if_pos (.inl (hkind ▸ hn))] at this
        rw [scanLine_cons] at h ⊢
        rw [← lineStop_congr tl opened hkind hstarts]
        split at h
        next =>
          simp only [LineScan.mk.injEq, true_and] at h ⊢
          exact h
        next => simp [LineScan.cons] at h
  -- The line goes past the token, as the rest of the segment stays.
  | cons t segment ih =>
    rw [List.cons_append, scanLine_cons] at h ⊢
    rw [← lineStop_congr tl opened rfl fun _ => (hs.append segment).starts]
    split at h
    next => simp at h
    next =>
      cases hscan : scanLine tl (openedBehind opened t) (segment ++ rest) with
      | mk segment' rest₁ u₁ =>
        rw [hscan] at h
        simp only [LineScan.cons, LineScan.mk.injEq, List.cons.injEq, true_and] at h
        obtain ⟨rfl, rfl, rfl⟩ := h
        rw [ih hscan]
        rfl

/-- **A body ends where it ends**, whatever stands behind its closing brace. -/
theorem closeBrace_swap {depth : Nat} {tokens body after : List Token} {close : Token}
    (h : closeBrace depth tokens = some (body, close, after)) (after' : List Token) :
    closeBrace depth (body ++ close :: after') = some (body, close, after') := by
  have htokens := eq_of_closeBrace h
  subst htokens
  induction body generalizing depth with
  | nil =>
    rw [List.nil_append, closeBrace] at h ⊢
    split at h
    next hc => rw [if_pos hc]
    next => simp at h
  | cons t body ih =>
    rw [List.cons_append, closeBrace] at h ⊢
    split at h
    next => simp at h
    next hc =>
      rw [if_neg hc]
      obtain ⟨⟨inner, c, a⟩, hin, heq⟩ := Option.map_eq_some_iff.1 h
      simp only [Prod.mk.injEq, List.cons.injEq, true_and] at heq
      obtain ⟨rfl, rfl, rfl⟩ := heq
      exact Option.map_eq_some_iff.2 ⟨_, ih hin, rfl⟩

/-- **A step is decided by the tokens it takes** and by how the following ones start. -/
theorem Step.swap {tl : Bool} {doc doc' : List Text} {used rest rest' : List Token} {item : Item}
    (h : Step tl doc (used ++ rest) item doc' rest) (hs : Stands rest rest') :
    Step tl doc (used ++ rest') item doc' rest' := by
  generalize htokens : used ++ rest = tokens at h
  cases h with
  | @newline t _ hk =>
    obtain rfl : used = [t] :=
      List.append_cancel_right (htokens.trans (List.singleton_append ..).symm)
    exact .newline hk
  | @doc t _ hk =>
    obtain rfl : used = [t] :=
      List.append_cancel_right (htokens.trans (List.singleton_append ..).symm)
    exact .doc hk
  | @strayBrace t _ hk =>
    obtain rfl : used = [t] :=
      List.append_cancel_right (htokens.trans (List.singleton_append ..).symm)
    exact .strayBrace hk
  -- The brace is left open, whatever stands behind.
  | @bareUnclosed t _ hk hclose =>
    obtain rfl : used = [t] :=
      List.append_cancel_right (htokens.trans (List.singleton_append ..).symm)
    exact .bareUnclosed hk (hs.closes 0 hclose)
  -- The closing brace is among the tokens taken.
  | @bareBlock t others body _ close hk hclose =>
    have hothers := eq_of_closeBrace hclose
    obtain rfl : used = t :: body ++ [close] :=
      List.append_cancel_right (htokens.trans (by rw [hothers]; simp))
    have := closeBrace_swap hclose rest'
    simpa using Step.bareBlock hk this
  -- So is the brace that opens the body that is never closed.
  | @unclosed t others segment _ brace u hk hscan hbrace hclose =>
    have hothers := scanLine_append tl (openedBy t) others
    rw [hscan] at hothers
    obtain rfl : used = t :: segment ++ [brace] :=
      List.append_cancel_right (htokens.trans (by rw [← hothers]; simp))
    rw [← hothers] at hscan
    simpa using Step.unclosed hk (scanLine_swap hscan (hs.cons brace)) hbrace (hs.closes 0 hclose)
  -- The header, the body and both braces are taken.
  | @block t others segment behind body _ brace close u hk hscan hbrace hclose =>
    have hothers := scanLine_append tl (openedBy t) others
    have hbehind := eq_of_closeBrace hclose
    rw [hscan] at hothers
    obtain rfl : used = t :: segment ++ brace :: body ++ [close] :=
      List.append_cancel_right (htokens.trans (by rw [← hothers, hbehind]; simp))
    rw [← hothers, hbehind] at hscan
    have hscan' := scanLine_swap hscan (((hs.cons close).append body).cons brace)
    simpa using Step.block hk hscan' hbrace (closeBrace_swap hclose rest')
  -- What stands behind the line is no brace in the other sequence, either.
  | @line t others segment _ u hk hscan hbrace =>
    have hothers := scanLine_append tl (openedBy t) others
    rw [hscan] at hothers
    obtain rfl : used = t :: segment :=
      List.append_cancel_right (htokens.trans (by rw [← hothers]; simp))
    rw [← hothers] at hscan
    refine .line hk (scanLine_swap hscan hs) fun brace' hhead hopen => ?_
    have hkind := hs.kind
    rw [Option.mem_def.1 hhead, Option.map_some, hopen, Option.map_eq_some_iff] at hkind
    obtain ⟨brace, hhead', hkind⟩ := hkind
    exact hbrace brace hhead' hkind

end SchemaDiagram
