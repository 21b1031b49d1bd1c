import SchemaDiagram.Proofs.Views

/-! # Nested tokens

Tokens in which every bracket and parenthesis is closed by its own kind, and in which no brace
stands, go through the parser as one: no line ends in them, no block and no list is closed in them.

* **`nesting commas owed tokens`** — the closing brackets that are owed behind the tokens, the
  innermost first; none where they do not nest.
* **`isQuiet tokens`** — no line end is followed by the start of a block.
* **`closeBracket?_nested`**, **`closeBrace_nested`**, **`scanLine_nested`** — what the parser makes
  of nested tokens. -/

namespace SchemaDiagram

/-! ## Nesting -/

/-- The closing brackets that are owed behind a token of a kind. Without `commas` no comma may stand
outside brackets. -/
def owedBehind (commas : Bool) (owed : List TokenKind) (k : TokenKind) : Option (List TokenKind) :=
  match k with
  | .openBracket => some (.closeBracket :: owed)
  | .openParen => some (.closeParen :: owed)
  | .closeBracket | .closeParen => if owed.head? = some k then some owed.tail else none
  | .openBrace | .closeBrace => none
  | .comma => if commas || !owed.isEmpty then some owed else none
  | _ => some owed

/-- The closing brackets that are owed behind some tokens. -/
def nesting (commas : Bool) (owed : List TokenKind) (tokens : List Token) :
    Option (List TokenKind) :=
  tokens.foldlM (fun owed t => owedBehind commas owed t.kind) owed

@[simp] theorem nesting_nil (commas : Bool) (owed : List TokenKind) :
    nesting commas owed [] = some owed := rfl

/-- What is owed goes through the tokens one by one. -/
@[simp] theorem nesting_cons (commas : Bool) (owed : List TokenKind) (t : Token)
    (rest : List Token) :
    nesting commas owed (t :: rest)
      = (owedBehind commas owed t.kind).bind (nesting commas · rest) := rfl

/-- What the first tokens leave owed is where the next ones begin. -/
theorem nesting_append (commas : Bool) (owed : List TokenKind) (a b : List Token) :
    nesting commas owed (a ++ b) = (nesting commas owed a).bind (nesting commas · b) :=
  List.foldlM_append

/-- Only the kinds of the tokens count. -/
theorem nesting_map {f : Token → Token} (hf : Keeps f) (commas : Bool) (owed : List TokenKind)
    (tokens : List Token) : nesting commas owed (tokens.map f) = nesting commas owed tokens := by
  induction tokens generalizing owed with
  | nil => rfl
  | cons t rest ih =>
    rw [List.map_cons, nesting_cons, nesting_cons, hf.kind]
    congr 1
    funext owed'
    exact ih owed'

/-- What nests without commas nests with them. -/
theorem nesting_commas {owed owed' : List TokenKind} {tokens : List Token}
    (h : nesting false owed tokens = some owed') : nesting true owed tokens = some owed' := by
  induction tokens generalizing owed with
  | nil => exact h
  | cons t rest ih =>
    rw [nesting_cons, Option.bind_eq_some_iff] at h ⊢
    obtain ⟨mid, hmid, hrest⟩ := h
    refine ⟨mid, ?_, ih hrest⟩
    unfold owedBehind at hmid ⊢
    split at hmid <;> simp_all

/-- **A list is not closed in nested tokens**: brackets that close are those that were opened. -/
theorem closeBracket?_nested {commas : Bool} {owed owed' : List TokenKind} {tokens : List Token}
    (h : nesting commas owed tokens = some owed') (rest : List Token) :
    Header.closeBracket? (owed.count .closeBracket) (tokens ++ rest)
      = Header.closeBracket? (owed'.count .closeBracket) rest := by
  induction tokens generalizing owed with
  | nil =>
    obtain rfl : owed = owed' := by simpa using h
    rfl
  | cons t others ih =>
    rw [nesting_cons, Option.bind_eq_some_iff] at h
    obtain ⟨mid, hmid, hothers⟩ := h
    rw [← ih hothers, List.cons_append, Header.closeBracket?]
    unfold owedBehind at hmid
    cases hk : t.kind <;> simp only [hk] at hmid ⊢
    -- What is opened is owed from there on, and the count says so on both sides.
    case openBracket => cases hmid; simp
    case openParen => cases hmid; simp
    -- The bracket is the one owed last, so one less is owed behind it.
    case closeBracket =>
      cases owed with
      | nil => simp at hmid
      | cons k owed =>
        simp only [List.head?_cons, Option.some.injEq, List.tail_cons,
          Option.ite_none_right_eq_some]
          at hmid
        obtain ⟨rfl, rfl⟩ := hmid
        simp
    -- A parenthesis changes what is owed, not how many brackets are.
    case closeParen =>
      cases owed with
      | nil => simp at hmid
      | cons k owed =>
        simp only [List.head?_cons, Option.some.injEq, List.tail_cons,
          Option.ite_none_right_eq_some]
          at hmid
        obtain ⟨rfl, rfl⟩ := hmid
        simp
    all_goals simp_all

/-- **A block is not closed in nested tokens**, which hold no braces. -/
theorem closeBrace_nested {commas : Bool} {owed owed' : List TokenKind} {tokens : List Token}
    (h : nesting commas owed tokens = some owed') (depth : Nat) (rest : List Token) :
    closeBrace depth (tokens ++ rest)
      = (closeBrace depth rest).map fun (body, close, after) => (tokens ++ body, close, after) := by
  induction tokens generalizing owed with
  | nil => simp
  | cons t others ih =>
    rw [nesting_cons, Option.bind_eq_some_iff] at h
    obtain ⟨mid, hmid, hothers⟩ := h
    rw [List.cons_append, closeBrace]
    unfold owedBehind at hmid
    cases hk : t.kind <;> simp only [hk] at hmid ⊢
    -- Braces are never part of nested tokens.
    case openBrace => cases hmid
    case closeBrace => cases hmid
    all_goals
      simp only [reduceCtorEq, decide_false, Bool.false_and, Bool.false_eq_true, if_false]
      rw [ih hothers, Option.map_map]
      rfl

/-! ## Quiet tokens -/

/-- The tokens do not go on with a statement that stands before them: they start no block, and no
colon stands first. -/
structure Closes (rest : List Token) : Prop where
  /-- The tokens start no block. -/
  starts : startsBlock rest = false
  /-- They do not start with a colon. -/
  colon : rest.head?.map (·.kind) ≠ some .colon

/-- Whether no line end is followed by the start of a block. -/
def isQuiet : List Token → Bool
  | [] => true
  | t :: rest => (t.kind != .newline || !startsBlock rest) && isQuiet rest

/-- The empty list of tokens leaves nothing open. -/
theorem Closes.nil : Closes [] := ⟨rfl, by simp⟩

/-- A token that is no word, line end, doc comment or colon closes what stands before it. -/
theorem Closes.cons {t : Token} (rest : List Token)
    (h : t.kind ≠ .word ∧ t.kind ≠ .newline ∧ t.kind ≠ .doc ∧ t.kind ≠ .colon) :
    Closes (t :: rest) := by
  obtain ⟨hword, hline, hdoc, hcolon⟩ := h
  refine ⟨?_, by simpa using hcolon⟩
  rw [startsBlock_cons, if_neg (by simp [hline, hdoc]), if_neg hword]

/-- Whether a block starts is decided before tokens that close. -/
theorem startsBlock_append {rest : List Token} (h : Closes rest) (tokens : List Token) :
    startsBlock (tokens ++ rest) = startsBlock tokens := by
  induction tokens with
  | nil => exact h.starts
  | cons t others ih =>
    rw [List.cons_append, startsBlock_cons, startsBlock_cons, ih]
    cases others with
    | nil =>
      have hcolon : (rest.head?.map (·.kind) != some TokenKind.colon) = true := by
        simpa using h.colon
      rw [List.nil_append, hcolon]
      rfl
    | cons u others => rfl

/-- Whether a block starts is decided before a colon. -/
theorem startsBlock_colon {c c' : Token} (hc : c.kind = .colon) (hc' : c'.kind = .colon)
    (tokens rest rest' : List Token) :
    startsBlock (tokens ++ c :: rest) = startsBlock (tokens ++ c' :: rest') := by
  induction tokens with
  | nil => simp [startsBlock_cons, hc, hc']
  | cons t others ih =>
    rw [List.cons_append, List.cons_append, startsBlock_cons, startsBlock_cons, ih]
    cases others with
    | nil => simp [hc, hc']
    | cons u others => rfl

/-- Tokens are quiet when both of their parts are, if the second part closes what it opens. -/
theorem isQuiet_append {rest : List Token} (h : Closes rest) (tokens : List Token) :
    isQuiet (tokens ++ rest) = (isQuiet tokens && isQuiet rest) := by
  induction tokens with
  | nil => rfl
  | cons t others ih =>
    rw [List.cons_append, isQuiet, isQuiet, startsBlock_append h, ih, Bool.and_assoc]

/-- What stands behind a colon may be replaced by quiet tokens. -/
theorem isQuiet_colon {c c' : Token} (hc : c.kind = .colon) (hc' : c'.kind = .colon)
    {tokens rest rest' : List Token} (h : isQuiet (tokens ++ c :: rest) = true)
    (hrest : isQuiet rest' = true) : isQuiet (tokens ++ c' :: rest') = true := by
  induction tokens with
  | nil => simp [isQuiet, hc', hrest]
  | cons t others ih =>
    rw [List.cons_append, isQuiet, Bool.and_eq_true] at h ⊢
    rw [startsBlock_colon hc' hc others rest' rest]
    exact ⟨h.1, ih h.2⟩

/-- Only the kinds of the tokens count for whether they are quiet. -/
theorem isQuiet_map {f : Token → Token} (hf : Keeps f) (tokens : List Token) :
    isQuiet (tokens.map f) = isQuiet tokens := by
  induction tokens with
  | nil => rfl
  | cons t rest ih => rw [List.map_cons, isQuiet, isQuiet, hf.kind, startsBlock_map hf, ih]

/-- Tokens without line ends are quiet. -/
theorem isQuiet_of_no_newline {tokens : List Token} (h : ∀ t ∈ tokens, t.kind ≠ .newline) :
    isQuiet tokens = true := by
  induction tokens with
  | nil => rfl
  | cons t rest ih =>
    rw [isQuiet, ih fun u hu => h u (List.mem_cons_of_mem _ hu)]
    simp [h t (List.mem_cons_self ..)]

/-! ## Logical lines -/

/-- The line with tokens put in front. -/
def LineScan.prepend (tokens : List Token) (scan : LineScan) : LineScan :=
  { scan with segment := tokens ++ scan.segment }

/-- Inside a bracket, a line ends only before a block. -/
theorem lineStop_opened {tl : Bool} {opened : List Token} (hopened : opened ≠ []) {t : Token}
    {rest : List Token} (h : t.kind = .newline → startsBlock rest = false) :
    lineStop tl opened t rest = none := by
  rw [lineStop]
  have hempty : opened.isEmpty = false := by simpa using hopened
  by_cases hn : t.kind = .newline
  · simp [hn, h hn, hempty, TokenKind.opens, TokenKind.closes]
  · simp [hn, hempty]

/-- Behind a token of nested tokens as many brackets are open as are owed. -/
theorem openedBehind_nested {commas : Bool} {owed owed' : List TokenKind} {t : Token}
    (h : owedBehind commas owed t.kind = some owed') {opened : List Token}
    (hlen : opened.length = owed.length) (base : List Token) :
    ∃ opened', opened'.length = owed'.length ∧
      openedBehind (opened ++ base) t = opened' ++ base := by
  unfold owedBehind at h
  cases hk : t.kind <;> simp only [hk] at h
  -- Each token that opens is pushed on both stacks.
  case openBracket =>
    cases h
    exact ⟨t :: opened, by simp [hlen], by simp [openedBehind, hk, TokenKind.opens]⟩
  case openParen =>
    cases h
    exact ⟨t :: opened, by simp [hlen], by simp [openedBehind, hk, TokenKind.opens]⟩
  -- What closes takes the top off both stacks, which are as long as each other.
  case closeBracket =>
    obtain ⟨hhead, heq⟩ := Option.ite_none_right_eq_some.1 h
    obtain rfl := Option.some.inj heq
    cases opened with
    | nil => cases owed <;> simp_all
    | cons o opened =>
      exact ⟨opened, by rw [List.length_tail, ← hlen]; rfl,
        by simp [openedBehind, hk, TokenKind.opens, TokenKind.closes]⟩
  case closeParen =>
    obtain ⟨hhead, heq⟩ := Option.ite_none_right_eq_some.1 h
    obtain rfl := Option.some.inj heq
    cases opened with
    | nil => cases owed <;> simp_all
    | cons o opened =>
      exact ⟨opened, by rw [List.length_tail, ← hlen]; rfl,
        by simp [openedBehind, hk, TokenKind.opens, TokenKind.closes]⟩
  case openBrace => cases h
  case closeBrace => cases h
  -- A comma is allowed or not, and it opens nothing.
  case comma =>
    obtain ⟨-, heq⟩ := Option.ite_none_right_eq_some.1 h
    obtain rfl := Option.some.inj heq
    exact ⟨opened, hlen, by simp [openedBehind, hk, TokenKind.opens, TokenKind.closes]⟩
  all_goals
    cases h
    exact ⟨opened, hlen, by simp [openedBehind, hk, TokenKind.opens, TokenKind.closes]⟩

/-- **A logical line goes through nested, quiet tokens** inside a bracket. -/
theorem scanLine_nested {tl commas : Bool} {owed owed' : List TokenKind} {tokens rest : List Token}
    (h : nesting commas owed tokens = some owed') (hq : isQuiet tokens = true) (hrest : Closes rest)
    {opened base : List Token} (hlen : opened.length = owed.length) (hbase : base ≠ []) :
    ∃ opened', opened'.length = owed'.length ∧
      scanLine tl (opened ++ base) (tokens ++ rest)
        = (scanLine tl (opened' ++ base) rest).prepend tokens := by
  induction tokens generalizing owed opened with
  | nil =>
    obtain rfl : owed = owed' := by simpa using h
    exact ⟨opened, hlen, rfl⟩
  | cons t others ih =>
    rw [nesting_cons, Option.bind_eq_some_iff] at h
    obtain ⟨mid, hmid, hothers⟩ := h
    rw [isQuiet, Bool.and_eq_true] at hq
    obtain ⟨opened₁, hlen₁, hopened₁⟩ := openedBehind_nested hmid hlen base
    obtain ⟨opened', hlen', hscan⟩ := ih hothers hq.2 hlen₁
    refine ⟨opened', hlen', ?_⟩
    -- Inside a bracket only a newline ahead of a block ends the line, and the tokens are quiet.
    have hstop : lineStop tl (opened ++ base) t (others ++ rest) = none := by
      refine lineStop_opened (by simp [hbase]) fun hn => ?_
      rw [startsBlock_append hrest]
      simpa [hn] using hq.1
    rw [List.cons_append, scanLine_cons, hstop, hopened₁]
    dsimp only
    rw [hscan]
    rfl

/-- **Nested tokens inside a bracket are quiet** when a logical line goes through them. -/
theorem isQuiet_of_scanLine {commas : Bool} {owed owed' : List TokenKind}
    {tokens rest segment behind : List Token} {u : Option Token}
    (h : nesting commas owed tokens = some owed') (hrest : Closes rest) {opened base : List Token}
    (hlen : opened.length = owed.length) (hbase : base ≠ [])
    (hscan : scanLine true (opened ++ base) (tokens ++ rest) = ⟨tokens ++ segment, behind, u⟩) :
    isQuiet tokens = true := by
  induction tokens generalizing owed opened with
  | nil => rfl
  | cons t others ih =>
    rw [nesting_cons, Option.bind_eq_some_iff] at h
    obtain ⟨mid, hmid, hothers⟩ := h
    obtain ⟨opened₁, hlen₁, hopened₁⟩ := openedBehind_nested hmid hlen base
    rw [List.cons_append, scanLine_cons] at hscan
    split at hscan
    next => simp at hscan
    next hstop =>
      rw [hopened₁] at hscan
      -- The line has gone past the token, so the rest of it is the line of the rest.
      have hscan' : scanLine true (opened₁ ++ base) (others ++ rest)
          = ⟨others ++ segment, behind, u⟩ := by
        cases hs : scanLine true (opened₁ ++ base) (others ++ rest) with
        | mk segment' behind' u' =>
          rw [hs] at hscan
          simpa [LineScan.cons] using hscan
      rw [isQuiet, ih hothers hlen₁ hscan', Bool.and_true]
      -- Only of a newline has quiet something to say: that no block starts behind it.
      by_cases hn : t.kind = .newline
      · have hempty : (opened ++ base).isEmpty = false := by simp [hbase]
        rw [lineStop, startsBlock_append hrest] at hstop
        simpa [hn, hempty, TokenKind.opens, TokenKind.closes] using hstop
      · simp [hn]

end SchemaDiagram
