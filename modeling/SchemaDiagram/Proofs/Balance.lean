import SchemaDiagram.Proofs.Views

/-! # Balanced bodies

A body is balanced when every bracket, parenthesis and brace in it is closed by its own kind. Such a
body is read statement by statement without loss: no statement runs out of it with a bracket open,
no brace is stray, and what is left behind a statement is balanced again.

* **`balance owed tokens`** — what is owed behind the tokens, the innermost first; none where they
  do not nest.
* **`openBraces depth tokens`** — how many braces are open behind the tokens, whatever brackets
  stand between them; none where a brace closes nothing. Behind a body none is open.
* **`closeBrace_append`** — tokens whose braces are balanced close none that stands before them, and
  `closeBrace_balanced` that balanced tokens do not.
* **`balance_of_closeBrace`** — the body up to the closing brace is balanced, and so is what
  follows.
* **`Tracks opened owed`** — what a logical line knows of what is owed.
* **`Step.balance_rest`** — a step leaves balanced tokens behind. -/

namespace SchemaDiagram

/-! ## What is owed -/

/-- What is owed behind a token of a kind. -/
def owedAfter (owed : List TokenKind) (k : TokenKind) : Option (List TokenKind) :=
  match k with
  | .openBracket => some (.closeBracket :: owed)
  | .openParen => some (.closeParen :: owed)
  | .openBrace => some (.closeBrace :: owed)
  | .closeBracket | .closeParen | .closeBrace =>
    if owed.head? = some k then some owed.tail else none
  | _ => some owed

/-- What is owed behind some tokens. -/
def balance (owed : List TokenKind) (tokens : List Token) : Option (List TokenKind) :=
  tokens.foldlM (fun owed t => owedAfter owed t.kind) owed

@[simp] theorem balance_nil (owed : List TokenKind) : balance owed [] = some owed := rfl

/-- What is owed goes through the tokens one by one. -/
@[simp] theorem balance_cons (owed : List TokenKind) (t : Token) (rest : List Token) :
    balance owed (t :: rest) = (owedAfter owed t.kind).bind (balance · rest) := rfl

/-- What the first tokens leave owed is where the next ones begin. -/
theorem balance_append (owed : List TokenKind) (a b : List Token) :
    balance owed (a ++ b) = (balance owed a).bind (balance · b) :=
  List.foldlM_append

/-- Only the kinds of the tokens count. -/
theorem balance_map {f : Token → Token} (hf : Keeps f) (owed : List TokenKind)
    (tokens : List Token) : balance owed (tokens.map f) = balance owed tokens := by
  induction tokens generalizing owed with
  | nil => rfl
  | cons t rest ih =>
    rw [List.map_cons, balance_cons, balance_cons, hf.kind]
    congr 1
    funext owed'
    exact ih owed'

/-- What a closing kind closes was owed first. -/
theorem owedAfter_close {owed owed' : List TokenKind} {k : TokenKind}
    (hk : k = .closeBracket ∨ k = .closeParen ∨ k = .closeBrace)
    (h : owedAfter owed k = some owed') : owed = k :: owed' := by
  cases owed with
  | nil => rcases hk with rfl | rfl | rfl <;> simp [owedAfter] at h
  | cons l owed =>
    rcases hk with rfl | rfl | rfl
    all_goals
      simp only [owedAfter, List.head?_cons, Option.some.injEq, List.tail_cons,
        Option.ite_none_right_eq_some] at h
      rw [h.1, h.2]

/-- More may be owed before. -/
theorem owedAfter_append {owed owed' : List TokenKind} {k : TokenKind}
    (h : owedAfter owed k = some owed') (base : List TokenKind) :
    owedAfter (owed ++ base) k = some (owed' ++ base) := by
  -- A closing token pays the first thing that is owed, whatever else is owed behind it.
  have hclose : k = .closeBracket ∨ k = .closeParen ∨ k = .closeBrace →
      owedAfter (owed ++ base) k = some (owed' ++ base) := by
    intro hk
    rw [owedAfter_close hk h]
    rcases hk with rfl | rfl | rfl <;> rfl
  cases k
  case closeBracket => exact hclose (.inl rfl)
  case closeParen => exact hclose (.inr (.inl rfl))
  case closeBrace => exact hclose (.inr (.inr rfl))
  all_goals
    obtain rfl := Option.some.inj h
    rfl

/-- More may be owed before. -/
theorem balance_base {owed owed' : List TokenKind} {tokens : List Token}
    (h : balance owed tokens = some owed') (base : List TokenKind) :
    balance (owed ++ base) tokens = some (owed' ++ base) := by
  induction tokens generalizing owed with
  | nil =>
    obtain rfl := Option.some.inj h
    rfl
  | cons t rest ih =>
    rw [balance_cons, Option.bind_eq_some_iff] at h ⊢
    obtain ⟨mid, hmid, hrest⟩ := h
    exact ⟨mid ++ base, owedAfter_append hmid base, ih hrest⟩

/-- Balanced tokens in front leave what is owed as it is. -/
theorem balance_append_of_balanced {front : List Token} (h : balance [] front = some [])
    (owed : List TokenKind) (back : List Token) :
    balance owed (front ++ back) = balance owed back := by
  have hfront := balance_base h owed
  rw [List.nil_append] at hfront
  rw [balance_append, hfront, Option.bind_some]

/-- What stands before a balanced rest of balanced tokens is balanced. -/
theorem balance_front {front back : List Token} (h : balance [] (front ++ back) = some [])
    (hback : balance [] back = some []) : balance [] front = some [] := by
  rw [balance_append, Option.bind_eq_some_iff] at h
  obtain ⟨owed, howed, hrest⟩ := h
  have hbase := balance_base hback owed
  rw [List.nil_append, hrest] at hbase
  rw [howed, ← hbase]

/-! ## Braces -/

/-- The depth at which a brace is looked for behind a token. -/
def depthAfter (depth : Nat) : TokenKind → Nat
  | .openBrace => depth + 1
  | .closeBrace => depth - 1
  | _ => depth

/-- A brace is found at a token or behind it. -/
theorem closeBrace_cons (depth : Nat) (t : Token) (rest : List Token) :
    closeBrace depth (t :: rest) = if t.kind = .closeBrace ∧ depth = 0 then some ([], t, rest)
      else (closeBrace (depthAfter depth t.kind) rest).map fun (body, close, after) =>
        (t :: body, close, after) := by
  rw [closeBrace]
  by_cases h : t.kind = .closeBrace ∧ depth = 0
  · rw [if_pos h, if_pos (by simp [h.1, h.2])]
  · rw [if_neg h, if_neg (by simpa using h)]
    rfl

/-- The number of braces that are open behind some tokens, when `depth` are open before them. There
is none where a brace closes nothing. -/
def openBraces (depth : Nat) : List Token → Option Nat
  | [] => some depth
  | t :: rest =>
    if t.kind = .closeBrace ∧ depth = 0 then none else openBraces (depthAfter depth t.kind) rest

/-- More braces may be open before. -/
theorem depthAfter_add {depth : Nat} {k : TokenKind} (h : ¬(k = .closeBrace ∧ depth = 0))
    (more : Nat) :
    depthAfter (depth + more) k = depthAfter depth k + more := by
  unfold depthAfter
  split
  next => omega
  next =>
    have hpos : depth ≠ 0 := fun hzero => h ⟨rfl, hzero⟩
    omega
  next => rfl

/-- More braces may be open before, and are open behind. -/
theorem openBraces_add {depth final : Nat} {tokens : List Token}
    (h : openBraces depth tokens = some final) (more : Nat) :
    openBraces (depth + more) tokens = some (final + more) := by
  induction tokens generalizing depth with
  | nil =>
    obtain rfl := Option.some.inj h
    rfl
  | cons t rest ih =>
    rw [openBraces] at h ⊢
    split at h
    next => cases h
    next hstop =>
      -- The scan stops at depth zero only, and with more braces open it is further from that.
      rw [if_neg fun hmore => hstop ⟨hmore.1, by omega⟩, depthAfter_add hstop]
      exact ih h

/-- Tokens of the same kinds open the same braces. -/
theorem openBraces_map {f : Token → Token} (hf : Keeps f) (depth : Nat) (tokens : List Token) :
    openBraces depth (tokens.map f) = openBraces depth tokens := by
  induction tokens generalizing depth with
  | nil => rfl
  | cons t rest ih => rw [List.map_cons, openBraces, openBraces, hf.kind, ih]

/-- **The closing brace is looked for behind the tokens** when it is not found in them. -/
theorem closeBrace_of_openBraces {depth final : Nat} {tokens : List Token}
    (h : openBraces depth tokens = some final) (rest : List Token) :
    closeBrace depth (tokens ++ rest)
      = (closeBrace final rest).map fun (body, close, after) => (tokens ++ body, close, after) := by
  induction tokens generalizing depth with
  | nil =>
    obtain rfl := Option.some.inj h
    simp
  | cons t others ih =>
    -- The closing brace is not among the tokens, so each of them belongs to the body.
    rw [openBraces] at h
    split at h
    next => cases h
    next hstop =>
      rw [List.cons_append, closeBrace_cons, if_neg hstop, ih h, Option.map_map]
      rfl

/-- **Tokens whose braces are balanced close none that stands before them.** -/
theorem closeBrace_append {tokens : List Token} (h : openBraces 0 tokens = some 0) (depth : Nat)
    (rest : List Token) : closeBrace depth (tokens ++ rest)
      = (closeBrace depth rest).map fun (body, close, after) => (tokens ++ body, close, after) := by
  have hadd := openBraces_add h depth
  rw [Nat.zero_add] at hadd
  exact closeBrace_of_openBraces hadd rest

/-- **Behind a body no brace is open.** -/
theorem openBraces_of_closeBrace {depth : Nat} {tokens body after : List Token} {close : Token}
    (h : closeBrace depth tokens = some (body, close, after)) : openBraces depth body = some 0 := by
  induction tokens generalizing depth body with
  | nil => cases h
  | cons t rest ih =>
    rw [closeBrace_cons] at h
    split at h
    -- The scan stops at the closing brace, and the body is empty.
    next hstop =>
      obtain ⟨rfl, -⟩ := Prod.mk.inj (Option.some.inj h)
      rw [openBraces, hstop.2]
    next hstop =>
      obtain ⟨⟨body', _, _⟩, hrest, heq⟩ := Option.map_eq_some_iff.1 h
      obtain ⟨rfl, rfl, rfl⟩ : t :: body' = body ∧ _ = close ∧ _ = after := by simpa using heq
      rw [openBraces, if_neg hstop]
      exact ih hrest

/-- The depth counts the braces that are owed. -/
theorem count_owedAfter {owed owed' : List TokenKind} {k : TokenKind}
    (h : owedAfter owed k = some owed') :
    owed'.count .closeBrace = depthAfter (owed.count .closeBrace) k ∧
      ¬(k = .closeBrace ∧ owed.count .closeBrace = 0) := by
  -- Only the closing brace of a body takes a brace from what is owed.
  have hclose : k = .closeBracket ∨ k = .closeParen ∨ k = .closeBrace →
      owed'.count .closeBrace = depthAfter (owed.count .closeBrace) k ∧
        ¬(k = .closeBrace ∧ owed.count .closeBrace = 0) := by
    intro hk
    rw [owedAfter_close hk h]
    rcases hk with rfl | rfl | rfl <;> simp [depthAfter]
  cases k
  case closeBracket => exact hclose (.inl rfl)
  case closeParen => exact hclose (.inr (.inl rfl))
  case closeBrace => exact hclose (.inr (.inr rfl))
  all_goals
    obtain rfl := Option.some.inj h
    simp [depthAfter]

/-- The braces that are open are among what is owed. -/
theorem openBraces_of_balance {owed owed' : List TokenKind} {tokens : List Token}
    (h : balance owed tokens = some owed') :
    openBraces (owed.count .closeBrace) tokens = some (owed'.count .closeBrace) := by
  induction tokens generalizing owed with
  | nil =>
    obtain rfl := Option.some.inj h
    rfl
  | cons t rest ih =>
    rw [balance_cons, Option.bind_eq_some_iff] at h
    obtain ⟨mid, hmid, hrest⟩ := h
    obtain ⟨hcount, hopen⟩ := count_owedAfter hmid
    rw [openBraces, if_neg hopen, ← hcount]
    exact ih hrest

/-- **Balanced tokens close no brace that stands before them.** -/
theorem closeBrace_balanced {tokens : List Token} (h : balance [] tokens = some [])
    (depth : Nat) (rest : List Token) :
    closeBrace depth (tokens ++ rest)
      = (closeBrace depth rest).map fun (body, close, after) => (tokens ++ body, close, after) :=
  closeBrace_append (openBraces_of_balance h) depth rest

/-- **The body up to the brace that closes it is balanced, and what follows is balanced as before.**
Where the brace is not found, it is still owed in the end. -/
theorem balance_of_closeBrace {inner base final : List TokenKind} {tokens : List Token}
    (h : balance (inner ++ .closeBrace :: base) tokens = some final) :
    match closeBrace (inner.count .closeBrace) tokens with
    | some (body, _, after) => balance inner body = some [] ∧ balance base after = some final
    | none => final ≠ [] := by
  induction tokens generalizing inner with
  | nil =>
    rw [← Option.some.inj h]
    simp [closeBrace]
  | cons t rest ih =>
    rw [balance_cons, Option.bind_eq_some_iff] at h
    obtain ⟨mid, hmid, hrest⟩ := h
    rw [closeBrace_cons]
    by_cases hstop : t.kind = .closeBrace ∧ inner.count .closeBrace = 0
    · rw [if_pos hstop]
      rw [hstop.1] at hmid
      have hhead := owedAfter_close (.inr (.inr rfl)) hmid
      cases inner with
      | nil =>
        obtain rfl := (List.cons.inj hhead).2
        exact ⟨rfl, hrest⟩
      | cons k inner =>
        have hk : k = .closeBrace := (List.cons.inj hhead).1
        exact absurd hstop.2 (by simp [hk])
    · -- The token closes nothing that is owed outside, so it is read inside.
      rw [if_neg hstop]
      have hinner : ∃ inner', owedAfter inner t.kind = some inner' := by
        by_contra hnone
        have hclose : t.kind = .closeBracket ∨ t.kind = .closeParen ∨ t.kind = .closeBrace := by
          by_contra hopen
          apply hnone
          unfold owedAfter
          split <;> simp_all
        have hhead := owedAfter_close hclose hmid
        cases inner with
        | nil =>
          have hk : TokenKind.closeBrace = t.kind := (List.cons.inj hhead).1
          exact hstop ⟨hk.symm, rfl⟩
        | cons k inner =>
          have hk : k = t.kind := (List.cons.inj hhead).1
          refine hnone ⟨inner, ?_⟩
          rw [hk]
          rcases hclose with hc | hc | hc <;> simp [owedAfter, hc]
      obtain ⟨inner', hinner'⟩ := hinner
      obtain rfl := Option.some.inj (hmid.symm.trans (owedAfter_append hinner' _))
      have hcases := ih hrest
      rw [(count_owedAfter hinner').1] at hcases
      cases hclose : closeBrace (depthAfter (inner.count .closeBrace) t.kind) rest with
      | none =>
        rw [hclose] at hcases
        exact hcases
      | some found =>
        obtain ⟨body, close, after⟩ := found
        rw [hclose] at hcases
        refine ⟨?_, hcases.2⟩
        rw [balance_cons, hinner', Option.bind_some]
        exact hcases.1

/-! ## Logical lines -/

/-- **What a logical line knows of what is owed**: as many brackets are open as are owed, and the
outermost thing that is owed is one of them. -/
structure Tracks (opened : List Token) (owed : List TokenKind) : Prop where
  /-- Brackets are counted. -/
  length : opened.length = (owed.filter (· != .closeBrace)).length
  /-- A brace is owed inside brackets only. -/
  last : ∀ k ∈ owed.getLast?, k ≠ .closeBrace

/-- Where nothing is owed, no statement is open. -/
theorem Tracks.nil : Tracks [] [] := ⟨rfl, by simp⟩

/-- Without open brackets nothing is owed. -/
theorem Tracks.eq_nil {owed : List TokenKind} (h : Tracks [] owed) : owed = [] := by
  cases hlast : owed.getLast? with
  | none => exact List.getLast?_eq_none_iff.1 hlast
  | some k =>
    have hmem : k ∈ owed.filter (· != .closeBrace) :=
      List.mem_filter.2 ⟨List.mem_of_getLast? hlast, by simpa using h.last k hlast⟩
    rw [List.length_eq_zero_iff.1 h.length.symm] at hmem
    cases hmem

/-- What is owed outermost stays so when something more is owed inside. -/
theorem Tracks.last_cons {opened : List Token} {owed : List TokenKind} (h : Tracks opened owed)
    {k : TokenKind} (hk : owed = [] → k ≠ .closeBrace) :
    ∀ l ∈ (k :: owed).getLast?, l ≠ .closeBrace := by
  intro l hl
  cases hlast : owed.getLast? with
  | none =>
    obtain rfl := List.getLast?_eq_none_iff.1 hlast
    obtain rfl := Option.some.inj hl
    exact hk rfl
  | some m =>
    rw [List.getLast?_cons, hlast] at hl
    obtain rfl := Option.some.inj hl
    exact h.last m hlast

/-- What is owed outermost stays so when something inside is no more owed. -/
theorem Tracks.last_tail {opened : List Token} {k : TokenKind} {owed : List TokenKind}
    (h : Tracks opened (k :: owed)) : ∀ l ∈ owed.getLast?, l ≠ .closeBrace := by
  intro l hl
  refine h.last l ?_
  rw [List.getLast?_cons, hl]
  rfl

/-- **A logical line that goes on keeps track.** -/
theorem Tracks.behind {opened : List Token} {owed owed' : List TokenKind} {t : Token}
    {rest : List Token} (h : Tracks opened owed) (hstop : lineStop false opened t rest = none)
    (howed : owedAfter owed t.kind = some owed') : Tracks (openedBehind opened t) owed' := by
  -- Outside brackets an opening brace ends the line.
  have hnone : opened = [] → t.kind ≠ .openBrace := by
    rintro rfl hk
    simp [lineStop, hk, TokenKind.opens, TokenKind.closes] at hstop
  rw [openedBehind]
  cases hk : t.kind <;> rw [hk] at howed
  case openBracket =>
    obtain rfl := Option.some.inj howed
    exact ⟨by simp [TokenKind.opens, h.length], h.last_cons fun _ => by decide⟩
  case openParen =>
    obtain rfl := Option.some.inj howed
    exact ⟨by simp [TokenKind.opens, h.length], h.last_cons fun _ => by decide⟩
  case closeBracket =>
    obtain rfl := owedAfter_close (.inl rfl) howed
    exact ⟨by simp [TokenKind.opens, TokenKind.closes, h.length], h.last_tail⟩
  case closeParen =>
    obtain rfl := owedAfter_close (.inr (.inl rfl)) howed
    exact ⟨by simp [TokenKind.opens, TokenKind.closes, h.length], h.last_tail⟩
  -- A brace is owed inside brackets, so it is not the outermost thing.
  case openBrace =>
    obtain rfl := Option.some.inj howed
    refine ⟨by simp [TokenKind.opens, TokenKind.closes, h.length], h.last_cons ?_⟩
    rintro rfl
    exact absurd hk (hnone (List.length_eq_zero_iff.1 h.length))
  case closeBrace =>
    obtain rfl := owedAfter_close (.inr (.inr rfl)) howed
    exact ⟨by simp [TokenKind.opens, TokenKind.closes, h.length], h.last_tail⟩
  all_goals
    obtain rfl := Option.some.inj howed
    exact h

/-- **A logical line of balanced tokens is balanced**, and so is what follows it: it ends with
nothing open. -/
theorem balance_of_scanLine {opened segment rest tokens : List Token} {owed : List TokenKind}
    {u : Option Token} (hscan : scanLine false opened tokens = ⟨segment, rest, u⟩)
    (h : Tracks opened owed) (hb : balance owed tokens = some []) :
    balance owed segment = some [] ∧ balance [] rest = some [] ∧
      ∀ t ∈ rest.head?, t.kind = .newline ∨ t.kind = .openBrace ∨ t.kind = .closeBrace := by
  induction tokens generalizing opened owed segment with
  | nil =>
    cases hscan
    exact ⟨hb, rfl, by simp⟩
  | cons t others ih =>
    rw [scanLine_cons] at hscan
    cases hstop : lineStop false opened t others with
    | some v =>
      rw [hstop] at hscan
      cases hscan
      -- The line stops outside brackets only, so nothing is open and nothing is owed.
      have hopened : opened = [] ∧
          (t.kind = .newline ∨ t.kind = .openBrace ∨ t.kind = .closeBrace) := by
        simp only [lineStop] at hstop
        split at hstop
        next => cases hstop
        next =>
          split at hstop
          next hc => simpa [List.isEmpty_iff, or_assoc] using hc
          next => simp at hstop
      obtain ⟨rfl, hkind⟩ := hopened
      obtain rfl := h.eq_nil
      exact ⟨rfl, hb, by simpa using hkind⟩
    | none =>
      rw [hstop] at hscan
      -- The line goes on: what the token leaves owed is what the rest is scanned with.
      rw [balance_cons, Option.bind_eq_some_iff] at hb
      obtain ⟨mid, hmid, hothers⟩ := hb
      generalize hinner : scanLine false (openedBehind opened t) others = scan at hscan
      obtain ⟨segment', rest', u'⟩ := scan
      cases hscan
      obtain ⟨hsegment, hrest⟩ := ih hinner (h.behind hstop hmid) hothers
      refine ⟨?_, hrest⟩
      rw [balance_cons, hmid, Option.bind_some]
      exact hsegment

/-! ## Steps -/

/-- The first token of a statement starts the track. -/
theorem Tracks.openedBy {t : Token} {owed : List TokenKind} (h : t.kind.startsStatement = true)
    (howed : owedAfter [] t.kind = some owed) : Tracks (openedBy t) owed := by
  have hstop : lineStop false [] t [] = none := by
    cases hk : t.kind <;> simp [hk, TokenKind.startsStatement] at h <;>
      simp [lineStop, hk, TokenKind.opens, TokenKind.closes]
  have hbehind := Tracks.nil.behind hstop howed
  rw [openedBehind] at hbehind
  rw [SchemaDiagram.openedBy]
  split
  next hopens => rwa [if_pos hopens] at hbehind
  next hopens =>
    rw [if_neg hopens] at hbehind
    simpa using hbehind

/-- **A step of balanced tokens leaves balanced tokens behind**, and it finds no block that is not
closed. -/
theorem Step.balance_rest {doc doc' : List Text} {tokens rest : List Token} {item : Item}
    (h : Step false doc tokens item doc' rest) (hb : balance [] tokens = some []) :
    balance [] rest = some [] := by
  -- A brace is owed for an opening brace, so `balance_of_closeBrace` finds it behind any tokens.
  have howed : ∀ {behind : List Token}, balance [.closeBrace] behind = some [] →
      balance ([] ++ .closeBrace :: []) behind = some [] := id
  -- A block that is not closed would leave its brace owed.
  have hunclosed : ∀ {behind : List Token}, closeBrace 0 behind = none →
      balance [.closeBrace] behind ≠ some [] := by
    intro behind hclose hbehind
    have hcases := balance_of_closeBrace (howed hbehind)
    rw [List.count_nil, hclose] at hcases
    exact hcases rfl
  have hclosed : ∀ {behind body after : List Token} {close : Token},
      closeBrace 0 behind = some (body, close, after) → balance [.closeBrace] behind = some [] →
      balance [] after = some [] := by
    intro behind body after close hclose hbehind
    have hcases := balance_of_closeBrace (howed hbehind)
    rw [List.count_nil, hclose] at hcases
    exact hcases.2
  have hline : ∀ {t : Token} {others segment behind : List Token} {u : Option Token},
      t.kind.startsStatement = true → balance [] (t :: others) = some [] →
      scanLine false (SchemaDiagram.openedBy t) others = ⟨segment, behind, u⟩ →
      balance [] behind = some [] := by
    intro t others segment behind u hstart hbt hscan
    rw [balance_cons, Option.bind_eq_some_iff] at hbt
    obtain ⟨mid, hmid, hothers⟩ := hbt
    exact (balance_of_scanLine hscan (Tracks.openedBy hstart hmid) hothers).2.1
  have hbrace : ∀ {brace : Token} {behind : List Token}, brace.kind = .openBrace →
      balance [] (brace :: behind) = some [] → balance [.closeBrace] behind = some [] := by
    intro brace behind hkind hbb
    rw [balance_cons, hkind] at hbb
    exact hbb
  cases h with
  | newline hk => rwa [balance_cons, hk] at hb
  | doc hk => rwa [balance_cons, hk] at hb
  -- A closing brace that closes nothing cannot be balanced.
  | strayBrace hk =>
    rw [balance_cons, hk] at hb
    cases hb
  -- Neither can a block that is not closed.
  | bareUnclosed hk hclose => exact absurd (hbrace hk hb) (hunclosed hclose)
  | bareBlock hk hclose => exact hclosed hclose (hbrace hk hb)
  | unclosed hstart hscan hkind hclose =>
    exact absurd (hbrace hkind (hline hstart hb hscan)) (hunclosed hclose)
  | block hstart hscan hkind hclose => exact hclosed hclose (hbrace hkind (hline hstart hb hscan))
  | line hstart hscan => exact hline hstart hb hscan

end SchemaDiagram
