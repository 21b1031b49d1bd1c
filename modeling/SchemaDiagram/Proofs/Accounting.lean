import SchemaDiagram.Proofs.Balance
import SchemaDiagram.Proofs.WellNested

/-! # Nothing is dropped silently

Braces are matched without regard to brackets, and a logical line runs over the braces inside its
brackets, so the two views of a text may disagree. Every such disagreement ends in a node or in a
report: each token but line ends and doc comments belongs to exactly one node, or to one statement
that is left out and reported on its line.

* **`Skipped`** — a statement that is left out, with what is reported; `Skipped.Reason` says why.
* **`Accounted`** — every token is in one node or one skipped statement, and a brace that is
  reported as not closed is one of a skipped statement; `exists_accounted` says so of every
  sequence.
* **`BracesClosed`** — every brace is closed; the body of a block is so, and no brace is reported in
  it.
* **`tokens_accounted`** — the tokens of every text are accounted for. -/

namespace SchemaDiagram

/-! ## Braces that are closed -/

/-- Every brace that is opened in the tokens is closed in them. -/
def BracesClosed (tokens : List Token) : Prop :=
  ∀ front t back, tokens = front ++ t :: back → t.kind = .openBrace →
    (closeBrace 0 back).isSome = true

/-- What stands behind closes its braces when the whole does. -/
theorem BracesClosed.right (front : List Token) {back : List Token}
    (h : BracesClosed (front ++ back)) :
    BracesClosed back := fun ahead t behind heq =>
  h (front ++ ahead) t behind (by rw [heq, List.append_assoc])

/-- The braces are closed when the first one is, if it is one, and those behind it are. -/
theorem bracesClosed_cons {t : Token} {rest : List Token} : BracesClosed (t :: rest) ↔
    (t.kind = .openBrace → (closeBrace 0 rest).isSome = true) ∧ BracesClosed rest := by
  refine ⟨fun h => ⟨h [] t rest rfl, BracesClosed.right [t] h⟩, fun ⟨hfirst, hrest⟩ => ?_⟩
  intro front u back heq hkind
  cases front with
  | nil =>
    obtain ⟨rfl, rfl⟩ := List.cons.inj heq
    exact hfirst hkind
  | cons v front => exact hrest front u back (List.cons.inj heq).2 hkind

instance decidableBracesClosed : (tokens : List Token) → Decidable (BracesClosed tokens)
  | [] => isTrue fun front t back heq => by simp at heq
  | t :: rest =>
    have := decidableBracesClosed rest
    decidable_of_iff' _ bracesClosed_cons

/-- Tokens that leave no brace open close the inner ones, too. -/
theorem isSome_closeBrace {depth inner : Nat} {tokens : List Token}
    (h : openBraces depth tokens = some 0) (hlt : inner < depth) :
    (closeBrace inner tokens).isSome = true := by
  induction tokens generalizing depth inner with
  | nil =>
    obtain rfl := Option.some.inj h
    omega
  | cons t rest ih =>
    -- The depth outside is above the one inside, so the first scan does not stop here.
    rw [openBraces, if_neg (by omega)] at h
    rw [closeBrace_cons]
    split
    next => rfl
    next hstop =>
      rw [Option.isSome_map]
      refine ih h ?_
      unfold depthAfter
      split
      next => omega
      next hkind =>
        -- A closing brace at depth zero inside would have stopped the scan above.
        have hpos : inner ≠ 0 := fun hzero => hstop ⟨hkind, hzero⟩
        omega
      next => exact hlt

/-- Where no brace is left open, each is closed. -/
theorem BracesClosed.of_openBraces {depth : Nat} {tokens : List Token}
    (h : openBraces depth tokens = some 0) : BracesClosed tokens := by
  induction tokens generalizing depth with
  | nil =>
    intro front t back heq
    simp at heq
  | cons t rest ih =>
    rw [openBraces] at h
    split at h
    next => cases h
    next =>
      refine bracesClosed_cons.2 ⟨fun hkind => ?_, ih h⟩
      rw [hkind] at h
      exact isSome_closeBrace h (Nat.succ_pos depth)

/-- **The braces of a body are closed.** -/
theorem BracesClosed.of_closeBrace {depth : Nat} {tokens body after : List Token} {close : Token}
    (h : closeBrace depth tokens = some (body, close, after)) : BracesClosed body :=
  .of_openBraces (openBraces_of_closeBrace h)

/-! ## Skipped statements -/

/-- A statement that no node is read from: its first token, the others and what is reported on the
line of the first one. -/
structure Skipped where
  /-- The first token. -/
  first : Token
  /-- The others. -/
  others : List Token
  /-- What is wrong with the statement. -/
  problem : Problem

namespace Skipped

/-- The tokens of the statement. -/
def tokens (k : Skipped) : List Token := k.first :: k.others

/-- What is reported: the problem on the line of the first token. -/
def report (k : Skipped) : Diagnostic := k.first.report k.problem

/-- **Why a statement is left out** before the tokens `behind`: it is a closing brace, it ends with
a brace that is not closed there, or it is none of the top level. -/
inductive Reason (topLevel : Bool) (behind : List Token) : Skipped → Prop
  | unmatched {t : Token} (h : t.kind = .closeBrace) :
    Reason topLevel behind ⟨t, [], .unmatchedBrace⟩
  | unclosed {t brace : Token} {others : List Token} (hlast : (t :: others).getLast? = some brace)
      (hbrace : brace.kind = .openBrace) (hclose : closeBrace 0 behind = none) :
      Reason topLevel behind ⟨t, others, .unclosedBrace t.value⟩
  | unexpected {t : Token} {others : List Token} (htop : topLevel = true) :
      Reason topLevel behind ⟨t, others, .unexpectedStatement t.value⟩

end Skipped

/-- The report is about a brace that is not closed. -/
def Diagnostic.TellsUnclosed (d : Diagnostic) : Prop := ∃ first, d.problem = .unclosedBrace first

/-- **The tokens are accounted for** by contents that are read from them before the tokens `behind`,
and by the statements that are left out. -/
structure Accounted (topLevel : Bool) (tokens behind : List Token) (c : Contents)
    (skipped : List Skipped) : Prop where
  /-- A skipped statement stands among the tokens, and there is a reason for it. -/
  reason : ∀ k ∈ skipped, ∃ front back, tokens = front ++ k.tokens ++ back ∧
    k.Reason topLevel (back ++ behind)
  /-- It is reported. -/
  reported : ∀ k ∈ skipped, k.report ∈ c.problems
  /-- A brace that is reported as not closed is one of a skipped statement. -/
  unclosed : ∀ d ∈ c.problems, d.TellsUnclosed → ∃ k ∈ skipped, k.report = d
  /-- Every token but line ends and doc comments is in one node or one skipped statement. -/
  once : ∀ t ∈ tokens, t.kind ≠ .newline → t.kind ≠ .doc →
    c.places.countP (·.Covers t) + skipped.countP (t ∈ ·.tokens) = 1

namespace Accounted

variable {tl : Bool} {used rest tokens behind : List Token} {a b c : Contents}
  {ka kb skipped : List Skipped}

/-- Line ends and doc comments need no account. -/
theorem gap (h : ∀ t ∈ tokens, t.kind = .newline ∨ t.kind = .doc) :
    Accounted tl tokens behind .empty [] :=
  ⟨by simp, by simp, by simp [Contents.empty],
    fun t ht hline hdoc => ((h t ht).elim hline hdoc).elim⟩

/-- A statement that is left out accounts for its tokens. -/
theorem skip {k : Skipped} (hreason : k.Reason tl behind) (hplaces : c.places = [])
    (hreport : k.report ∈ c.problems)
      (hunclosed : ∀ d ∈ c.problems, d.TellsUnclosed → k.report = d) :
    Accounted tl k.tokens behind c [k] := by
  refine ⟨?_, by simpa using hreport, by simpa using hunclosed, fun t ht _ _ => ?_⟩
  · simpa using ⟨[], [], by simp, hreason⟩
  · rw [hplaces, List.countP_singleton, if_pos (by simpa using ht)]
    rfl

/-- A node accounts for the tokens that it covers. -/
theorem node {p : Place} (hplaces : c.places = [p])
    (hcovers : ∀ t ∈ tokens, t.kind ≠ .doc → p.Covers t)
    (hunclosed : ∀ d ∈ c.problems, ¬ d.TellsUnclosed) : Accounted tl tokens behind c [] := by
  refine ⟨by simp, by simp, fun d hd htells => (hunclosed d hd htells).elim, fun t ht _ hdoc => ?_⟩
  rw [hplaces, List.countP_singleton, if_pos (by simpa using hcovers t ht hdoc)]
  rfl

/-- **Tokens one behind the other are accounted for by both contents.** -/
theorem append {s : Text} (ha : Accounted tl used (rest ++ behind) a ka)
    (hb : Accounted tl rest behind b kb) (has : a.Sits s used) (hbs : b.Sits s rest)
    (h : Apart (used ++ rest)) : Accounted tl (used ++ rest) behind (a ++ b) (ka ++ kb) := by
  -- No token belongs to both parts, so what one part takes or leaves out is not counted in the
  -- other.
  have hapart : ∀ t ∈ used, t ∉ rest := by
    intro t ht hrest
    have hbefore := h.stop_le ht hrest
    have hown := h.left.own t ht
    omega
  have hka : ∀ k ∈ ka, ∀ t ∈ k.tokens, t ∈ used := by
    intro k hk t ht
    obtain ⟨front, back, rfl, -⟩ := ha.reason k hk
    simp [ht]
  have hkb : ∀ k ∈ kb, ∀ t ∈ k.tokens, t ∈ rest := by
    intro k hk t ht
    obtain ⟨front, back, rfl, -⟩ := hb.reason k hk
    simp [ht]
  refine ⟨fun k hk => ?_, fun k hk => ?_, fun d hd htells => ?_, fun t ht hline hdoc => ?_⟩
  · rcases List.mem_append.1 hk with hk | hk
    · obtain ⟨front, back, rfl, hreason⟩ := ha.reason k hk
      exact ⟨front, back ++ rest, by simp, by simpa using hreason⟩
    · obtain ⟨front, back, rfl, hreason⟩ := hb.reason k hk
      exact ⟨used ++ front, back, by simp, hreason⟩
  · rcases List.mem_append.1 hk with hk | hk
    · exact List.mem_append_left _ (ha.reported k hk)
    · exact List.mem_append_right _ (hb.reported k hk)
  · -- What is left open is told by one of the two parts.
    rcases List.mem_append.1 hd with hd | hd
    · obtain ⟨k, hk, hreport⟩ := ha.unclosed d hd htells
      exact ⟨k, List.mem_append_left _ hk, hreport⟩
    · obtain ⟨k, hk, hreport⟩ := hb.unclosed d hd htells
      exact ⟨k, List.mem_append_right _ hk, hreport⟩
  · -- The counts of both parts add up, and in one of them the token does not count.
    rw [(Contents.places_append a b).countP_eq, List.countP_append, List.countP_append]
    rcases List.mem_append.1 ht with ht | ht
    · have hplaces : b.places.countP (·.Covers t) = 0 := List.countP_eq_zero.2 fun p hp => by
        simpa using (hbs.among p hp).not_covers_front h ht
      have hskipped : kb.countP (t ∈ ·.tokens) = 0 := List.countP_eq_zero.2 fun k hk => by
        simpa using fun hmem => hapart t ht (hkb k hk t hmem)
      have honce := ha.once t ht hline hdoc
      omega
    · have hplaces : a.places.countP (·.Covers t) = 0 := List.countP_eq_zero.2 fun p hp => by
        simpa using (has.among p hp).not_covers_behind h ht
      have hskipped : ka.countP (t ∈ ·.tokens) = 0 := List.countP_eq_zero.2 fun k hk => by
        simpa using fun hmem => hapart t (hka k hk t hmem) ht
      have honce := hb.once t ht hline hdoc
      omega

end Accounted

/-! ## One step -/

section Step

variable {s : Text} {tl : Bool} {doc doc' : List Text} {tokens used rest : List Token} {item : Item}

/-- A statement that is no reference is reported as one that does not belong there, and not for its
braces. -/
theorem reports_of_readShortRef {head : Token} {others : List Token} {problems : List Diagnostic}
    (h : readShortRef s doc head others = .error problems) :
    head.report (.unexpectedStatement head.value) ∈ problems ∧
    ∀ d ∈ problems, ¬ d.TellsUnclosed := by
  have hnone : ∀ problem, (∀ first, problem ≠ Problem.unclosedBrace first) →
      ¬ (head.report problem).TellsUnclosed := fun problem hne ⟨first, hfirst⟩ => hne first hfirst
  simp only [readShortRef] at h
  split at h
  -- A statement that does not start like a reference.
  next =>
    cases h
    simpa using hnone _ (by simp)
  next =>
    split at h
    next => cases h
    next =>
      cases h
      simpa using ⟨hnone .missingEndpoints (by simp), hnone (.unexpectedStatement _) (by simp)⟩

/-- A bracket that is open where a block starts is no brace. -/
theorem not_tellsUnclosed_of_scan {scan : LineScan} {d : Diagnostic} (h : d ∈ scan.reports) :
    ¬ d.TellsUnclosed := by
  obtain ⟨o, -, rfl⟩ := List.mem_map.1 h
  rintro ⟨first, hfirst⟩
  cases hfirst

/-- A token too many in a header is no brace that is not closed. -/
theorem not_tellsUnclosed_of_header {header : Header} {head : Token} {d : Diagnostic}
    (h : d ∈ header.reports head) : ¬ d.TellsUnclosed := by
  obtain ⟨t, -, rfl⟩ := List.mem_map.1 h
  rintro ⟨first, hfirst⟩
  cases hfirst

/-- What a line is reported for is no brace that is not closed. -/
theorem not_tellsUnclosed_of_line {head : Token} {others : List Token} {d : Diagnostic}
    (h : d ∈ (Item.contents s tl doc (.line head others)).problems) : ¬ d.TellsUnclosed := by
  simp only [Item.contents, Item.add, addStatement] at h
  split at h
  next =>
    split at h
    next => cases h
    next hread =>
      exact (reports_of_readShortRef hread).2 d
        ((Contents.mem_report.1 h).resolve_right List.not_mem_nil)
  next => split at h <;> cases h

/-- A block is a node that accounts for its tokens. -/
theorem Accounted.ofBlock {head brace close : Token} {header body : List Token}
    {problems : List Diagnostic} (htakes : (Item.block head header brace body close).Takes used)
    (hown : Apart used) (hproblems : ∀ d ∈ problems, ¬ d.TellsUnclosed) (s : Text)
      (doc : List Text) :
    Accounted tl used rest
      ((Item.contents s tl doc (.block head header brace body close)).report problems) [] := by
  obtain ⟨middle, rfl⟩ := htakes.exists_middle
  refine .node rfl (fun u hu _ => Place.covers_fromTo hown hu) fun d hd => ?_
  rcases Contents.mem_report.1 hd with hd | hd
  · exact hproblems d hd
  · cases hd

/-- A line is a node that accounts for its tokens, or it is left out at the top level. -/
theorem Accounted.exists_ofLine {head : Token} {others : List Token} {problems : List Diagnostic}
    (hown : Apart (head :: others)) (hproblems : ∀ d ∈ problems, ¬ d.TellsUnclosed) (s : Text)
    (doc : List Text) : ∃ skipped, Accounted tl (head :: others) rest
      ((Item.contents s tl doc (.line head others)).report problems) skipped := by
  have hnone : ∀ d ∈ ((Item.contents s tl doc (.line head others)).report problems).problems,
      ¬ d.TellsUnclosed := by
    intro d hd
    rcases Contents.mem_report.1 hd with hd | hd
    · exact hproblems d hd
    · exact not_tellsUnclosed_of_line hd
  have htakes : (Item.line head others).Takes (head :: others) := rfl
  rcases Item.places_eq htakes hown s tl doc with hplaces | ⟨htop, hplaces, _, _, found,
    hitem, hread⟩
  · exact ⟨[], .node hplaces (fun v hv => covers_lineEnd hown hv) hnone⟩
  · -- The line is a reference at the top level that cannot be read.
    cases hitem
    obtain ⟨hreport, -⟩ := reports_of_readShortRef hread
    have hfound : (Item.contents s tl doc (.line head others)).problems = found := by
      simp only [Item.contents, Item.add, addStatement, htop, if_true, hread]
      exact List.append_nil _
    exact ⟨[⟨head, others, .unexpectedStatement head.value⟩], .skip (.unexpected htop) hplaces
      (Contents.mem_report.2 (.inr (hfound ▸ hreport))) fun d hd htells => (hnone d hd htells).elim⟩

/-- **A step accounts for the tokens it takes.** -/
theorem Step.exists_accounted (h : Step tl doc tokens item doc' rest) (hapart : Apart tokens)
    (hinner : ∀ head header brace body close, item = .block head header brace body close →
      ∀ d ∈ (contentsFrom s false [] body).problems, ¬ d.TellsUnclosed) :
    ∃ used c skipped, tokens = used ++ rest ∧
      contentsFrom s tl doc tokens = c ++ contentsFrom s tl doc' rest ∧ c.Sits s used ∧
      Accounted tl used rest c skipped := by
  obtain ⟨used, hused, htakes⟩ := h.exists_takes
  have hcancel : ∀ front, tokens = front ++ rest → used = front := fun front hfront =>
    List.append_cancel_right (hused.symm.trans hfront)
  have hown : Apart used := (hused ▸ hapart).left
  cases h with
  | newline h =>
    exact ⟨[_], .empty, [], rfl, contentsFrom_newline h, .empty .., .gap (by simp [h])⟩
  | doc h => exact ⟨[_], .empty, [], rfl, contentsFrom_doc h, .empty .., .gap (by simp [h])⟩
  | @strayBrace t _ h =>
    refine ⟨[t], ⟨[], [], [], [t.report .unmatchedBrace]⟩, [⟨t, [], .unmatchedBrace⟩], rfl,
      contentsFrom_closeBrace h, (Contents.Sits.empty ..).reported _, ?_⟩
    exact .skip (.unmatched h) rfl (List.mem_singleton_self _) fun d hd _ =>
      (List.mem_singleton.1 hd).symm
  | @bareUnclosed t _ h hclose =>
    refine ⟨[t], ⟨[], [], [], [t.report (.unclosedBrace t.value)]⟩,
      [⟨t, [], .unclosedBrace t.value⟩], rfl, ?_, (Contents.Sits.empty ..).reported _, ?_⟩
    · rw [contentsFrom_openBrace h, hclose]
      rfl
    · exact .skip (.unclosed List.getLast?_singleton h hclose) rfl (List.mem_singleton_self _)
        fun d hd _ => (List.mem_singleton.1 hd).symm
  -- An opening brace without a header stands for a body of its own, whose nodes are not kept.
  | @bareBlock t others body _ close h hclose =>
    refine ⟨used, (Item.contents s tl doc (.block t [] t body close)).report
      (contentsFrom s false [] body).problems, [], hused, ?_,
      (Item.sits htakes hown s tl doc).reported _,
        .ofBlock htakes hown (hinner _ _ _ _ _ rfl) s doc⟩
    rw [contentsFrom_openBrace h, hclose, Contents.report_append, ← Item.add_eq_append]
    rfl
  -- The statement goes up to an opening brace that is never closed: all of it is left out.
  | @unclosed t others segment _ brace u h hscan hbrace hclose =>
    have hothers := scanLine_append tl (openedBy t) others
    rw [hscan] at hothers
    obtain rfl : used = t :: (segment ++ [brace]) := hcancel _ (by rw [← hothers]; simp)
    refine ⟨_, ⟨[], [], [], LineScan.reports ⟨segment, brace :: rest, u⟩ ++
        [t.report (.unclosedBrace t.value)]⟩, [⟨t, segment ++ [brace], .unclosedBrace t.value⟩],
      hused, ?_, (Contents.Sits.empty ..).reported _, ?_⟩
    · rw [contentsFrom_statement h]
      simp only [hscan, hbrace, if_true, hclose]
      rfl
    · have hlast : (t :: (segment ++ [brace])).getLast? = some brace := by
        rw [← List.cons_append, List.getLast?_concat]
      refine .skip (.unclosed hlast hbrace hclose) rfl
        (List.mem_append_right _ (List.mem_singleton_self _)) fun d hd htells => ?_
      rcases List.mem_append.1 hd with hd | hd
      · exact (not_tellsUnclosed_of_scan hd htells).elim
      · exact (List.mem_singleton.1 hd).symm
  -- The body of the block accounts for itself, so the block is accounted for by its place alone.
  | @block t others segment behind body _ brace close u h hscan hbrace hclose =>
    have hproblems : ∀ d ∈ LineScan.reports ⟨segment, brace :: behind, u⟩ ++
        (Header.ofTokens segment).reports t ++ (contentsFrom s false [] body).problems,
        ¬ d.TellsUnclosed := by
      intro d hd
      rcases List.mem_append.1 hd with hd | hd
      · exact (List.mem_append.1 hd).elim not_tellsUnclosed_of_scan not_tellsUnclosed_of_header
      · exact hinner _ _ _ _ _ rfl d hd
    refine ⟨used, (Item.contents s tl doc (.block t segment brace body close)).report _, [],
      hused, ?_, (Item.sits htakes hown s tl doc).reported _, .ofBlock htakes hown hproblems s doc⟩
    rw [contentsFrom_statement h]
    simp only [hscan, hbrace, if_true, hclose]
    rw [Contents.report_append, ← Item.add_eq_append]
    rfl
  | @line t others segment _ u h hscan hbrace =>
    obtain rfl : used = t :: segment := htakes
    have htakes : (Item.line t segment).Takes (t :: segment) := rfl
    have hproblems : ∀ d ∈ LineScan.reports ⟨segment, rest, u⟩, ¬ d.TellsUnclosed :=
      fun d => not_tellsUnclosed_of_scan
    obtain ⟨skipped, haccount⟩ := Accounted.exists_ofLine hown hproblems s doc
    refine ⟨_, (Item.contents s tl doc (.line t segment)).report _, skipped, hused, ?_,
      (Item.sits htakes hown s tl doc).reported _, haccount⟩
    rw [contentsFrom_statement h, Contents.report_append, ← Item.add_eq_append]
    cases rest with
    | nil => simp only [hscan, contentsFrom_nil, Item.add]
    | cons brace behind => simp only [hscan, hbrace brace rfl, if_false, Item.add]

end Step

/-! ## Sequences and bodies -/

/-- In tokens whose braces are closed, a brace is left out only where it closes nothing. -/
theorem Accounted.unmatched {tokens : List Token} {c : Contents} {skipped : List Skipped}
    (h : Accounted false tokens [] c skipped) (hclosed : BracesClosed tokens) {k : Skipped}
    (hk : k ∈ skipped) :
      k.first.kind = .closeBrace ∧ k.others = [] ∧ k.problem = .unmatchedBrace := by
  obtain ⟨front, back, rfl, hreason⟩ := h.reason k hk
  rw [List.append_nil] at hreason
  cases hreason with
  | unmatched hkind => exact ⟨hkind, rfl, rfl⟩
  -- The brace is closed among the tokens, against the reason to leave it out.
  | @unclosed t brace others hlast hbrace hclose =>
    obtain ⟨init, hinit⟩ := List.getLast?_eq_some_iff.1 hlast
    have hsome := hclosed (front ++ init) brace back (by simp [Skipped.tokens, hinit]) hbrace
    rw [hclose] at hsome
    cases hsome
  | unexpected htop => cases htop

/-- **Every sequence of tokens is accounted for.** -/
theorem exists_accounted (s : Text) (tl : Bool) (doc : List Text) {tokens : List Token}
    (h : Apart tokens) :
      ∃ skipped, Accounted tl tokens [] (contentsFrom s tl doc tokens) skipped := by
  induction tl, doc, tokens using nested_induction with
  | nil tl doc =>
    rw [contentsFrom_nil]
    exact ⟨[], .gap (by simp)⟩
  | step tl doc t others item doc' rest hstep ih ihbody =>
    -- The braces of a body are closed, so a brace that is left out in it is one that closes
    -- nothing.
    have hinner : ∀ head header brace body close, item = .block head header brace body close →
        ∀ d ∈ (contentsFrom s false [] body).problems, ¬ d.TellsUnclosed := by
      rintro head header brace body close rfl d hd htells
      obtain ⟨hbrace, hclose⟩ := hstep.closeBrace_of_block
      obtain ⟨used, hused, htakes⟩ := hstep.exists_takes
      have hbody : Apart body := (hused ▸ h).left.sublist htakes.body_infix.sublist
      obtain ⟨skipped, hinner⟩ := ihbody _ _ _ _ _ rfl hbody
      obtain ⟨k, hk, rfl⟩ := hinner.unclosed d hd htells
      obtain ⟨-, -, hproblem⟩ := hinner.unmatched (.of_closeBrace hclose) hk
      obtain ⟨first, hfirst⟩ := htells
      exact absurd (hproblem.symm.trans hfirst) nofun
    obtain ⟨used, c, ka, hused, hcontents, hsits, haccount⟩ := hstep.exists_accounted h hinner
    have hapart := hused ▸ h
    obtain ⟨kb, hlater⟩ := ih hapart.right
    rw [hcontents, hused]
    exact ⟨ka ++ kb, .append (by rwa [List.append_nil]) hlater hsits
      (sits_contentsFrom s tl doc' hapart.right) hapart⟩

/-- **A brace that is not closed is never met in a body.** -/
theorem not_tellsUnclosed_of_body (s : Text) (doc : List Text) {tokens : List Token}
    (h : Apart tokens) (hclosed : BracesClosed tokens) {d : Diagnostic}
    (hd : d ∈ (contentsFrom s false doc tokens).problems) : ¬ d.TellsUnclosed := by
  rintro ⟨first, hfirst⟩
  obtain ⟨skipped, haccount⟩ := exists_accounted s false doc h
  obtain ⟨k, hk, rfl⟩ := haccount.unclosed d hd ⟨first, hfirst⟩
  obtain ⟨-, -, hproblem⟩ := haccount.unmatched hclosed hk
  exact absurd (hproblem.symm.trans hfirst) nofun

/-! ## The text -/

/-- A token between two tokens of a sequence is one of those between them. -/
theorem mem_middle {front middle back : List Token} {first last t : Token}
    (h : Apart (front ++ first :: (middle ++ last :: back)))
    (ht : t ∈ front ++ first :: (middle ++ last :: back)) (hstart : first.span.stop ≤ t.span.start)
    (hstop : t.span.stop ≤ last.span.start) : t ∈ middle := by
  have hown := h.own t ht
  -- The token stands in front of the first one, is the first one, or stands behind it.
  rcases List.mem_append.1 ht with ht | ht
  · have hbefore := h.stop_le ht (List.mem_cons_self ..)
    have hfirst := h.own first (by simp)
    omega
  · rcases List.mem_cons.1 ht with rfl | ht
    · omega
    · rcases List.mem_append.1 ht with ht | ht
      · exact ht
      · have hrest : Apart (last :: back) := h.sublist (((List.sublist_append_right middle _).trans
          (List.sublist_cons_self ..)).trans (List.sublist_append_right front _))
        have hlast := h.own last (by simp)
        rcases List.mem_cons.1 ht with rfl | ht
        · omega
        · have hbehind := (List.pairwise_cons.1 hrest.order).1 t ht
          omega

/-- **The tokens in the body of a block are accounted for**: each is in one node of the body, or it
is a closing brace that is reported. -/
theorem Block.ReadFrom.accounted {text : Text} {problems : List Diagnostic} {b : Block}
    {used : List Token} (h : b.ReadFrom text problems used) (hused : used <:+: tokenize text)
    {body : Span} (hbody : b.bodySpan = some body) {t : Token} (ht : t ∈ tokenize text)
    (hin : t.span.Within body) (hline : t.kind ≠ .newline) (hdoc : t.kind ≠ .doc) :
    b.contents.places.countP (·.Covers t) = 1 ∨
      b.contents.places.countP (·.Covers t) = 0 ∧ t.kind = .closeBrace ∧
        t.report .unmatchedBrace ∈ problems := by
  have hall := apart_tokensFrom 0 1 text
  rw [← tokenize] at hall
  have hown : Apart used := hall.sublist hused.sublist
  obtain ⟨before, behind, htokens⟩ := hused
  cases h with
  | @braced doc head brace close header inner _ rest htakes hbrace hclose hproblems =>
    obtain rfl : (⟨brace.span.stop, close.span.start⟩ : Span) = body := Option.some.inj hbody
    have hinner : Apart inner := hown.sublist htakes.body_infix.sublist
    obtain ⟨front, rfl, -⟩ := htakes
    have hsplit : tokenize text = (before ++ front) ++ brace :: (inner ++ close :: behind) := by
      rw [← htokens]
      simp
    have hmem : t ∈ inner := mem_middle (hsplit ▸ hall) (hsplit ▸ ht) hin.1 hin.2.2
    obtain ⟨skipped, haccount⟩ := exists_accounted text false [] hinner
    have honce : (contentsFrom text false [] inner).places.countP (·.Covers t)
        + skipped.countP (t ∈ ·.tokens) = 1 := haccount.once t hmem hline hdoc
    change (contentsFrom text false [] inner).places.countP (·.Covers t) = 1 ∨
      (contentsFrom text false [] inner).places.countP (·.Covers t) = 0 ∧ _
    -- Either a node has the token, or it is a brace that closes nothing, for the others are closed.
    by_cases hskipped : ∃ k ∈ skipped, t ∈ k.tokens
    · obtain ⟨k, hk, htk⟩ := hskipped
      obtain ⟨hkind, hothers, hproblem⟩ := haccount.unmatched (.of_closeBrace hclose) hk
      obtain rfl : t = k.first := by simpa [Skipped.tokens, hothers] using htk
      have hpos : 0 < skipped.countP (k.first ∈ ·.tokens) :=
        List.countP_pos_iff.2 ⟨k, hk, by simp [Skipped.tokens]⟩
      refine .inr ⟨by omega, hkind, hproblems _ ?_⟩
      rw [← hproblem]
      exact haccount.reported k hk
    · have hzero : skipped.countP (t ∈ ·.tokens) = 0 := List.countP_eq_zero.2 fun k hk => by
        simpa using fun htk => hskipped ⟨k, hk, htk⟩
      exact .inl (by omega)
  | @short doc head others _ hread =>
    have hothers : Apart others := hown.sublist (List.sublist_cons_self ..)
    obtain ⟨-, -, hchildren, hproperties, l, hlines, hspan, -, -⟩ :=
      line_of_readShortRef hread hothers
    obtain rfl : l.span = body := Option.some.inj (hspan.symm.trans hbody)
    left
    have hplaces : b.contents.places = [l.place] := by
      simp [Block.contents, Contents.places, hchildren, hlines, hproperties]
    rw [hplaces, List.countP_singleton, if_pos (by simpa using ⟨hin.1, hin.2.2⟩)]

/-- At the top level there are neither lines nor properties. -/
theorem lines_topLevel (s : Text) (doc : List Text) (tokens : List Token) :
    (contentsFrom s true doc tokens).lines = [] ∧
    (contentsFrom s true doc tokens).properties = [] := by
  -- No single item leaves a line or a property at the top level.
  have hitem : ∀ (doc : List Text) (item : Item),
      (item.contents s true doc).lines = [] ∧ (item.contents s true doc).properties = [] := by
    intro doc item
    cases item with
    | nothing => exact ⟨rfl, rfl⟩
    | block => exact ⟨rfl, rfl⟩
    | line head others =>
      simp only [Item.contents, Item.add, addStatement, if_true]
      split <;> exact ⟨rfl, rfl⟩
  induction doc, tokens using steps_induction true with
  | nil doc =>
    rw [contentsFrom_nil]
    exact ⟨rfl, rfl⟩
  | step doc t others item doc' rest hstep ih =>
    obtain ⟨problems, hcontents⟩ := contentsFrom_of_step hstep s
    obtain ⟨hlines, hproperties⟩ := ih
    rw [hcontents, Item.add_eq_append]
    exact ⟨List.append_eq_nil_iff.2 ⟨(hitem doc item).1, hlines⟩,
      List.append_eq_nil_iff.2 ⟨(hitem doc item).2, hproperties⟩⟩

/-- The nodes of the top level are its blocks. -/
theorem places_topLevel (s : Text) (doc : List Text) (tokens : List Token) :
    (contentsFrom s true doc tokens).places
      = (contentsFrom s true doc tokens).children.map Block.place := by
  obtain ⟨hlines, hproperties⟩ := lines_topLevel s doc tokens
  rw [Contents.places, hlines, hproperties]
  exact List.append_nil _

/-- **The tokens of the top level are accounted for** by the blocks of the text and by statements
that are left out. -/
structure AccountsFor (text : Text) (skipped : List Skipped) : Prop where
  /-- Every statement that is left out is reported. -/
  reported : ∀ k ∈ skipped, k.report ∈ (parseBlocks text).problems
  /-- It is a stretch of tokens, and there is a reason to leave it out. -/
  reason : ∀ k ∈ skipped, ∃ front back, tokenize text = front ++ k.tokens ++ back ∧
    k.Reason true back
  /-- A brace that is reported as not closed belongs to one of them. -/
  unclosed : ∀ d ∈ (parseBlocks text).problems, d.TellsUnclosed → ∃ k ∈ skipped, k.report = d
  /-- Every token stands in one block or in one of them, line ends and doc comments apart. -/
  once : ∀ t ∈ tokenize text, t.kind ≠ .newline → t.kind ≠ .doc →
    (parseBlocks text).blocks.countP (·.place.Covers t) + skipped.countP (t ∈ ·.tokens) = 1

/-- **The tokens of a text are accounted for** at the top level and inside the bodies of blocks. -/
structure IsAccounted (text : Text) : Prop where
  /-- Those of the top level are. -/
  top : ∃ skipped, AccountsFor text skipped
  /-- A token of a body stands in one of its nodes, or it is a closing brace that is reported. -/
  body : ∀ b, (parseBlocks text).Has b → ∀ body ∈ b.bodySpan, ∀ t ∈ tokenize text,
    t.span.Within body → t.kind ≠ .newline → t.kind ≠ .doc →
      b.contents.places.countP (·.Covers t) = 1 ∨
        b.contents.places.countP (·.Covers t) = 0 ∧ t.kind = .closeBrace ∧
          t.report .unmatchedBrace ∈ (parseBlocks text).problems
  /-- Inside a body no brace is reported as not closed. -/
  closed : ∀ front tokens body close after, tokenize text = front ++ tokens →
    closeBrace 0 tokens = some (body, close, after) →
      ∀ doc, ∀ d ∈ (contentsFrom text false doc body).problems, ¬ d.TellsUnclosed

/-- **Every token of a text is accounted for exactly once**, line ends and doc comments apart. At
the top level it stands in one block, or it belongs to one statement that is left out and reported
on the line of its first token; inside the body of a block it stands in one node of the body, or it
is a closing brace that is reported. A brace that is reported as not closed is one of the top level;
in a body there is none. -/
theorem tokens_accounted (text : Text) : IsAccounted text := by
  have hall := apart_tokensFrom 0 1 text
  rw [← tokenize] at hall
  refine ⟨?_, fun b hb body hbody t ht hin hline hdoc => ?_,
    fun front tokens body close after hfront hclose doc d hd => ?_⟩
  · obtain ⟨skipped, haccount⟩ := exists_accounted text true [] hall
    refine ⟨skipped, haccount.reported, fun k hk => ?_, haccount.unclosed,
      fun t ht hline hdoc => ?_⟩
    · simpa using haccount.reason k hk
    · have honce := haccount.once t ht hline hdoc
      rwa [places_topLevel, List.countP_map] at honce
  · obtain ⟨used, hused, -, hread⟩ := exists_readFrom hb
    exact hread.accounted hused hbody ht hin hline hdoc
  · have hbody : Apart body := by
      rw [eq_of_closeBrace hclose] at hfront
      exact (hfront ▸ hall).right.left
    exact not_tellsUnclosed_of_body text doc hbody (.of_closeBrace hclose) hd

/-- A body whose brackets run over a brace and close again, so that a brace is left over in it,
behind a statement that is none. -/
def overrunBody : Text := "x y\nTable t \x7b\n  a ( \x7b b ) \x7d c\n\x7d \x7d".toList

/-- The brace that is left over in the body stands in none of its nodes and is reported. -/
theorem tokens_accounted_overrunBody : ∃ b, (parseBlocks overrunBody).Has b ∧ ∃ body ∈ b.bodySpan,
    ∃ t ∈ tokenize overrunBody, t.span.Within body ∧ t.kind = .closeBrace ∧
      b.contents.places.countP (·.Covers t) = 0 ∧
        t.report .unmatchedBrace ∈ (parseBlocks overrunBody).problems := by
  have hfound : (parseBlocks overrunBody).blocks.any (fun b => (tokenize overrunBody).any fun t =>
      t.kind = .closeBrace ∧ (b.bodySpan.any fun body => t.span.Within body) ∧
        b.contents.places.countP (·.Covers t) ≠ 1) = true := by decide +kernel
  obtain ⟨b, hb, hany⟩ := List.any_eq_true.1 hfound
  obtain ⟨t, ht, hall⟩ := List.any_eq_true.1 hany
  obtain ⟨hkind, hin, hcount⟩ := of_decide_eq_true hall
  obtain ⟨body, hbody, hwithin⟩ := (Option.any_eq_true _ _).1 hin
  have hhas : (parseBlocks overrunBody).Has b := .top hb
  have haccount := (tokens_accounted overrunBody).body b hhas body hbody t ht
    (of_decide_eq_true hwithin) (by rw [hkind]; decide) (by rw [hkind]; decide)
  obtain ⟨hzero, -, hreport⟩ := haccount.resolve_left hcount
  exact ⟨b, hhas, body, hbody, t, ht, of_decide_eq_true hwithin, hkind, hzero, hreport⟩

end SchemaDiagram
