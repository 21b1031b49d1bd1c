import SchemaDiagram.Proofs.Accounting
import SchemaDiagram.Proofs.BodyEnd
import SchemaDiagram.Proofs.LineEnd
import SchemaDiagram.Proofs.Outline
import SchemaDiagram.Proofs.Places

/-! # A broken statement ends before the next block

At the top level a line that is still open ends where the next block starts. So whatever is wrong in
front of a block, as long as the braces there are closed, the blocks from there on are those that
would be read if nothing stood in front of them, further on by what stands there: by as many
characters and lines as the text in front has.

* **`Block.move n m`** — the block `n` places and `m` lines further on, with all blocks in it.
* **`Contents.silent`** — contents without what is reported.
* **`contentsFrom_move`** — the nodes of moved tokens are the moved nodes.
* **`exists_scanLine_stop`** — a logical line of the top level ends before the block.
* **`Step.exists_front`** — a statement that starts before the block ends before it.
* **`exists_children_append`** — the blocks before the place and those behind it.
* **`blocks_behind`** — the blocks behind a broken text are those of the text that follows it. -/

namespace SchemaDiagram

/-! ## Nodes further on -/

/-- The line `n` places and `m` lines further on. -/
def BodyLine.move (n m : Nat) (l : BodyLine) : BodyLine :=
  { l with span := l.span.shift n, line := l.line + m }

/-- The property `n` places and `m` lines further on. -/
def Property.move (n m : Nat) (p : Property) : Property :=
  { p with span := p.span.shift n, valueSpan := p.valueSpan.shift n, line := p.line + m }

/-- The block `n` places and `m` lines further on, with the nodes of its body. -/
def Block.move (n m : Nat) (b : Block) : Block :=
  { keyword := b.keyword
    span := b.span.shift n
    line := b.line + m
    name := b.name
    nameSpan := b.nameSpan.map (·.shift n)
    aliasName := b.aliasName
    settingsSpan := b.settingsSpan.map (·.shift n)
    openBrace := b.openBrace.map (· + n)
    bodySpan := b.bodySpan.map (·.shift n)
    children := b.children.map (Block.move n m)
    lines := b.lines.map (BodyLine.move n m)
    properties := b.properties.map (Property.move n m)
    doc := b.doc
    shortForm := b.shortForm }
termination_by sizeOf b
decreasing_by
  rename_i c hc
  have hlt := List.sizeOf_lt_of_mem hc
  cases b
  simp_wf
  simp only at hlt
  omega

namespace Contents

/-- The contents without what is reported. -/
def silent (c : Contents) : Contents := { c with problems := [] }

/-- The nodes `n` places and `m` lines further on. -/
def move (n m : Nat) (c : Contents) : Contents :=
  ⟨c.children.map (Block.move n m), c.lines.map (BodyLine.move n m),
    c.properties.map (Property.move n m), []⟩

@[simp] theorem silent_append (a b : Contents) : (a ++ b).silent = a.silent ++ b.silent := rfl

@[simp] theorem silent_report (problems : List Diagnostic) (c : Contents) :
    (c.report problems).silent = c.silent := rfl

/-- Two contents one after the other are moved each for itself. -/
theorem move_append (n m : Nat) (a b : Contents) :
    (a ++ b).move n m = a.move n m ++ b.move n m := by
  simp only [move, children_append, lines_append, properties_append, List.map_append]
  rfl

end Contents

/-! ## What is read from moved tokens -/

section

variable (lead s : Text) (m : Nat)

/-- The span of moved tokens. -/
theorem Header.spanOf?_move (n : Nat) (tokens : List Token) :
    spanOf? (tokens.map (Token.move n m)) = (spanOf? tokens).map (·.shift n) := by
  rw [spanOf?, spanOf?, List.head?_map, List.getLast?_map]
  cases tokens.head? <;> cases tokens.getLast? <;> rfl

/-- The name of a header moves with its tokens. -/
theorem Header.nameSpan_move (n : Nat) (tokens : List Token) :
    (ofTokens (tokens.map (Token.move n m))).nameSpan
      = (ofTokens tokens).nameSpan.map (·.shift n) := by
  simp only [ofTokens, takeName_map (Keeps.move n m), spanOf?_move]

/-- **A line or property moves with its tokens.** -/
theorem readBodyLine_moved (doc : List Text) (t : Token) (others : List Token) :
    readBodyLine (lead ++ s) doc (t.move lead.length m) (others.map (Token.move lead.length m))
      = (readBodyLine s doc t others).map (BodyLine.move lead.length m)
        (Property.move lead.length m) := by
  -- Doc comments keep their words, and the other tokens move.
  have hdoc : ((others.map (Token.move lead.length m)).filter (·.kind = .doc)).map (·.value)
      = (others.filter (·.kind = .doc)).map (·.value) := by
    rw [(Keeps.move _ _).filter_kind (· = .doc), List.map_map]
    rfl
  have hbody : (others.map (Token.move lead.length m)).filter (·.kind != .doc)
      = (others.filter (·.kind != .doc)).map (Token.move lead.length m) :=
    (Keeps.move _ _).filter_kind (· != .doc) others
  simp only [readBodyLine, hdoc, hbody, Token.move_kind, Token.move_value]
  generalize others.filter (·.kind != .doc) = body
  generalize (others.filter (·.kind = .doc)).map (·.value) = inlineDoc
  -- The line ends with its last token, or with the word itself.
  have hlast : (body.map (Token.move lead.length m)).getLast?.getD (t.move lead.length m)
      = (body.getLast?.getD t).move lead.length m := by
    rw [List.getLast?_map]
    cases body.getLast? <;> rfl
  rw [hlast]
  generalize body.getLast?.getD t = last
  -- A line that is no property has the moved text and place.
  have hline : BodyLine.mk ((Span.mk (t.move lead.length m).span.start
        (last.move lead.length m).span.stop).slice (lead ++ s))
        ⟨(t.move lead.length m).span.start, (last.move lead.length m).span.stop⟩
        (t.move lead.length m).line (doc ++ inlineDoc)
      = BodyLine.move lead.length m ⟨(Span.mk t.span.start last.span.stop).slice s,
          ⟨t.span.start, last.span.stop⟩, t.line, doc ++ inlineDoc⟩ :=
    congrArg (BodyLine.mk · _ _ _) ((Span.mk t.span.start last.span.stop).slice_shift lead s)
  cases body with
  | nil => cases t.kind <;> exact congrArg Sum.inl hline
  | cons second values =>
    by_cases hk : t.kind = .word
    · rw [hk]
      simp only [List.map_cons, Token.move_kind]
      -- A word and a colon make a property.
      by_cases hcolon : second.kind = .colon
      · simp only [hcolon, if_true, Sum.map_inr]
        cases values with
        | nil =>
          simp only [List.map_nil, Span.slice_empty]
          rfl
        -- The value is the same slice, as many places further on.
        | cons value values =>
          have hvalue := (Span.mk value.span.start last.span.stop).slice_shift lead s
          exact congrArg (fun x => Sum.inr (Property.mk t.value (Text.trim x) _ _ _)) hvalue
      · simp only [hcolon, if_false]
        exact congrArg Sum.inl hline
    · cases hkind : t.kind <;> first | exact absurd hkind hk | exact congrArg Sum.inl hline

/-- **A reference on one line moves with its tokens.** -/
theorem readShortRef_moved (doc : List Text) (t : Token) (others : List Token) :
    (readShortRef (lead ++ s) doc (t.move lead.length m)
        (others.map (Token.move lead.length m))).toOption
      = (readShortRef s doc t others).toOption.map (Block.move lead.length m) := by
  -- Kinds stay, so the reference is cut at the same places.
  have hcolon : (others.map (Token.move lead.length m)).all (·.kind != .colon)
      = others.all (·.kind != .colon) := by
    simp only [List.all_map, Function.comp_def, Token.move_kind]
  have hheader : (others.map (Token.move lead.length m)).takeWhile (·.kind != .colon)
      = (others.takeWhile (·.kind != .colon)).map (Token.move lead.length m) := by
    simp only [List.takeWhile_map, Function.comp_def, Token.move_kind]
  have hbody :
    (((others.map (Token.move lead.length m)).dropWhile (·.kind != .colon)).drop 1).filter
        (·.kind != .doc)
      = (((others.dropWhile (·.kind != .colon)).drop 1).filter (·.kind != .doc)).map
          (Token.move lead.length m) := by
    rw [List.dropWhile_map, ← List.map_drop, (Keeps.move _ _).filter_kind (· != .doc)]
    rfl
  simp only [readShortRef, hcolon, hheader, hbody, (Keeps.move _ _).isWord]
  generalize ((others.dropWhile (·.kind != .colon)).drop 1).filter (·.kind != .doc) = body
  split
  next => rfl
  next =>
    rw [List.head?_map, List.getLast?_map]
    cases hfirst : body.head? with
    | none => rfl
    | some first =>
      cases hlast : body.getLast? with
      | none => rfl
      | some last =>
        -- What it says is the same slice, further on.
        have hslice := (Span.mk first.span.start last.span.stop).slice_shift lead s
        have hspan :
          (Span.mk (first.move lead.length m).span.start (last.move lead.length m).span.stop)
            = (Span.mk first.span.start last.span.stop).shift lead.length := rfl
        simp only [Option.map_some, Except.toOption, Block.move, Header.nameSpan_move,
          Header.name_map (Keeps.move _ _), hspan, hslice]
        rfl

/-- A block moves with its tokens. -/
theorem makeBlock_moved (n : Nat) (doc : List Text) (head brace close : Token) (header : List Token)
    (c : Contents) :
    makeBlock doc (head.move n m) (.ofTokens (header.map (Token.move n m))) (brace.move n m)
        (close.move n m) (c.move n m)
      = (makeBlock doc head (.ofTokens header) brace close c).move n m := by
  rw [Block.move]
  simp only [makeBlock, Header.nameSpan_move, Header.settingsSpan_move,
    Header.name_map (Keeps.move n m), Header.aliasName_map (Keeps.move n m)]
  rfl

/-- What a step finds moves with its tokens. -/
theorem Item.contents_moved (tl : Bool) (doc : List Text) (item : Item)
    (hinner : ∀ head header brace body close, item = .block head header brace body close →
      (contentsFrom (lead ++ s) false [] (body.map (Token.move lead.length m))).silent
        = (contentsFrom s false [] body).silent.move lead.length m) :
    ((item.map (Token.move lead.length m)).contents (lead ++ s) tl doc).silent
      = (item.contents s tl doc).silent.move lead.length m := by
  cases item with
  | nothing => rfl
  -- A block moves with its body, which moves by assumption.
  | block head header brace body close =>
    have hbody := hinner head header brace body close rfl
    have hblock := makeBlock_moved m lead.length doc head brace close header
      (contentsFrom s false [] body).silent
    rw [← hbody] at hblock
    exact congrArg (fun b => Contents.mk [b] [] [] []) hblock
  | line head others =>
    cases tl with
    | false =>
      have hline := readBodyLine_moved lead s m doc head others
      simp only [Item.map, contents, add, addStatement, Bool.false_eq_true, if_false, hline]
      cases readBodyLine s doc head others <;> rfl
    | true =>
      have href := readShortRef_moved lead s m doc head others
      simp only [Item.map, contents, add, addStatement, if_true]
      cases hmoved : readShortRef (lead ++ s) doc (head.move lead.length m)
          (others.map (Token.move lead.length m)) <;>
        cases hplain : readShortRef s doc head others <;> rw [hmoved, hplain] at href
      -- Where one of the two is no reference, the other is none.
      case error.error => rfl
      case error.ok => cases href
      case ok.error => cases href
      case ok.ok => exact congrArg (fun b => Contents.mk [b] [] [] []) (Option.some.inj href)

/-- **The nodes of moved tokens are the moved nodes.** -/
theorem contentsFrom_move (tl : Bool) (doc : List Text) (tokens : List Token) :
    (contentsFrom (lead ++ s) tl doc (tokens.map (Token.move lead.length m))).silent
      = (contentsFrom s tl doc tokens).silent.move lead.length m := by
  induction tl, doc, tokens using nested_induction with
  | nil tl doc =>
    rw [List.map_nil, contentsFrom_nil, contentsFrom_nil]
    rfl
  | step tl doc t others item doc' rest hstep ih ihbody =>
    -- Both texts take the same step, and what it finds moves with it.
    obtain ⟨_, hmoved⟩ := contentsFrom_of_step (hstep.map (Keeps.move lead.length m)) (lead ++ s)
    obtain ⟨_, hplain⟩ := contentsFrom_of_step hstep s
    rw [hmoved, hplain, Contents.silent_report, Contents.silent_report, Item.add_eq_append,
      Item.add_eq_append, Contents.silent_append, Contents.silent_append, Contents.move_append,
      ih, Item.contents_moved]
    exact ihbody

end

/-! ## Statements before a block -/

/-- The tokens end with a line end, or there are none. -/
def LineEnded (tokens : List Token) : Prop := ∀ t ∈ tokens.getLast?, t.kind = .newline

/-- What stands behind ends its lines when the whole does. -/
theorem LineEnded.right (front : List Token) {back : List Token} (h : LineEnded (front ++ back)) :
    LineEnded back := by
  intro t ht
  refine h t ?_
  rw [List.getLast?_append, Option.mem_def.1 ht]
  rfl

/-- **A logical line of the top level ends before the next block**, whatever brackets are open. -/
theorem exists_scanLine_stop {front back : List Token} (hne : front ≠ []) (hended : LineEnded front)
    (hstarts : startsBlock back = true) (opened : List Token) :
    ∃ segment behind u, scanLine true opened (front ++ back) = ⟨segment, behind ++ back, u⟩ ∧
      front = segment ++ behind ∧ behind ≠ [] := by
  induction front generalizing opened with
  | nil => exact absurd rfl hne
  | cons t rest ih =>
    rw [List.cons_append, scanLine_cons]
    cases hstop : lineStop true opened t (rest ++ back) with
    | some u => exact ⟨[], t :: rest, u, rfl, rfl, List.cons_ne_nil _ _⟩
    | none =>
      -- The line end before the block ends the line, inside brackets as well.
      have hrest : rest ≠ [] := by
        rintro rfl
        have hkind : t.kind = .newline := hended t rfl
        cases opened <;> simp [lineStop, hkind, hstarts, TokenKind.opens, TokenKind.closes] at hstop
      obtain ⟨segment, behind, u, hscan, rfl, hbehind⟩ :=
        ih hrest (LineEnded.right [t] hended) (openedBehind opened t)
      refine ⟨t :: segment, behind, u, ?_, rfl, hbehind⟩
      dsimp only
      rw [hscan]
      rfl

/-- **A statement that starts before the next block ends before it**, when the braces before the
block are closed there. -/
theorem Step.exists_front {doc doc' : List Text} {front back rest : List Token} {item : Item}
    (h : Step true doc (front ++ back) item doc' rest) (hne : front ≠ []) (hended : LineEnded front)
    (hclosed : BracesClosed front) (hstarts : startsBlock back = true) :
    ∃ front', rest = front' ++ back := by
  obtain ⟨t, front, rfl⟩ := List.exists_cons_of_ne_nil hne
  -- A brace in front is closed in front, and so where more tokens follow.
  have hbraces : ∀ ahead brace behind, t :: front = ahead ++ brace :: behind →
    brace.kind = .openBrace →
      ∃ body close after, closeBrace 0 (behind ++ back) = some (body, close, after ++ back) := by
    intro ahead brace behind hfront hkind
    obtain ⟨⟨body, close, after⟩, hclose⟩ :=
      Option.isSome_iff_exists.1 (hclosed ahead brace behind hfront hkind)
    exact ⟨body, close, after, closeBrace_extend hclose back⟩
  have hline : t.kind.startsStatement = true → ∃ segment behind u,
      scanLine true (openedBy t) (front ++ back) = ⟨segment, behind ++ back, u⟩ ∧
        front = segment ++ behind ∧ behind ≠ [] := by
    intro hstart
    refine exists_scanLine_stop ?_ (LineEnded.right [t] hended) hstarts _
    rintro rfl
    rw [hended t rfl] at hstart
    cases hstart
  rw [List.cons_append] at h
  cases h with
  | newline | doc | strayBrace => exact ⟨front, rfl⟩
  | bareUnclosed hk hclose =>
    obtain ⟨_, _, _, hsome⟩ := hbraces [] t front rfl hk
    rw [hclose] at hsome
    cases hsome
  | bareBlock hk hclose =>
    obtain ⟨_, _, after, hsome⟩ := hbraces [] t front rfl hk
    rw [hclose] at hsome
    simp only [Option.some.injEq, Prod.mk.injEq] at hsome
    exact ⟨after, hsome.2.2⟩
  | @unclosed _ _ _ _ brace _ hk hscan hbrace hclose =>
    obtain ⟨segment, behind, u, hstop, rfl, hbehind⟩ := hline hk
    obtain ⟨b, behind, rfl⟩ := List.exists_cons_of_ne_nil hbehind
    rw [hscan] at hstop
    simp only [LineScan.mk.injEq, List.cons_append, List.cons.injEq] at hstop
    obtain ⟨-, ⟨rfl, rfl⟩, -⟩ := hstop
    obtain ⟨_, _, _, hsome⟩ := hbraces (t :: segment) brace behind rfl hbrace
    rw [hclose] at hsome
    cases hsome
  | @block _ _ _ _ _ _ brace _ _ hk hscan hbrace hclose =>
    obtain ⟨segment, behind, u, hstop, rfl, hbehind⟩ := hline hk
    obtain ⟨b, behind, rfl⟩ := List.exists_cons_of_ne_nil hbehind
    rw [hscan] at hstop
    simp only [LineScan.mk.injEq, List.cons_append, List.cons.injEq] at hstop
    obtain ⟨-, ⟨rfl, rfl⟩, -⟩ := hstop
    obtain ⟨_, _, after, hsome⟩ := hbraces (t :: segment) brace behind rfl hbrace
    rw [hclose] at hsome
    simp only [Option.some.injEq, Prod.mk.injEq] at hsome
    exact ⟨after, hsome.2.2⟩
  | line hk hscan _ =>
    obtain ⟨_, behind, _, hstop, -, -⟩ := hline hk
    rw [hscan] at hstop
    simp only [LineScan.mk.injEq] at hstop
    exact ⟨behind, hstop.2.1⟩

/-- **The blocks before the next block and those from it on.** -/
theorem exists_children_append (s : Text) (doc : List Text) {front back : List Token}
    (hended : LineEnded front) (hclosed : BracesClosed front) (hstarts : startsBlock back = true)
    (hapart : Apart (front ++ back)) :
    ∃ found doc', (contentsFrom s true doc (front ++ back)).children
        = found ++ (contentsFrom s true doc' back).children ∧
      ∀ b ∈ found, b.place.Among front := by
  -- The induction is on the tokens before the block: a step that starts among them ends among them.
  induction hn : front.length using Nat.strongRecOn generalizing front doc with
  | ind n ih =>
    cases front with
    | nil => exact ⟨[], doc, rfl, by simp⟩
    | cons t others =>
      obtain ⟨item, doc₁, rest, hstep⟩ := exists_step true doc t (others ++ back)
      rw [← List.cons_append] at hstep
      obtain ⟨_, hcontents⟩ := contentsFrom_of_step hstep s
      obtain ⟨used, hused, htakes⟩ := hstep.exists_takes
      have hlt := hstep.length_lt
      obtain ⟨front', rfl⟩ := hstep.exists_front (List.cons_ne_nil t others) hended hclosed hstarts
      have hfront : t :: others = used ++ front' :=
        List.append_cancel_right (hused.trans (List.append_assoc ..).symm)
      rw [List.length_append, List.length_append] at hlt
      rw [hfront] at hended hclosed hapart
      obtain ⟨found, doc', hlater, hamong⟩ :=
        ih front'.length (by omega) doc₁ hended.right hclosed.right
        (List.append_assoc used .. ▸ hapart).right rfl
      have hsits := Item.sits htakes hapart.left.left s true doc
      refine ⟨item.blocks s true doc ++ found, doc', ?_, fun b hb => ?_⟩
      · rw [hcontents, List.append_assoc, ← hlater, ← Item.children_add]
        rfl
      · rw [hfront]
        rcases List.mem_append.1 hb with hb | hb
        · exact (hsits.among _ (Contents.mem_places.2 (.inl ⟨b, hb, rfl⟩))).mono
            fun u => List.mem_append_left _
        · exact (hamong b hb).mono fun u => List.mem_append_right _

/-! ## Doc comments before a block -/

/-- The block with other doc comments. -/
def Block.withDoc (doc : List Text) (b : Block) : Block := { b with doc := doc }

/-- Doc comments do not move. -/
theorem Block.map_move_withDoc (n m : Nat) (doc : List Text) (blocks : List Block) :
    (blocks.modifyHead (withDoc doc)).map (Block.move n m)
      = (blocks.map (Block.move n m)).modifyHead (withDoc doc) := by
  cases blocks with
  | nil => rfl
  | cons b blocks =>
    have hb : (b.withDoc doc).move n m = (b.move n m).withDoc doc := by
      rw [Block.move, Block.move]
      rfl
    exact congrArg (· :: blocks.map (Block.move n m)) hb

/-- The doc comments before a reference on one line are its own. -/
theorem readShortRef_doc (s : Text) (doc : List Text) (t : Token) (others : List Token) :
    (readShortRef s doc t others).toOption
      = (readShortRef s [] t others).toOption.map (Block.withDoc doc) := by
  simp only [readShortRef]
  split
  next => rfl
  next => split <;> rfl

/-- The doc comments before what a step finds are its own. -/
theorem Item.blocks_doc (s : Text) (doc : List Text) (item : Item) :
    item.blocks s true doc = (item.blocks s true []).map (Block.withDoc doc) := by
  cases item with
  | nothing => rfl
  | block => rfl
  | line head others =>
    rw [blocks_line, blocks_line, readShortRef_doc, Option.toList_map]

/-- A step on a word finds the same whatever doc comments wait for it, and takes them. -/
theorem Step.of_word {tl : Bool} {doc doc' : List Text} {t : Token} {others rest : List Token}
    {item : Item} (h : Step tl doc (t :: others) item doc' rest) (ht : t.kind = .word)
    (doc₁ : List Text) : doc' = [] ∧ Step tl doc₁ (t :: others) item [] rest := by
  cases h with
  | newline hk => rw [ht] at hk; cases hk
  | doc hk => rw [ht] at hk; cases hk
  | strayBrace hk => rw [ht] at hk; cases hk
  | bareUnclosed hk => rw [ht] at hk; cases hk
  | bareBlock hk => rw [ht] at hk; cases hk
  | unclosed hk hscan hbrace hclose => exact ⟨rfl, .unclosed hk hscan hbrace hclose⟩
  | block hk hscan hbrace hclose => exact ⟨rfl, .block hk hscan hbrace hclose⟩
  | line hk hscan hbrace => exact ⟨rfl, .line hk hscan hbrace⟩

/-- **The doc comments that wait for a statement belong to the first block**, if to any. -/
theorem exists_children_withDoc (s : Text) (doc : List Text) {t : Token} (rest : List Token)
    (ht : t.kind = .word) :
    ∃ doc', (contentsFrom s true doc (t :: rest)).children
      = (contentsFrom s true [] (t :: rest)).children.modifyHead (Block.withDoc doc') := by
  obtain ⟨item, _, behind, hstep⟩ := exists_step true doc t rest
  obtain ⟨rfl, hplain⟩ := hstep.of_word ht []
  obtain ⟨_, hcontents⟩ := contentsFrom_of_step hstep s
  obtain ⟨_, hcontents'⟩ := contentsFrom_of_step hplain s
  have hchildren : ∀ (problems : List Diagnostic) (c : Contents),
      (c.report problems).children = c.children := fun _ _ => rfl
  rw [hcontents, hcontents', hchildren, hchildren, Item.children_add, Item.children_add,
    Item.blocks_doc s doc]
  have hlen := item.length_blocks s true []
  match hfound : item.blocks s true [] with
  | [b] => exact ⟨doc, rfl⟩
  | [] =>
    -- The statement is no block, and its doc comments are lost with it.
    cases hlater : (contentsFrom s true [] behind).children with
    | nil => exact ⟨[], rfl⟩
    | cons b blocks => exact ⟨b.doc, by cases b; rfl⟩
  | _ :: _ :: _ => simp [hfound] at hlen

/-- A block starts with its keyword, and with `note` where no colon follows. -/
theorem startsBlock_of_keyword {t : Token} {rest : List Token} (hword : t.kind = .word)
    (hkeyword : topLevelKeywords.contains t.value.lower = true)
    (hnote : t.value.lower = "note".toList → rest.head?.map (·.kind) ≠ some .colon) :
    startsBlock (t :: rest) = true := by
  rw [startsBlock_cons, hword, hkeyword]
  by_cases hn : t.value.lower = "note".toList
  · simpa [hn] using hnote hn
  · simpa using .inl hn

/-- Blocks that are read among the tokens of a text start before its end. -/
theorem filter_among {s : Text} {found : List Block}
    (h : ∀ b ∈ found, b.place.Among (tokenize s)) :
      found.filter (s.length ≤ ·.span.start) = [] := by
  refine List.filter_eq_nil_iff.2 fun b hb => ?_
  obtain ⟨first, hfirst, _, -, -, hplace⟩ := h b hb
  have hstart : b.span.start = first.span.start := congrArg (·.span.start) hplace
  have hbounds := (bounds_of_mem_tokensFrom hfirst).2.2
  have hown := (apart_tokensFrom 0 1 s).own first hfirst
  rw [hstart, decide_eq_true_iff]
  omega

/-- Blocks that are moved start behind what they are moved by. -/
theorem filter_moved (n m : Nat) (doc : List Text) (blocks : List Block) :
    ((blocks.map (Block.move n m)).modifyHead (Block.withDoc doc)).filter (n ≤ ·.span.start)
      = (blocks.map (Block.move n m)).modifyHead (Block.withDoc doc) := by
  -- What is moved stands behind as many places.
  have hmoved : ∀ b : Block, n ≤ (b.move n m).span.start := by
    intro b
    rw [Block.move]
    exact Nat.le_add_left ..
  refine List.filter_eq_self.2 fun b hb => decide_eq_true ?_
  cases blocks with
  | nil => cases hb
  | cons c blocks =>
    rcases List.mem_cons.1 hb with rfl | hb
    · exact hmoved c
    · obtain ⟨c', -, rfl⟩ := List.mem_map.1 hb
      exact hmoved c'

/-- **A broken statement takes no later block with it.** Let a text end with a line end that is a
token, and let its braces be closed in it; its brackets and parentheses may be left open. Where the
text that follows starts with the keyword of a block, its blocks are those that are read from it
alone, further on by the characters and the lines before it; the first of them may have other doc
comments. -/
theorem blocks_behind {broken text : Text} {last t : Token} {rest : List Token}
    (hlast : (tokenize broken).getLast? = some last) (hline : last.kind = .newline)
    (hend : last.span.stop = broken.length) (hclosed : BracesClosed (tokenize broken))
    (htokens : tokenize text = t :: rest) (hword : t.kind = .word)
    (hkeyword : topLevelKeywords.contains t.value.lower = true)
    (hnote : t.value.lower = "note".toList → rest.head?.map (·.kind) ≠ some .colon) :
    ∃ doc, (parseBlocks (broken ++ text)).blocks.filter (broken.length ≤ ·.span.start)
      = ((parseBlocks text).blocks.map (Block.move broken.length (broken.count '\n'))).modifyHead
          (Block.withDoc doc) := by
  have hends := EndsLine.of_getLast hlast hline hend
  -- The text starts with a keyword, which ends whatever statement was broken.
  have hstarts : startsBlock ((tokenize text).map (Token.move broken.length (broken.count '\n')))
      = true := by
    rw [startsBlock_map (Keeps.move _ _), htokens]
    exact startsBlock_of_keyword hword hkeyword hnote
  have hall := apart_tokensFrom 0 1 (broken ++ text)
  rw [← tokenize, tokenize_lineEnd_append hends] at hall
  -- The blocks are those found in the broken text and those found behind it.
  obtain ⟨found, doc', hblocks, hfound⟩ :=
    exists_children_append (broken ++ text) [] hends.token hclosed hstarts hall
  obtain ⟨doc, hdoc⟩ := exists_children_withDoc text doc' rest hword
  rw [← htokens] at hdoc
  -- The blocks behind are those of the text by itself, moved, and a doc comment may be waiting.
  have hmoved : (contentsFrom (broken ++ text) true doc'
        ((tokenize text).map (Token.move broken.length (broken.count '\n')))).children
      = ((parseBlocks text).blocks.map (Block.move broken.length (broken.count '\n'))).modifyHead
          (Block.withDoc doc) := by
    have hnodes := congrArg Contents.children
      (contentsFrom_move broken text (broken.count '\n') true doc' (tokenize text))
    rw [← Block.map_move_withDoc, parseBlocks, ← hdoc]
    exact hnodes
  refine ⟨doc, ?_⟩
  change (contentsFrom (broken ++ text) true [] (tokenize (broken ++ text))).children.filter _ = _
  rw [tokenize_lineEnd_append hends, hblocks, List.filter_append, filter_among hfound,
    List.nil_append, hmoved, filter_moved]

/-- A table with a brace inside an open bracket, a stray brace, and a reference that is left
open. -/
def brokenTable : Text :=
  "Table a [note: (\nid \x7b int ) \x7d \x7d\n/// of b\nRef: (a.id >\n".toList

/-- A table and a reference. -/
def soundTable : Text := "Table b [note: 'n'] \x7b\n id int\n\x7d\nRef: b.id > a.id".toList

/-- The table and the reference are read behind the broken one as they are read alone. -/
theorem blocks_behind_brokenTable : BracesClosed (tokenize brokenTable) ∧
    (parseBlocks soundTable).blocks.length = 2 ∧
      ∃ doc, (parseBlocks (brokenTable ++ soundTable)).blocks.filter (brokenTable.length
        ≤ ·.span.start)
        = ((parseBlocks soundTable).blocks.map
            (Block.move brokenTable.length (brokenTable.count '\n'))).modifyHead
            (Block.withDoc doc) := by
  -- What is assumed of the two texts is computed.
  have hclosed : BracesClosed (tokenize brokenTable) := by decide +kernel
  have hlast : (tokenize brokenTable).getLast?.map (fun t => (t.kind, t.span.stop))
      = some (.newline, brokenTable.length) := by decide +kernel
  have hhead : (tokenize soundTable).head?.map (fun t => (t.kind, t.value.lower))
      = some (.word, "table".toList) := by decide +kernel
  obtain ⟨last, hlast, hends⟩ := Option.map_eq_some_iff.1 hlast
  obtain ⟨t, hfirst, hword⟩ := Option.map_eq_some_iff.1 hhead
  obtain ⟨hline, hstop⟩ := Prod.mk.inj hends
  obtain ⟨hkind, hvalue⟩ := Prod.mk.inj hword
  obtain ⟨rest, htokens⟩ := List.head?_eq_some_iff.1 hfirst
  refine ⟨hclosed, by decide +kernel, ?_⟩
  refine blocks_behind hlast hline hstop hclosed htokens hkind ?_ fun hnote => ?_
  · rw [hvalue]
    decide
  · -- It is not `note`, which could be a property.
    rw [hvalue] at hnote
    exact absurd hnote (by decide)

end SchemaDiagram
