import Mathlib.Tactic.Tauto
import SchemaDiagram.Proofs.Pieces
import SchemaDiagram.Proofs.Steps

/-! # What a tree says

A tree keeps the places of its blocks, so that a text with a stretch replaced has another tree even
where it says the same. The *view* of a block is what it says: its names, its texts and the views of
the blocks in it, without any place.

* **`Block.view text b`** — the view of a block of the given text.
* **`Keeps f`** — a change of places that keeps kinds and values of tokens; the parser does not see
  it (`Step.map`).
* **`Alike s s' f g tokens`** — the texts between any two of the tokens are the same after both
  changes; `contentsFrom_views` says that then the contents say the same. -/

namespace SchemaDiagram

/-- What a block says. -/
structure BlockView where
  /-- The first word in small letters. -/
  keyword : Text
  /-- The name. -/
  name : Option Text
  /-- The name after `as`. -/
  aliasName : Option Text
  /-- The characters of the settings list. -/
  settings : Option Text
  /-- Whether there are braces. -/
  braced : Bool
  /-- The characters of the body. -/
  body : Option Text
  /-- What the blocks of the body say. -/
  children : List BlockView
  /-- The lines of the body with their doc comments. -/
  lines : List (Text × List Text)
  /-- The keys and values of the body. -/
  properties : List (Text × Text)
  /-- The doc comments before the block. -/
  doc : List Text

/-- What a line says. -/
def BodyLine.content (l : BodyLine) : Text × List Text := (l.text, l.doc)

/-- What a property says. -/
def Property.content (p : Property) : Text × Text := (p.key, p.value)

/-- What a block of the text says. -/
def Block.view (text : Text) (b : Block) : BlockView :=
  { keyword := b.keyword
    name := b.name
    aliasName := b.aliasName
    settings := b.settingsSpan.map (·.slice text)
    braced := b.openBrace.isSome
    body := b.bodySpan.map (·.slice text)
    children := b.children.map (Block.view text)
    lines := b.lines.map BodyLine.content
    properties := b.properties.map Property.content
    doc := b.doc }
termination_by sizeOf b
decreasing_by
  rename_i c hc
  have hlt := List.sizeOf_lt_of_mem hc
  cases b
  simp_wf
  simp only at hlt
  omega

/-- What the contents of a token sequence say. -/
structure ContentsView where
  /-- What the blocks say. -/
  children : List BlockView
  /-- The lines with their doc comments. -/
  lines : List (Text × List Text)
  /-- The keys and values. -/
  properties : List (Text × Text)

/-- What the contents of a token sequence say. -/
def Contents.view (text : Text) (c : Contents) : ContentsView :=
  ⟨c.children.map (Block.view text), c.lines.map BodyLine.content,
    c.properties.map Property.content⟩

/-- Problems that are told do not change what is seen. -/
@[simp] theorem Contents.view_report (text : Text) (problems : List Diagnostic) (c : Contents) :
    (c.report problems).view text = c.view text := rfl

/-! ## Tokens in other places -/

/-- A change of places that keeps kinds and values. -/
structure Keeps (f : Token → Token) : Prop where
  /-- Kinds are kept. -/
  kind : ∀ t, (f t).kind = t.kind
  /-- Values are kept. -/
  value : ∀ t, (f t).value = t.value

/-- Nothing that a token is read as changes when it stays as it is. -/
theorem Keeps.id : Keeps id := ⟨fun _ => rfl, fun _ => rfl⟩

/-- A moved token is read as the same. -/
theorem Keeps.move (n m : Nat) : Keeps (Token.move n m) := ⟨fun _ => rfl, fun _ => rfl⟩

section Maps

variable {f : Token → Token} (hf : Keeps f)

include hf

/-- A keyword stays the same one. -/
theorem Keeps.isWord (t : Token) (word : Text) : (f t).isWord word = t.isWord word := by
  rw [Token.isWord, Token.isWord, hf.kind, hf.value]

/-- A part of a name stays one. -/
theorem Keeps.isNamePart (t : Token) : Header.isNamePart (f t) = Header.isNamePart t := by
  rw [Header.isNamePart, Header.isNamePart, hf.kind]

/-- Tokens are picked by their kinds. -/
theorem Keeps.filter_kind (p : TokenKind → Bool) (tokens : List Token) :
    (tokens.map f).filter (fun t => p t.kind) = (tokens.filter fun t => p t.kind).map f := by
  rw [List.filter_map]
  simp only [Function.comp_def, hf.kind]

/-- The start of a block stays one. -/
theorem startsBlock_map (tokens : List Token) :
    startsBlock (tokens.map f) = startsBlock tokens := by
  induction tokens with
  | nil => rfl
  | cons t rest ih =>
    rw [List.map_cons, startsBlock_cons, startsBlock_cons, ih, hf.kind, hf.value]
    cases rest with
    | nil => rfl
    | cons u rest => rw [List.map_cons, List.head?_cons, List.head?_cons, Option.map_some,
        Option.map_some, hf.kind]

/-- A brace is closed by the same token. -/
theorem closeBrace_map (depth : Nat) (tokens : List Token) :
    closeBrace depth (tokens.map f)
      = (closeBrace depth tokens).map fun (body, close, after) =>
          (body.map f, f close, after.map f) := by
  induction tokens generalizing depth with
  | nil => rfl
  | cons t rest ih =>
    rw [List.map_cons, closeBrace, closeBrace, hf.kind]
    split
    next => rfl
    next =>
      dsimp only
      rw [ih]
      simp [Function.comp_def]

/-- A line stops at the same token. -/
theorem lineStop_map (tl : Bool) (opened : List Token) (t : Token) (rest : List Token) :
    lineStop tl (opened.map f) (f t) (rest.map f) = (lineStop tl opened t rest).map (·.map f) := by
  rw [lineStop, lineStop, hf.kind, startsBlock_map hf, List.isEmpty_map, List.getLast?_map]
  split
  next => rfl
  next =>
    split
    next => rfl
    next => split <;> rfl

/-- A line is scanned up to the same token. -/
theorem scanLine_map (tl : Bool) (opened tokens : List Token) :
    scanLine tl (opened.map f) (tokens.map f)
      = ⟨(scanLine tl opened tokens).segment.map f, (scanLine tl opened tokens).rest.map f,
          (scanLine tl opened tokens).unclosed.map f⟩ := by
  induction tokens generalizing opened with
  | nil => rfl
  | cons t rest ih =>
    -- Brackets are opened and closed by kind.
    have hopened : openedBehind (opened.map f) (f t) = (openedBehind opened t).map f := by
      rw [openedBehind, openedBehind, hf.kind]
      split
      next => rfl
      next => split <;> simp
    rw [List.map_cons, scanLine_cons, scanLine_cons, lineStop_map hf, hopened, ih]
    cases lineStop tl opened t rest with
    | none => rfl
    | some u => rfl

/-! ## Headers in other places -/

/-- A name is taken from the same tokens. -/
theorem Header.takeName_map (isFirst : Bool) (tokens : List Token) :
    takeName isFirst (tokens.map f)
      = ((takeName isFirst tokens).1.map f, (takeName isFirst tokens).2.map f) := by
  fun_induction takeName isFirst tokens with
  | case1 => rfl
  | case2 isFirst t h =>
    rw [List.map_cons, List.map_nil, takeName, hf.isNamePart, hf.isWord, if_pos h]
  | case3 isFirst t h =>
    rw [List.map_cons, List.map_nil, takeName, hf.isNamePart, hf.isWord, if_neg h]
  | case4 isFirst t d rest h hd parts after heq ih =>
    rw [List.map_cons, List.map_cons, takeName, hf.isNamePart, hf.isWord, if_pos h, hf.kind,
      if_pos hd, ih, heq]
    rfl
  | case5 isFirst t d rest h hd =>
    rw [List.map_cons, List.map_cons, takeName, hf.isNamePart, hf.isWord, if_pos h, hf.kind,
      if_neg hd]
    rfl
  | case6 isFirst t d rest h =>
    rw [List.map_cons, List.map_cons, takeName, hf.isNamePart, hf.isWord, if_neg h]
    rfl

/-- An alias is taken from the same tokens. -/
theorem Header.takeAlias_map (tokens : List Token) :
    takeAlias (tokens.map f) = ((takeAlias tokens).1, (takeAlias tokens).2.map f) := by
  match tokens with
  | [] => rfl
  | [_] => rfl
  | t :: name :: rest =>
    simp only [List.map_cons, takeAlias, hf.isWord, hf.isNamePart, hf.value]
    split <;> rfl

/-- A bracket is closed by the same token. -/
theorem Header.closeBracket?_map (depth : Nat) (tokens : List Token) :
    closeBracket? depth (tokens.map f)
      = (closeBracket? depth tokens).map fun (close, after) => (f close, after.map f) := by
  induction tokens generalizing depth with
  | nil => rfl
  | cons t rest ih =>
    rw [List.map_cons, closeBracket?, closeBracket?, hf.kind]
    split
    next => exact ih _
    next =>
      split
      next => rfl
      next => exact ih _
    next => exact ih _

/-- The name of a header stays the same. -/
theorem Header.name_map (tokens : List Token) :
    (ofTokens (tokens.map f)).name = (ofTokens tokens).name := by
  simp only [ofTokens, takeName_map hf, List.isEmpty_map, List.map_map, Function.comp_def, hf.value]

/-- The alias of a header stays the same. -/
theorem Header.aliasName_map (tokens : List Token) :
    (ofTokens (tokens.map f)).aliasName = (ofTokens tokens).aliasName := by
  simp only [ofTokens, takeName_map hf, takeAlias_map hf]

end Maps

/-! ## The same texts in other places -/

/-- **The texts between any two of the tokens are the same after both changes of places**: from the
start of the one to the end of the other, and from the end of the one to the start of the other. No
text ends at a doc comment, so doc comments do not count. -/
structure Alike (s s' : Text) (f g : Token → Token) (tokens : List Token) : Prop where
  /-- The left change keeps kinds and values. -/
  left : Keeps f
  /-- The right change keeps kinds and values. -/
  right : Keeps g
  /-- The texts with both tokens. -/
  outer : ∀ t ∈ tokens, t.kind ≠ .doc → ∀ u ∈ tokens, u.kind ≠ .doc →
    s.slice (f t).span.start (f u).span.stop = s'.slice (g t).span.start (g u).span.stop
  /-- The texts without the tokens. -/
  inner : ∀ t ∈ tokens, t.kind ≠ .doc → ∀ u ∈ tokens, u.kind ≠ .doc →
    s.slice (f t).span.stop (f u).span.start = s'.slice (g t).span.stop (g u).span.start

/-- The same holds of some of the tokens. -/
theorem Alike.mono {s s' : Text} {f g : Token → Token} {tokens some : List Token}
    (h : Alike s s' f g tokens) (hsome : ∀ t ∈ some, t ∈ tokens) : Alike s s' f g some :=
  ⟨h.left, h.right, fun t ht hdt u hu => h.outer t (hsome t ht) hdt u (hsome u hu),
    fun t ht hdt u hu => h.inner t (hsome t ht) hdt u (hsome u hu)⟩

/-- The closing bracket and what follows it are among the tokens. -/
theorem Header.eq_of_closeBracket? {depth : Nat} {tokens after : List Token} {close : Token}
    (h : closeBracket? depth tokens = some (close, after)) :
    ∃ inner, tokens = inner ++ close :: after := by
  induction tokens generalizing depth with
  | nil => simp [closeBracket?] at h
  | cons t rest ih =>
    rw [closeBracket?] at h
    split at h
    next =>
      obtain ⟨inner, rfl⟩ := ih h
      exact ⟨t :: inner, rfl⟩
    next =>
      split at h
      next =>
        obtain ⟨rfl, rfl⟩ := Prod.mk.inj (Option.some.inj h)
        exact ⟨[], rfl⟩
      next =>
        obtain ⟨inner, rfl⟩ := ih h
        exact ⟨t :: inner, rfl⟩
    next =>
      obtain ⟨inner, rfl⟩ := ih h
      exact ⟨t :: inner, rfl⟩

/-- A list is closed by a closing bracket. -/
theorem Header.kind_of_closeBracket? {depth : Nat} {tokens after : List Token} {close : Token}
    (h : closeBracket? depth tokens = some (close, after)) : close.kind = .closeBracket := by
  induction tokens generalizing depth with
  | nil => cases h
  | cons t rest ih =>
    rw [closeBracket?] at h
    split at h
    next => exact ih h
    -- A closing bracket at depth zero is the one that is looked for.
    next hk =>
      split at h
      next =>
        obtain ⟨rfl, -⟩ := Prod.mk.inj (Option.some.inj h)
        exact hk
      next => exact ih h
    next => exact ih h

/-- What follows a name is among the tokens. -/
theorem Header.mem_of_takeName {isFirst : Bool} {tokens : List Token} {t : Token}
    (h : t ∈ (takeName isFirst tokens).2) : t ∈ tokens := by
  fun_induction takeName isFirst tokens with
  | case4 isFirst u d rest hu hd parts after heq ih =>
    rw [heq] at ih
    exact List.mem_cons_of_mem _ (List.mem_cons_of_mem _ (ih h))
  | case5 => exact List.mem_cons_of_mem _ h
  | case1 => cases h
  | case2 => cases h
  | case3 => exact h
  | case6 => exact h

/-- What follows an alias is among the tokens. -/
theorem Header.mem_of_takeAlias {tokens : List Token} {t : Token}
    (h : t ∈ (takeAlias tokens).2) : t ∈ tokens := by
  unfold takeAlias at h
  split at h
  next =>
    split at h
    next => exact List.mem_cons_of_mem _ (List.mem_cons_of_mem _ h)
    next => exact h
  next => exact h

section Alike

variable {s s' : Text} {f g : Token → Token}

/-- The settings of a header have the same text in both places. -/
theorem Header.takeSettings_alike {tokens : List Token} (h : Alike s s' f g tokens) :
    (takeSettings (tokens.map f)).1.map (·.slice s)
      = (takeSettings (tokens.map g)).1.map (·.slice s') := by
  cases tokens with
  | nil => rfl
  | cons t rest =>
    rw [List.map_cons, List.map_cons, takeSettings, takeSettings, h.left.kind, h.right.kind,
      closeBracket?_map h.left, closeBracket?_map h.right]
    split
    -- The tokens between the brackets stand in both texts.
    next hopen =>
      cases hclose : closeBracket? 0 rest with
      | none => rfl
      | some found =>
        obtain ⟨close, after⟩ := found
        have hkind := kind_of_closeBracket? hclose
        obtain ⟨inner, rfl⟩ := eq_of_closeBracket? hclose
        simp only [Option.map_some, Span.slice]
        rw [h.inner t (List.mem_cons_self ..) (by rw [hopen]; decide) close (by simp)
          (by rw [hkind]; decide)]
    next => rfl

/-- The settings list of a header says the same. -/
theorem Header.settings_alike {tokens : List Token} (h : Alike s s' f g tokens) :
    (ofTokens (tokens.map f)).settingsSpan.map (·.slice s)
      = (ofTokens (tokens.map g)).settingsSpan.map (·.slice s') := by
  simp only [ofTokens, takeName_map h.left, takeName_map h.right, takeAlias_map h.left,
    takeAlias_map h.right]
  exact takeSettings_alike (h.mono fun t ht => mem_of_takeName (mem_of_takeAlias ht))

/-- The last of some tokens is one of them, or the first one where there are no others. -/
theorem getLast?_getD_mem (t : Token) (tokens : List Token) :
    tokens.getLast?.getD t ∈ t :: tokens := by
  cases h : tokens.getLast? with
  | none => exact List.mem_cons_self ..
  | some u => exact List.mem_cons_of_mem _ (List.mem_of_getLast? h)

/-- **A body line says the same**: it is a line with the same text, or a property with the same key
and value. -/
theorem readBodyLine_alike {t : Token} {others : List Token} (h : Alike s s' f g (t :: others))
    (ht : t.kind ≠ .doc) (doc : List Text) :
    (readBodyLine s doc (f t) (others.map f)).map BodyLine.content Property.content
      = (readBodyLine s' doc (g t) (others.map g)).map BodyLine.content Property.content := by
  -- Doc comments keep their words in both places.
  have hdoc : ∀ {k : Token → Token}, Keeps k →
      ((others.map k).filter (·.kind = .doc)).map (·.value)
        = (others.filter (·.kind = .doc)).map (·.value) := by
    intro k hk
    rw [hk.filter_kind (· = .doc), List.map_map]
    simp only [Function.comp_def, hk.value]
  have hbody : ∀ {k : Token → Token}, Keeps k →
      (others.map k).filter (·.kind != .doc) = (others.filter (·.kind != .doc)).map k :=
    fun hk => hk.filter_kind (· != .doc) others
  -- The tokens of the line are no doc comments.
  have hmem : ∀ u ∈ others.filter (·.kind != .doc), u ∈ t :: others ∧ u.kind ≠ .doc :=
    fun u hu => ⟨List.mem_cons_of_mem _ (List.mem_filter.1 hu).1,
      by simpa using (List.mem_filter.1 hu).2⟩
  simp only [readBodyLine, hdoc h.left, hdoc h.right, hbody h.left, hbody h.right, h.left.kind,
    h.right.kind]
  generalize others.filter (·.kind != .doc) = body at hmem
  generalize (others.filter (·.kind = .doc)).map (·.value) = inlineDoc
  have hlast : ∀ k : Token → Token,
      (body.map k).getLast?.getD (k t) = k (body.getLast?.getD t) := by
    intro k
    rw [List.getLast?_map]
    cases body.getLast? <;> rfl
  have hlastmem : body.getLast?.getD t ∈ t :: others ∧ (body.getLast?.getD t).kind ≠ .doc := by
    rcases List.mem_cons.1 (getLast?_getD_mem t body) with hu | hu
    · rw [hu]
      exact ⟨List.mem_cons_self .., ht⟩
    · exact hmem _ hu
  simp only [hlast]
  generalize body.getLast?.getD t = last at hlastmem
  -- The text from the first to the last token is the same.
  have hwhole := h.outer t (List.mem_cons_self ..) ht last hlastmem.1 hlastmem.2
  have hline : ∀ line : List Text,
      (Sum.inl (s.slice (f t).span.start (f last).span.stop, line) : _ ⊕ (Text × Text))
        = Sum.inl (s'.slice (g t).span.start (g last).span.stop, line) := by
    intro line
    rw [hwhole]
  cases body with
  | nil => cases t.kind <;> exact hline _
  | cons second values =>
    by_cases hk : t.kind = .word
    · rw [hk]
      simp only [List.map_cons, h.left.kind, h.right.kind]
      -- A colon behind the word makes a property, whose value is the same text.
      split
      next =>
        cases values with
        | nil =>
          simp only [List.map_nil, Span.slice_empty, Sum.map_inr, Property.content, h.left.value,
            h.right.value]
        | cons value values =>
          obtain ⟨hmemvalue, hdoc⟩ := hmem value (by simp)
          have hvalue := h.outer value hmemvalue hdoc last hlastmem.1 hlastmem.2
          simp only [List.map_cons, Sum.map_inr, Property.content, h.left.value, h.right.value,
            Span.slice, hvalue]
      next => exact hline _
    · cases hkind : t.kind <;> first | exact absurd hkind hk | exact hline _

/-- **A reference on one line says the same**, or neither statement is one. -/
theorem readShortRef_alike {t : Token} {others : List Token} (h : Alike s s' f g (t :: others))
    (doc : List Text) :
    (readShortRef s doc (f t) (others.map f)).toOption.map (Block.view s)
      = (readShortRef s' doc (g t) (others.map g)).toOption.map (Block.view s') := by
  -- The reference is cut at the same places, since kinds stay.
  have hcolon : ∀ {k : Token → Token}, Keeps k →
      (others.map k).all (·.kind != .colon) = others.all (·.kind != .colon) := by
    intro k hk
    simp only [List.all_map, Function.comp_def, hk.kind]
  have hheader : ∀ {k : Token → Token}, Keeps k →
      (others.map k).takeWhile (·.kind != .colon)
      = (others.takeWhile (·.kind != .colon)).map k := by
    intro k hk
    simp only [List.takeWhile_map, Function.comp_def, hk.kind]
  have hbody : ∀ {k : Token → Token}, Keeps k →
      (((others.map k).dropWhile (·.kind != .colon)).drop 1).filter (·.kind != .doc)
        = (((others.dropWhile (·.kind != .colon)).drop 1).filter (·.kind != .doc)).map k := by
    intro k hk
    rw [List.dropWhile_map, ← List.map_drop, hk.filter_kind (· != .doc)]
    simp only [Function.comp_def, hk.kind]
  -- Its ends are tokens of the statement and no doc comments.
  have hmem : ∀ u ∈ ((others.dropWhile (·.kind != .colon)).drop 1).filter (·.kind != .doc),
      u ∈ t :: others ∧ u.kind ≠ .doc := fun u hu =>
    ⟨List.mem_cons_of_mem _
      ((List.dropWhile_sublist _).subset (List.mem_of_mem_drop (List.mem_filter.1 hu).1)),
      by simpa using (List.mem_filter.1 hu).2⟩
  simp only [readShortRef, hcolon h.left, hcolon h.right, hheader h.left, hheader h.right,
    hbody h.left, hbody h.right, h.left.isWord, h.right.isWord]
  generalize ((others.dropWhile (·.kind != .colon)).drop 1).filter (·.kind != .doc) = body at hmem
  split
  next => rfl
  next =>
    cases hfirst : body.head? with
    | none => simp [hfirst, Except.toOption]
    | some first =>
      cases hlast : body.getLast? with
      | none => simp [hfirst, hlast, Except.toOption]
      | some last =>
        obtain ⟨hmemfirst, hdocfirst⟩ := hmem first (List.mem_of_mem_head? hfirst)
        obtain ⟨hmemlast, hdoclast⟩ := hmem last (List.mem_of_getLast? hlast)
        have hspan := h.outer first hmemfirst hdocfirst last hmemlast hdoclast
        simp only [List.head?_map, List.getLast?_map, hfirst, hlast, Option.map_some,
          Except.toOption, Block.view, Option.map_none, Span.slice, hspan,
          Header.name_map h.left, Header.name_map h.right]
        rfl

/-- A block with the given parts says what its parts say. -/
theorem view_makeBlock {t brace close : Token} {header : List Token} {contents contents' : Contents}
    (h : Alike s s' f g (t :: header ++ [brace, close])) (hbrace : brace.kind ≠ .doc)
    (hclose : close.kind ≠ .doc) (hc : contents.view s = contents'.view s') (doc : List Text) :
    (makeBlock doc (f t) (.ofTokens (header.map f)) (f brace) (f close) contents).view s
      = (makeBlock doc (g t) (.ofTokens (header.map g)) (g brace) (g close) contents').view s' := by
  have hsettings := Header.settings_alike (h.mono fun u (hu : u ∈ header) => by simp [hu])
  have hbody : (Span.mk (f brace).span.stop (f close).span.start).slice s
      = (Span.mk (g brace).span.stop (g close).span.start).slice s' :=
    h.inner brace (by simp) hbrace close (by simp) hclose
  simp only [Contents.view, ContentsView.mk.injEq] at hc
  obtain ⟨hchildren, hlines, hproperties⟩ := hc
  simp only [makeBlock, Block.view, h.left.kind, h.right.kind, h.left.value, h.right.value,
    Header.name_map h.left, Header.name_map h.right, Header.aliasName_map h.left,
    Header.aliasName_map h.right, hsettings, hchildren, hlines, hproperties, Option.map_some, hbody]
  rfl

end Alike

/-! ## The same contents in other places -/

/-- What a step finds, with its tokens in other places. -/
def Item.map (f : Token → Token) : Item → Item
  | nothing => nothing
  | block head header brace body close =>
    block (f head) (header.map f) (f brace) (body.map f) (f close)
  | line head others => line (f head) (others.map f)

/-- **The parser does not see the places of the tokens.** -/
theorem Step.map {f : Token → Token} (hf : Keeps f) {tl : Bool} {doc doc' : List Text}
    {tokens rest : List Token} {item : Item} (h : Step tl doc tokens item doc' rest) :
    Step tl doc (tokens.map f) (item.map f) doc' (rest.map f) := by
  have hopened : ∀ t, openedBy (f t) = (openedBy t).map f := by
    intro t
    rw [openedBy, openedBy, hf.kind]
    split <;> rfl
  cases h with
  -- Every step is taken on kinds and values alone.
  | newline h => exact .newline (by rwa [hf.kind])
  | @doc t _ h =>
    rw [← hf.value t]
    exact .doc (by rwa [hf.kind])
  | strayBrace h => exact .strayBrace (by rwa [hf.kind])
  | bareUnclosed h hclose =>
    exact .bareUnclosed (by rwa [hf.kind]) (by rw [closeBrace_map hf, hclose]; rfl)
  | bareBlock h hclose =>
    exact .bareBlock (by rwa [hf.kind]) (by rw [closeBrace_map hf, hclose]; rfl)
  | unclosed h hscan hbrace hclose =>
    exact .unclosed (by rwa [hf.kind]) (by rw [hopened, scanLine_map hf, hscan]; rfl)
      (by rwa [hf.kind]) (by rw [closeBrace_map hf, hclose]; rfl)
  | block h hscan hbrace hclose =>
    exact .block (by rwa [hf.kind]) (by rw [hopened, scanLine_map hf, hscan]; rfl)
      (by rwa [hf.kind]) (by rw [closeBrace_map hf, hclose]; rfl)
  -- What stands behind a line is no brace in the other place, either.
  | line h hscan hbrace =>
    refine .line (by rwa [hf.kind]) (by rw [hopened, scanLine_map hf, hscan]) ?_
    intro brace hhead
    rw [List.head?_map, Option.mem_def, Option.map_eq_some_iff] at hhead
    obtain ⟨u, hu, rfl⟩ := hhead
    rw [hf.kind]
    exact hbrace u hu

/-- No doc comment stands at an end of what a step finds. -/
def Item.Bare : Item → Prop
  | nothing => True
  | block _ _ brace _ close => brace.kind ≠ .doc ∧ close.kind ≠ .doc
  | line head _ => head.kind ≠ .doc

/-- The brace that closes a body is a closing brace. -/
theorem kind_of_closeBrace {depth : Nat} {tokens body after : List Token} {close : Token}
    (h : closeBrace depth tokens = some (body, close, after)) : close.kind = .closeBrace := by
  induction tokens generalizing depth body with
  | nil => simp [closeBrace] at h
  | cons t rest ih =>
    rw [closeBrace] at h
    split at h
    next hk =>
      simp only [Option.some.injEq, Prod.mk.injEq] at h
      obtain ⟨-, rfl, -⟩ := h
      exact of_decide_eq_true (Bool.and_eq_true_iff.1 hk).1
    next =>
      obtain ⟨⟨inner, c, a⟩, hin, heq⟩ := Option.map_eq_some_iff.1 h
      simp only [Prod.mk.injEq] at heq
      obtain ⟨-, rfl, rfl⟩ := heq
      exact ih hin

/-- What a step finds starts and ends with other tokens than doc comments. -/
theorem Step.bare {tl : Bool} {doc doc' : List Text} {tokens rest : List Token} {item : Item}
    (h : Step tl doc tokens item doc' rest) : item.Bare := by
  cases h with
  | bareBlock h hclose => exact ⟨by rw [h]; decide, by rw [kind_of_closeBrace hclose]; decide⟩
  | block _ _ hbrace hclose =>
    exact ⟨by rw [hbrace]; decide, by rw [kind_of_closeBrace hclose]; decide⟩
  | line h =>
    intro hdoc
    rw [hdoc] at h
    cases h
  | _ => trivial

/-- Putting the same statement in front of contents that say the same gives such contents. -/
theorem addStatement_view {s s' : Text} {f g : Token → Token} {t : Token} {others : List Token}
    (h : Alike s s' f g (t :: others)) (ht : t.kind ≠ .doc) {c c' : Contents}
    (hc : c.view s = c'.view s') (tl : Bool) (doc : List Text) :
    (addStatement s tl doc (f t) (others.map f) c).view s
      = (addStatement s' tl doc (g t) (others.map g) c').view s' := by
  have hc' := hc
  simp only [Contents.view, ContentsView.mk.injEq] at hc'
  obtain ⟨hchildren, hlines, hproperties⟩ := hc'
  cases tl with
  -- At the top level a statement is a reference or an error.
  | true =>
    have href := readShortRef_alike h doc
    simp only [addStatement, if_true]
    generalize readShortRef s doc (f t) (others.map f) = r at href
    generalize readShortRef s' doc (g t) (others.map g) = r' at href
    cases r <;> cases r' <;> simp_all [Except.toOption, Contents.view, Contents.addBlock,
      Contents.report]
  -- In a body it is a line or a property.
  | false =>
    have hline := readBodyLine_alike h ht doc
    simp only [addStatement, Bool.false_eq_true, if_false]
    generalize readBodyLine s doc (f t) (others.map f) = r at hline
    generalize readBodyLine s' doc (g t) (others.map g) = r' at hline
    cases r <;> cases r' <;> simp_all [Contents.view, Contents.addLine, Contents.addProperty]

/-- **What a step finds says the same in other places**, when its body does. -/
theorem Item.add_view {s s' : Text} {f g : Token → Token} {item : Item}
    (h : Alike s s' f g item.tokens) (hbare : item.Bare) (hbody : ∀ head header brace body close,
      item = .block head header brace body close →
      (contentsFrom s false [] (body.map f)).view s
        = (contentsFrom s' false [] (body.map g)).view s')
    {c c' : Contents} (hc : c.view s = c'.view s') (tl : Bool) (doc : List Text) :
    ((item.map f).add s tl doc c).view s = ((item.map g).add s' tl doc c').view s' := by
  cases item with
  | nothing => exact hc
  | block head header brace body close =>
    have hmem : ∀ u ∈ head :: header ++ [brace, close],
        u ∈ (Item.block head header brace body close).tokens := by
      intro u hu
      simp only [Item.tokens, List.cons_append, List.mem_cons, List.mem_append] at hu ⊢
      tauto
    have hblock := view_makeBlock (h.mono hmem) hbare.1 hbare.2 (hbody _ _ _ _ _ rfl) doc
    simp only [Contents.view, ContentsView.mk.injEq] at hc ⊢
    simp only [Item.map, Item.add, Contents.addBlock, List.map_cons, hblock, hc, and_self]
  | line head others => exact addStatement_view h hbare hc tl doc

/-- **Contents say the same in other places**, when the texts between their tokens are the same. -/
theorem contentsFrom_view {s s' : Text} {f g : Token → Token} {tokens : List Token}
    (h : Alike s s' f g tokens) (tl : Bool) (doc : List Text) :
    (contentsFrom s tl doc (tokens.map f)).view s
      = (contentsFrom s' tl doc (tokens.map g)).view s' := by
  induction tl, doc, tokens using nested_induction with
  | nil tl doc =>
    rw [List.map_nil, List.map_nil, contentsFrom_nil, contentsFrom_nil]
    rfl
  | step tl doc t others item doc' rest hstep ih ihbody =>
    obtain ⟨used, hused, -, hitem⟩ := hstep.exists_used
    obtain ⟨_, hf⟩ := contentsFrom_of_step (hstep.map h.left) s
    obtain ⟨_, hg⟩ := contentsFrom_of_step (hstep.map h.right) s'
    -- What is read behind the step says the same.
    have hrest : (contentsFrom s tl doc' (rest.map f)).view s
        = (contentsFrom s' tl doc' (rest.map g)).view s' :=
      ih (h.mono fun u hu => by rw [hused]; exact List.mem_append_right _ hu)
    -- The tokens of what the step finds are among those it takes.
    have hmem : ∀ u ∈ item.tokens, u ∈ t :: others := fun u hu => by
      rw [hused]
      exact List.mem_append_left _ (hitem u hu)
    rw [hf, hg, Contents.view_report, Contents.view_report]
    refine Item.add_view (h.mono hmem) hstep.bare ?_ hrest tl doc
    rintro head header brace body close rfl
    exact ihbody head header brace body close rfl
      (h.mono fun u hu => hmem u (by simp [Item.tokens, hu]))

/-- The blocks that a step finds. -/
def Item.blocks (source : Text) (topLevel : Bool) (doc : List Text) (item : Item) : List Block :=
  (item.add source topLevel doc .empty).children

/-- The blocks that a step finds come before those of the following contents. -/
theorem Item.children_add (source : Text) (topLevel : Bool) (doc : List Text) (item : Item)
    (c : Contents) :
    (item.add source topLevel doc c).children
      = item.blocks source topLevel doc ++ c.children := by
  cases item with
  | nothing => rfl
  | block => rfl
  | line head others =>
    simp only [blocks, add, addStatement]
    split
    next => split <;> rfl
    next => split <;> rfl

/-- A step finds at most one block. -/
theorem Item.length_blocks (source : Text) (topLevel : Bool) (doc : List Text) (item : Item) :
    (item.blocks source topLevel doc).length ≤ 1 := by
  cases item with
  | nothing => exact Nat.zero_le _
  | block => exact Nat.le_refl _
  | line head others =>
    simp only [blocks, add, addStatement]
    split
    next => split <;> simp [Contents.addBlock, Contents.report, Contents.empty]
    next => split <;> simp [Contents.addLine, Contents.addProperty, Contents.empty]

/-- The blocks that a step finds say the same in other places. -/
theorem Item.blocks_view {s s' : Text} {f g : Token → Token} {item : Item}
    (h : Alike s s' f g item.tokens) (hbare : item.Bare) (tl : Bool) (doc : List Text) :
    ((item.map f).blocks s tl doc).map (Block.view s)
      = ((item.map g).blocks s' tl doc).map (Block.view s') := by
  have hempty : Contents.empty.view s = Contents.empty.view s' := rfl
  have hview := Item.add_view h hbare (fun head header brace body close hitem =>
    contentsFrom_view (h.mono fun u hu => by rw [hitem]; simp [Item.tokens, hu]) false [])
    hempty tl doc
  exact congrArg ContentsView.children hview

end SchemaDiagram
