import SchemaDiagram.Edit.Plan
import SchemaDiagram.Proofs.Site

/-! # Outlines of blocks

A block is found by its keyword and its name, and its settings are written at the places of its list
and of its brace. These make up the *outline* of the block. Nothing else of the text is in it: in a
text that stands further on, the same tokens make blocks with the same outlines, further on by as
much.

* **`Outline`** — what a block is found by and written at; `Outline.shift` moves it.
* **`Outline.splice`** — the splice that writes values at an outline; `apply_splice_shift` says that
  it leaves what stands before the outline's text alone.
* **`outlines_blocksOf`** — the outlines of the blocks before a site.
* **`outlines_move`** — the outlines of the blocks of tokens that are moved. -/

namespace SchemaDiagram

/-- What a block is found by, and the places at which its settings are written. -/
structure Outline where
  /-- The first word in small letters. -/
  keyword : Text
  /-- The name. -/
  name : Option Text
  /-- What lies between the brackets of the settings list. -/
  settingsSpan : Option Span
  /-- The offset of the opening brace. -/
  openBrace : Option Nat

/-- The outline of a block. -/
def Block.outline (b : Block) : Outline := ⟨b.keyword, b.name, b.settingsSpan, b.openBrace⟩

namespace Outline

/-- The outline `n` places further on. -/
def shift (n : Nat) (o : Outline) : Outline :=
  { o with
    settingsSpan := o.settingsSpan.map (·.shift n)
    openBrace := o.openBrace.map (· + n) }

/-- The splice that writes values into the settings list at an outline, or a new list before its
brace. -/
def splice (text : Text) (o : Outline) (values : OrderedMap Text) : Splice :=
  match o.settingsSpan with
  | some span => ⟨span.start, span.stop, rewriteSettings (span.slice text) values⟩
  | none =>
    let place := o.openBrace.getD 0
    let inner := Text.join ", " (values.map fun (key, value) => settingText key value)
    ⟨place, place, concat ["[", inner, "] "]⟩

end Outline

/-- The settings of a block with braces are written at its outline. -/
theorem settingsSplice_eq_splice {b : Block} (hbrace : b.openBrace.isSome = true) (text : Text)
    (values : OrderedMap Text) : settingsSplice text b values = b.outline.splice text values := by
  obtain ⟨n, hn⟩ := Option.isSome_iff_exists.1 hbrace
  rw [settingsSplice, Outline.splice, Block.outline]
  dsimp only
  rw [hn]
  rfl

/-! ## Writing further on in a text -/

/-- A stretch of the text behind `lead`. -/
theorem Span.slice_shift (span : Span) (lead text : Text) :
    (span.shift lead.length).slice (lead ++ text) = span.slice text := by
  rw [slice, slice, shift, Text.slice, Text.slice, Nat.add_sub_add_right, Nat.add_comm span.start,
    ← List.drop_drop, List.drop_left]

/-- A place in the text behind `lead`. -/
theorem place_append (lead text : Text) (n : Nat) :
    (lead ++ text).place ↑(n + lead.length) = lead.length + text.place n := by
  rw [Text.place, Text.place, if_neg (by omega), if_neg (by omega), List.length_append]
  omega

/-- **A splice further on** leaves what stands before alone. -/
theorem Splice.apply_append (lead text : Text) (i j : Nat) (new : Text) :
    (Splice.mk ↑(i + lead.length) ↑(j + lead.length) new).apply (lead ++ text)
      = lead ++ (Splice.mk i j new).apply text := by
  rw [apply, apply, place_append, place_append, List.take_length_add_append,
    List.drop_length_add_append, List.append_assoc, List.append_assoc, List.append_assoc]

/-- **Writing at an outline further on** leaves what stands before alone. -/
theorem Outline.apply_splice_shift {o : Outline} (hbrace : o.openBrace.isSome = true)
    (lead text : Text) (values : OrderedMap Text) :
    ((o.shift lead.length).splice (lead ++ text) values).apply (lead ++ text)
      = lead ++ (o.splice text values).apply text := by
  obtain ⟨n, hn⟩ := Option.isSome_iff_exists.1 hbrace
  rw [splice, splice, shift, hn]
  dsimp only
  -- Without a list the text goes right ahead of the brace, else it replaces the list.
  cases o.settingsSpan with
  | none => exact Splice.apply_append lead text n n _
  | some span =>
    rw [Option.map_some]
    dsimp only
    rw [span.slice_shift]
    exact Splice.apply_append lead text span.start span.stop _

/-! ## The outlines of what is read -/

/-- The outlines of what a step finds. -/
def Item.outlines (item : Item) : List Outline := (item.blocks [] true []).map Block.outline

/-- The outline of a reference on one line is told by the kinds and the values of its tokens. -/
theorem readShortRef_outline {f : Token → Token} (hf : Keeps f) (s s' : Text) (doc doc' : List Text)
    (t : Token) (others : List Token) :
    (readShortRef s doc (f t) (others.map f)).toOption.map Block.outline
      = (readShortRef s' doc' t others).toOption.map Block.outline := by
  -- Kinds and values stay, so the reference is cut at the same places.
  have hcolon : (others.map f).all (·.kind != .colon) = others.all (·.kind != .colon) := by
    simp only [List.all_map, Function.comp_def, hf.kind]
  have hheader : (others.map f).takeWhile (·.kind != .colon)
      = (others.takeWhile (·.kind != .colon)).map f := by
    simp only [List.takeWhile_map, Function.comp_def, hf.kind]
  have hbody : (((others.map f).dropWhile (·.kind != .colon)).drop 1).filter (·.kind != .doc)
      = (((others.dropWhile (·.kind != .colon)).drop 1).filter (·.kind != .doc)).map f := by
    rw [List.dropWhile_map, ← List.map_drop, hf.filter_kind (· != .doc)]
    simp only [Function.comp_def, hf.kind]
  simp only [readShortRef, hcolon, hheader, hbody, hf.isWord]
  split
  next => rfl
  next =>
    generalize ((others.dropWhile (·.kind != .colon)).drop 1).filter (·.kind != .doc) = body
    cases hfirst : body.head? with
    | none => simp [hfirst, Except.toOption]
    | some first =>
      cases hlast : body.getLast? with
      | none => simp [hfirst, hlast, Except.toOption]
      | some last =>
        simp only [List.head?_map, List.getLast?_map, hfirst, hlast, Option.map_some,
          Except.toOption, Block.outline, Header.name_map hf]

/-- The blocks that a statement makes at the top level. -/
theorem Item.blocks_line (s : Text) (doc : List Text) (t : Token) (others : List Token) :
    (Item.line t others).blocks s true doc = (readShortRef s doc t others).toOption.toList := by
  rw [blocks, add, addStatement, if_pos rfl]
  cases readShortRef s doc t others <;> rfl

/-- **The outlines of what a step finds** are told by its tokens. -/
theorem Item.outline_blocks (s : Text) (doc : List Text) (item : Item) :
    (item.blocks s true doc).map Block.outline = item.outlines := by
  cases item with
  | nothing => rfl
  | block => rfl
  | line t others =>
    have href := readShortRef_outline Keeps.id s [] doc [] t others
    rw [List.map_id, id] at href
    rw [outlines, blocks_line, blocks_line, ← Option.toList_map, href, Option.toList_map]

/-- **The outlines of the blocks before a site** are told by the tokens there. -/
theorem outlines_blocksOf (s : Text) (items : List (List Text × Item)) :
    (blocksOf s items).map Block.outline = items.flatMap fun e => e.2.outlines := by
  rw [blocksOf, List.map_flatMap]
  simp only [Item.outline_blocks]

/-! ## Tokens that are moved -/

section

variable (n m : Nat)

/-- The settings of a header are moved with its tokens. -/
theorem Header.takeSettings_move (tokens : List Token) :
    (takeSettings (tokens.map (Token.move n m))).1 = (takeSettings tokens).1.map (·.shift n) := by
  cases tokens with
  | nil => rfl
  | cons t rest =>
    rw [List.map_cons, takeSettings, takeSettings, Token.move_kind,
      closeBracket?_map (Keeps.move n m)]
    split
    next =>
      cases closeBracket? 0 rest with
      | none => rfl
      | some found => rfl
    next => rfl

/-- The settings list of a header moves with its tokens. -/
theorem Header.settingsSpan_move (tokens : List Token) :
    (ofTokens (tokens.map (Token.move n m))).settingsSpan
      = (ofTokens tokens).settingsSpan.map (·.shift n) := by
  simp only [ofTokens, takeName_map (Keeps.move n m), takeAlias_map (Keeps.move n m),
    takeSettings_move]

/-- The outlines of what a step finds move with its tokens. -/
theorem Item.outlines_map_move (item : Item) :
    (item.map (Token.move n m)).outlines = item.outlines.map (·.shift n) := by
  cases item with
  | nothing => rfl
  | block head header brace body close =>
    have hlist := Header.settingsSpan_move n m header
    have hname := Header.name_map (Keeps.move n m) header
    simp only [Item.map, outlines, blocks, add, Contents.addBlock, makeBlock, Contents.empty,
      Block.outline, List.map_cons, List.map_nil, hlist, hname]
    rfl
  | line t others =>
    -- A reference on one line has neither a list nor a brace.
    have hstay : ∀ b ∈ (readShortRef [] [] t others).toOption, b.outline.shift n = b.outline := by
      intro b hb
      cases href : readShortRef [] [] t others with
      | error problems =>
        rw [href] at hb
        cases hb
      | ok block =>
        rw [href] at hb
        obtain rfl : block = b := Option.some.inj hb
        obtain ⟨hspan, hbrace⟩ := bare_of_readShortRef href
        rw [Block.outline, Outline.shift, hspan, hbrace]
        rfl
    have href := readShortRef_outline (Keeps.move n m) [] [] [] [] t others
    rw [Item.map, outlines, outlines, blocks_line, blocks_line, ← Option.toList_map, href]
    cases hblock : (readShortRef [] [] t others).toOption with
    | none => rfl
    | some b =>
      rw [Option.map_some, Option.toList_some, Option.toList_some, List.map_singleton,
        List.map_singleton, hstay b hblock]

/-- **Blocks move with their tokens**: their outlines are the same, further on by as much. -/
theorem outlines_move (s s' : Text) (doc : List Text) (tokens : List Token) :
    (contentsFrom s true doc (tokens.map (Token.move n m))).children.map Block.outline
      = ((contentsFrom s' true doc tokens).children.map Block.outline).map (·.shift n) := by
  -- A step finds the same item among the moved tokens.
  induction doc, tokens using steps_induction true with
  | nil doc =>
    rw [List.map_nil, contentsFrom_nil, contentsFrom_nil]
    rfl
  | step doc t others item doc' rest hstep ih =>
    obtain ⟨_, hmoved⟩ := contentsFrom_of_step (hstep.map (Keeps.move n m)) s
    obtain ⟨_, hplain⟩ := contentsFrom_of_step hstep s'
    have hchildren : ∀ (problems : List Diagnostic) (c : Contents),
        (c.report problems).children = c.children := fun _ _ => rfl
    rw [hmoved, hplain, hchildren, hchildren, Item.children_add, Item.children_add, List.map_append,
      List.map_append, List.map_append, Item.outline_blocks, Item.outline_blocks,
      Item.outlines_map_move, ih]

end

end SchemaDiagram
