import SchemaDiagram.Proofs.BodySite
import SchemaDiagram.Proofs.SchemaEdit

/-! # Tables are read independently

A table is read from its own block, with the enums and partials of the document and the identifiers
that are taken. None of these is told by what stands between the braces of another table: the
closing brace is found by counting braces, so nothing in a body reaches the text behind it, however
broken the body is.

* **`EndsOutside X`** — a text ends outside literals and comments.
* **`Schema.SameBut name i`** — two schemas say the same, but for one table and the references in
  its fields; `SameAround.sameBut` says when they do.
* **`readSchema_otherBody`** — the schema of a document with another text between the braces of a
  table. -/

namespace SchemaDiagram

/-! ## Texts that end outside -/

/-- **The text ends outside literals and comments**: a brace behind it is a character by itself.
Between braces a text starts outside, whatever it is. -/
def EndsOutside (X : Text) : Prop := segments (X ++ ['\x7d']) = segments X ++ [.char '\x7d']

instance (X : Text) : Decidable (EndsOutside X) := by
  unfold EndsOutside
  infer_instance

/-- The brace behind such a text is read by itself, whatever follows it. -/
theorem EndsOutside.joint {X : Text} (h : EndsOutside X) (post : Text) :
    Joint X ('\x7d' :: post) := by
  have hself : segments ['\x7d'] = [.char '\x7d'] := by decide +kernel
  have hbrace : Joint X ['\x7d'] := by rw [Joint, h, hself]
  exact hbrace.swap (.inr (.inl rfl))

/-! ## Schemas that differ in one table -/

/-- **Two schemas say the same, but for the table of a name at a place**: that table keeps its
identifier and its name, and of the references only those in its fields differ. -/
structure Schema.SameBut (name : Text) (i : Nat) (s s' : Schema) : Prop where
  /-- The other tables are the same, and the table keeps its identifier and its name. -/
  tables : DifferAt i (fun t t' => t.name = name ∧ t'.name = name ∧ t'.id = t.id) s.tables s'.tables
  /-- The references are the same but for those in the fields of the table, which stand together. -/
  relationships : ∃ t t' before after, s.tables[i]? = some t ∧ s'.tables[i]? = some t' ∧
    s.relationships = before ++ t.inlineReferences ++ after ∧
    s'.relationships = before ++ t'.inlineReferences ++ after
  /-- The notes are the same. -/
  notes : s'.notes = s.notes
  /-- The enums are the same. -/
  enums : s'.enums = s.enums
  /-- The project settings are the same. -/
  project : s'.project = s.project
  /-- The name of the project is the same. -/
  projectName : s'.projectName = s.projectName

/-- **The schemas of two texts whose blocks say the same, but for one table that keeps its
name.** -/
theorem SameAround.sameBut {text text' name : Text} {front back front' back' : List Block}
    {b b' : Block}
    (h : SameAround text text' front back front' back' b b') (hk : b.keyword = "table".toList)
    (hname : b.properName? = some name) (hname' : b'.properName? = some name) :
    (readSchema text).SameBut name (countNamed (front.filter (·.keyword = "table".toList)))
      (readSchema text') := by
  obtain ⟨hpartials, henums⟩ := h.tableContext_eq (.inl hk)
  have hlower : b.keyword = Text.lower "table".toList := hk
  obtain ⟨hself, hself'⟩ := h.withKeyword_self hlower
  obtain ⟨hrefs, henums', hproject, hprojectName⟩ := h.beside (.inl hk)
  obtain ⟨id, before, t, t', after, hold, hnew, hlength, ht, ht'⟩ := TableContext.readTables_swap
    hpartials henums (filter_keyword h.front (Text.lower "table".toList))
    (filter_keyword h.back (Text.lower "table".toList)) hname hname'
  have htables : (readSchema text).tables = before ++ t :: after := by
    rw [← hold, ← hself]
    rfl
  have htables' : (readSchema text').tables = before ++ t' :: after := by
    rw [← hnew, ← hself']
    rfl
  -- The references in fields come table by table, before those of the blocks.
  have hinline : ∀ u : Table, (before ++ u :: after).flatMap (·.inlineReferences)
      = before.flatMap (·.inlineReferences) ++ u.inlineReferences
        ++ after.flatMap (·.inlineReferences) := by
    intro u
    rw [List.flatMap_append, List.flatMap_cons, List.append_assoc]
  have hplace : ∀ u : Table, (before ++ u :: after)[before.length]? = some u := by
    intro u
    rw [List.getElem?_append_right (Nat.le_refl _), Nat.sub_self]
    rfl
  rw [show Text.lower "table".toList = "table".toList from rfl] at hlength
  refine ⟨⟨before, t, t', after, htables, htables', hlength, ?_⟩, ⟨t, t',
    before.flatMap (·.inlineReferences),
    after.flatMap (·.inlineReferences) ++ (readRefs (parseBlocks (clean text))).value, ?_, ?_,
      ?_, ?_⟩,
    h.notes_eq hk, henums', hproject, hprojectName⟩
  · have hkept : t.name = name ∧ t.id = id := by
      rw [ht]
      exact ⟨TableContext.name_readTable .., TableContext.id_readTable ..⟩
    have hkept' : t'.name = name ∧ t'.id = id := by
      rw [ht']
      exact ⟨TableContext.name_readTable .., TableContext.id_readTable ..⟩
    exact ⟨hkept.1, hkept'.1, hkept'.2.trans hkept.2.symm⟩
  · rw [htables, ← hlength, hplace]
  · rw [htables', ← hlength, hplace]
  · show (readSchema text).tables.flatMap _ ++ _ = _
    rw [htables, hinline, List.append_assoc]
  · show (readSchema text').tables.flatMap _ ++ _ = _
    rw [htables', hinline, hrefs, List.append_assoc]

/-! ## Another body -/

/-- An element that a filter keeps stands behind those that it keeps before it. -/
theorem exists_of_getElem?_filter {α : Type} {p : α → Bool} {l : List α} {i : Nat} {a : α}
    (h : (l.filter p)[i]? = some a) :
    ∃ front back, l = front ++ a :: back ∧ (front.filter p).length = i := by
  obtain ⟨hlt, ha⟩ := List.getElem?_eq_some_iff.1 h
  have hsplit : l.filter p = (l.filter p).take i ++ a :: (l.filter p).drop (i + 1) := by
    rw [← ha, List.cons_getElem_drop_succ, List.take_append_drop]
  obtain ⟨front, rest, hl, hfront, hrest⟩ := List.filter_eq_append_iff.1 hsplit
  obtain ⟨skipped, back, hcons, hskipped, -, -⟩ := List.filter_eq_cons_iff.1 hrest
  refine ⟨front ++ skipped, back, by rw [hl, hcons, List.append_assoc], ?_⟩
  rw [List.filter_append, hfront, List.filter_eq_nil_iff.2 hskipped, List.append_nil,
    List.length_take]
  omega

/-- **Tables are read independently.** A table with a name has a body, and another text may stand
between its braces, if the text ends outside literals and comments and its braces are balanced: the
other tables, the notes, the enums and the project settings are as they were, and so are the
references but for those in the fields of the table. -/
theorem readSchema_otherBody {text name : Text} {i : Nat} {b : Block}
    (hb : (namedBlocks text .table)[i]? = some b) (hname : b.properName? = some name) :
    ∃ body, b.bodySpan = some body ∧ ∀ X, EndsOutside X → HasBalancedBraces X →
      (readSchema text).SameBut name i
        (readSchema ((Splice.mk body.start body.stop X).apply text)) := by
  have hmem := List.mem_of_getElem? hb
  have hk : b.keyword = "table".toList :=
    of_decide_eq_true (List.mem_filter.1 (List.mem_filter.1 hmem).1).2
  -- The block is the one of its number among the tables, so it stands among all blocks.
  rw [namedBlocks, BlockTree.withKeyword, List.filter_filter] at hb
  obtain ⟨front, back, hblocks, hcount⟩ := exists_of_getElem?_filter hb
  rw [← List.filter_filter] at hcount
  -- The text is cut at the braces of the block.
  obtain ⟨p, X, post, hp, hpost, rfl, hX, rfl, hbodied⟩ := exists_bodied hblocks
    (openBrace_of_mem_namedBlocks hmem) (by rw [hk]; decide)
  refine ⟨_, hp.bodySpan .., fun X' hends hbraces => ?_⟩
  have htext : p.text X = p.ahead ++ (X ++ p.behind) := rfl
  have happly : (Splice.mk p.ahead.length ↑(p.ahead.length + X.length) X').apply (p.text X)
      = p.text X' :=
    Splice.apply_replacing htext X'
  -- The blocks before and behind say what they said.
  obtain ⟨front', back', hblocks', hfront, hback⟩ := hbodied X' hbraces (hpost ▸ hends.joint post)
  have haround : SameAround (p.text X) (p.text X') front back front' back' _ _ :=
    ⟨hblocks, hblocks', hfront, rfl, hback⟩
  rw [Span.behind, happly, ← hcount]
  exact haround.sameBut hk hname hname

/-- An enum and two tables with references between them and outside of them, and a note. -/
def ledger : Text :=
  "Enum kind \x7b a \x7d
Table owner [x: 1] \x7b
  id int
\x7d
Table item \x7b
  owner kind [ref: > owner.id]
\x7d
Ref: item.owner > owner.id
Note n \x7b 'text' \x7d".toList

/-- A body with brackets and a literal that are left open, blocks of other keywords, and braces
inside brackets and comments. -/
def brokenBody : Text :=
  " ] ( id int [ref: > \x7b item.owner \x7d
Enum kind \x7b z \x7d Table item \x7b \x7d
  ~ nothing [[ 'open
  /* \x7b */ // \x7d
".toList

/-- The schema of the ledger with the broken body between the braces of its first table. -/
theorem readSchema_otherBody_ledger : EndsOutside brokenBody ∧ HasBalancedBraces brokenBody ∧
    ∃ b, (namedBlocks ledger .table)[0]? = some b ∧ b.properName? = some "owner".toList ∧
      ∃ body, b.bodySpan = some body ∧ (readSchema ledger).SameBut "owner".toList 0
        (readSchema ((Splice.mk body.start body.stop brokenBody).apply ledger)) := by
  have hends : EndsOutside brokenBody := by decide +kernel
  have hbraces : HasBalancedBraces brokenBody := by decide +kernel
  have hfound : (namedBlocks ledger .table)[0]?.bind (·.properName?) = some "owner".toList := by
    decide +kernel
  obtain ⟨b, hb, hname⟩ := Option.bind_eq_some_iff.1 hfound
  obtain ⟨body, hbody, hsame⟩ := readSchema_otherBody hb hname
  exact ⟨hends, hbraces, b, hb, hname, body, hbody, hsame brokenBody hends hbraces⟩

end SchemaDiagram
