import SchemaDiagram.Proofs.BodyRewrite
import SchemaDiagram.Proofs.BodySite
import SchemaDiagram.Proofs.Committing

/-! # What a change of a project does

A change of a project is written into the body of the first project block. The replacements are
woven into one splice from the first to the last of them; the text after it is the one with all of
them made in the body by itself. So that block says what it said with the values written into it,
and the other blocks say what they said.

* **`apply_projectSplice`** — the text after the splice.
* **`FirstProject`** — the first project block of a text and the blocks around it.
* **`exists_preview_project`** — what the blocks of a text are after a change of a project. -/

namespace SchemaDiagram

/-! ## The text after the splice -/

/-- Replacements up to the end of the last one leave what stands behind it. -/
theorem weave_last (text : Text) {edits : List (Span × Text)} {last : Span × Text}
    (h : edits.getLast? = some last) (cursor : Nat) :
    weave text cursor last.1.stop edits ++ text.drop last.1.stop
      = weave text cursor text.length edits := by
  have hbehind : text.slice last.1.stop text.length = text.drop last.1.stop :=
    List.take_of_length_le (by simp)
  induction edits generalizing cursor with
  | nil => cases h
  | cons e edits ih =>
    cases edits with
    -- With the last replacement the rest of the text is written as it stands.
    | nil =>
      obtain rfl : e = last := by simpa using h
      rw [weave, weave, weave, weave, Text.slice_self, List.append_nil, hbehind]
    | cons f edits =>
      rw [List.getLast?_cons_cons] at h
      rw [weave, List.append_assoc, ih h]
      rfl

section

variable {text a p b : Text} (h : text = a ++ (p ++ b)) {edits : List (Span × Text)}
  (hedits : ∀ e ∈ edits, e.1.start ≤ p.length ∧ e.1.stop ≤ p.length)

include h hedits

/-- Replacements inside a part, from a place in it on. -/
theorem weave_shift {cursor : Nat} (hcursor : cursor ≤ p.length) :
    weave text (a.length + cursor) text.length (edits.map (shiftEdit a.length))
      = weave p cursor p.length edits ++ b := by
  induction edits generalizing cursor with
  | nil =>
    -- Without replacements both sides are the rest of the part and what follows it.
    rw [List.map_nil, weave, weave, Text.slice, Text.slice, List.take_of_length_le (by simp),
      List.take_of_length_le (by simp), h, List.drop_length_add_append,
      List.drop_append_of_le_length hcursor]
  | cons e edits ih =>
    obtain ⟨hstart, hstop⟩ := hedits e (List.mem_cons_self ..)
    have hrest := ih (fun f hf => hedits f (List.mem_cons_of_mem _ hf)) hstop
    have hslice := Text.slice_inside h (i := cursor) hstart
    rw [List.map_cons, weave, weave, shiftEdit]
    dsimp only [Span.shift]
    rw [Nat.add_comm e.1.start, Nat.add_comm e.1.stop, hrest, hslice]
    simp only [List.append_assoc]

/-- **Replacements inside a part are made in the part by itself.** -/
theorem weave_inside :
    weave text 0 text.length (edits.map (shiftEdit a.length))
      = a ++ (weave p 0 p.length edits ++ b) := by
  have hfirst : a.length ≤ firstEdit text.length (edits.map (shiftEdit a.length)) := by
    refine le_firstEdit_of (fun e he => ?_) (by simp [h])
    obtain ⟨f, -, rfl⟩ := List.mem_map.1 he
    simp [shiftEdit, Span.shift]
  have hahead : text.slice 0 a.length = a := by
    rw [h, Text.slice_ahead (Nat.le_refl _), Text.slice, List.drop_zero, Nat.sub_zero,
      List.take_length]
  have hshift := weave_shift h hedits (Nat.zero_le _)
  rw [Nat.add_zero] at hshift
  rw [weave_from text (Nat.zero_le _) hfirst, hahead, hshift]

end

/-- The splice from the first to the last of some replacements. -/
def wovenSplice (text : Text) (stop : Nat) (edits : List (Span × Text)) : Splice :=
  match edits.head?, edits.getLast? with
  | some first, some last =>
    ⟨first.1.start, last.1.stop, weave text first.1.start last.1.stop edits⟩
  | _, _ => ⟨stop, stop, []⟩

/-- **One splice makes all replacements.** -/
theorem apply_wovenSplice {text : Text} {stop : Nat} {edits : List (Span × Text)}
    (hstop : stop ≤ text.length)
    (hedits : ∀ e ∈ edits, e.1.start ≤ text.length ∧ e.1.stop ≤ text.length) :
    (wovenSplice text stop edits).apply text = weave text 0 text.length edits := by
  cases edits with
  -- Without replacements nothing is written at the end of the text.
  | nil =>
    rw [wovenSplice, weave, Splice.apply]
    dsimp only [List.head?_nil]
    rw [place_natCast hstop, List.append_nil, List.take_append_drop]
    simp [Text.slice]
  | cons e edits =>
    obtain ⟨last, hlast⟩ :=
      List.getLast?_isSome.2 (List.cons_ne_nil e edits) |> Option.isSome_iff_exists.1
    have hfirst := (hedits e (List.mem_cons_self ..)).1
    have hend := (hedits last (List.mem_of_getLast? hlast)).2
    -- The splice starts at the first replacement and keeps what stands before it.
    have hahead : text.slice 0 e.1.start = text.take e.1.start := by
      rw [Text.slice, List.drop_zero, Nat.sub_zero]
    have hwoven := weave_last text hlast e.1.start
    have hself : weave text e.1.start text.length (e :: edits)
        = e.2 ++ weave text e.1.stop text.length edits := by
      rw [weave, Text.slice_self, List.nil_append]
    rw [wovenSplice, List.head?_cons, hlast, Splice.apply]
    dsimp only
    rw [place_natCast hfirst, place_natCast hend, List.append_assoc, hwoven, hself, weave, hahead,
      List.append_assoc]

/-! ## The replacements of a change -/

/-- No two keys of a change are the same in small letters. -/
def KeysApart (values : OrderedMap Text) : Prop := (values.map fun e => Text.lower e.1).Nodup

/-- The entries of a change whose keys no property has, in any case. -/
def newEntries (values : OrderedMap Text) (keys : List Text) : OrderedMap Text :=
  values.filter fun entry => keys.all fun key => key.lower ≠ entry.1.lower

/-- The entry of a change with a key is the only one. -/
theorem entryWithKey?_eq {values : OrderedMap Text} (h : KeysApart values) {entry : Text × Text}
    (he : entry ∈ values) {key : Text} (hkey : entry.1.lower = key.lower) :
    entryWithKey? values key = some entry := by
  have hsome : (entryWithKey? values key).isSome = true :=
    List.find?_isSome.2 ⟨entry, he, decide_eq_true hkey⟩
  obtain ⟨other, hother⟩ := Option.isSome_iff_exists.1 hsome
  have hsame : other.1.lower = key.lower := of_decide_eq_true (List.find?_some hother :)
  rw [hother, List.inj_on_of_nodup_map h (List.mem_of_find?_eq_some hother) he
    (hsame.trans hkey.symm)]

/-- The entries that are not written in place are those whose keys no property has. -/
theorem filter_found {values : OrderedMap Text} (h : KeysApart values) (keys : List Text) :
    (values.filter fun entry =>
        !(keys.filterMap fun key => (entryWithKey? values key).map (·.1)).contains entry.1)
      = newEntries values keys := by
  refine List.filter_congr fun entry he => ?_
  rw [Bool.eq_iff_iff]
  simp only [Bool.not_eq_true', List.contains_eq_mem, decide_eq_false_iff_not, List.mem_filterMap,
    Option.map_eq_some_iff, List.all_eq_true, decide_eq_true_eq]
  constructor
  · -- An entry whose key some property has would be written in place.
    intro hnone key hkey hsame
    exact hnone ⟨key, hkey, entry, entryWithKey?_eq h he hsame.symm, rfl⟩
  · -- What is written in place has the key of a property up to case.
    rintro hall ⟨key, hkey, other, hother, hsame⟩
    have hlower : other.1.lower = key.lower := of_decide_eq_true (List.find?_some hother :)
    exact hall key hkey (by rw [← hlower, hsame])

/-- A span that is moved keeps its length. -/
theorem Span.length_shift (s : Span) (n : Nat) : (s.shift n).length = s.length := by
  simp only [Span.length, Span.shift]
  omega

section

variable {text a X c : Text} (h : text = a ++ (X ++ c)) {b : Block}
  (hpairs : b.properties.map (fun p => (p.key, p.valueSpan))
    = (bodyContents X).properties.map fun p => (p.key, p.valueSpan.shift a.length))
  {values : OrderedMap Text} (hvalues : KeysApart values)

include h hpairs hvalues

/-- **The splice of a change of a project** makes the replacements of the body by itself. -/
theorem projectSplice_eq :
    projectSplice text b (.behind a.length X) values
      = wovenSplice text (a.length + (Text.trimRight X).length)
        ((valueEdits values (bodyContents X).properties ++ appendEdit X (bodyIndent text b)
          (newEntries values ((bodyContents X).properties.map (·.key)))).map
          (shiftEdit a.length)) := by
  -- What is found of a property depends on its key and on where its value stands.
  let found (e : Text × Span) : Option (Text × Span × Text) :=
    (entryWithKey? values e.1).map fun entry =>
      (entry.1, e.2, if e.2.length = 0 then ' ' :: entry.2 else entry.2)
  have hfound := congrArg (List.filterMap found) hpairs
  rw [List.filterMap_map, List.filterMap_map] at hfound
  have hkeys : (b.properties.filterMap (found ∘ fun p => (p.key, p.valueSpan))).map (·.1)
      = ((bodyContents X).properties.map (·.key)).filterMap
          fun key => (entryWithKey? values key).map (·.1) := by
    rw [hfound, List.map_filterMap, List.filterMap_map]
    refine List.filterMap_congr fun p _ => ?_
    simp [found, Function.comp_def]
  have hedits : (b.properties.filterMap (found ∘ fun p => (p.key, p.valueSpan))).map (·.2)
      = (valueEdits values (bodyContents X).properties).map (shiftEdit a.length) := by
    rw [hfound, valueEdits, List.map_filterMap, List.map_filterMap]
    refine List.filterMap_congr fun p _ => ?_
    simp [found, spanEdit?, shiftEdit, Function.comp_def, Span.length_shift]
  have hcontent : (Span.behind a.length X).slice text = X := slice_behind h rfl
  have hblanks : text.slice (a.length + (Text.trimRight X).length) (Span.behind a.length X).stop
      = X.slice (Text.trimRight X).length X.length :=
    Text.slice_inside h (Nat.le_refl _)
  have hstart : (Span.behind a.length X).start = a.length := rfl
  have hlines : ∀ entries : OrderedMap Text, (entries.flatMap fun e =>
      '\n' :: bodyIndent text b ++ settingText e.1 e.2) = newLines (bodyIndent text b) entries := by
    intro entries
    simp [newLines, lineLead, settingText, concat]
  have hsplice : projectSplice text b (.behind a.length X) values
      = let found := b.properties.filterMap (found ∘ fun p => (p.key, p.valueSpan))
        let missing := values.filter fun entry => !(found.map (·.1)).contains entry.1
        let stop := (Span.behind a.length X).start
          + (Text.trimRight ((Span.behind a.length X).slice text)).length
        let lineEnd : Text :=
          if (text.slice stop (Span.behind a.length X).stop).contains '\n' then [] else ['\n']
        wovenSplice text stop (found.map (·.2) ++ if missing.isEmpty then [] else
          [(⟨stop, stop⟩, (missing.flatMap fun e =>
            '\n' :: bodyIndent text b ++ settingText e.1 e.2) ++ lineEnd)]) := rfl
  rw [hsplice]
  dsimp only
  rw [hcontent, hstart, hblanks, hkeys, hedits, filter_found hvalues, hlines, List.map_append,
    appendEdit]
  congr 2
  split
  next => rfl
  next => simp [shiftEdit, Span.shift, Nat.add_comm]

/-- **The text after the splice** is the one with all replacements made in the body by itself. -/
theorem apply_projectSplice :
    (projectSplice text b (.behind a.length X) values).apply text
      = a ++ (weave X 0 X.length (valueEdits values (bodyContents X).properties ++ appendEdit X
          (bodyIndent text b)
          (newEntries values ((bodyContents X).properties.map (·.key)))) ++ c) := by
  -- Blanks are only taken off, so the trimmed body is not longer.
  have hkept : (Text.trimRight X).length ≤ X.length := by
    obtain ⟨blanks, heq, -⟩ := Text.exists_eq_trimRight_append X
    have hlength := congrArg List.length heq
    rw [List.length_append] at hlength
    omega
  have hlength : text.length = a.length + (X.length + c.length) := by simp [h]
  rw [projectSplice_eq h hpairs hvalues]
  generalize hmissing : newEntries values _ = entries
  have hedits : ∀ e ∈ valueEdits values (bodyContents X).properties
      ++ appendEdit X (bodyIndent text b) entries, e.1.start ≤ X.length ∧ e.1.stop ≤ X.length := by
    refine List.forall_mem_append.2 ⟨fun e he => ?_, fun e he => ?_⟩
    · -- A value that is written in place stands inside the body.
      obtain ⟨p, hp, hedit⟩ := List.mem_filterMap.1 he
      obtain ⟨-, -, rfl⟩ := Option.map_eq_some_iff.1 hedit
      have hlie := (values_lie X).1 p hp
      dsimp only
      omega
    · -- New lines go where the body is trimmed.
      simp only [appendEdit] at he
      split at he
      next => cases he
      next =>
        rw [List.mem_singleton.1 he]
        exact ⟨hkept, hkept⟩
  rw [apply_wovenSplice (by omega), weave_inside h hedits]
  intro e he
  obtain ⟨f, hf, rfl⟩ := List.mem_map.1 he
  have hle := hedits f hf
  simp only [shiftEdit, Span.shift]
  omega

end

/-! ## Changes of a project -/

/-- **The first project block of a text**, and the blocks before it and behind it. -/
structure FirstProject (text : Text) (front : List Block) (b : Block) (back : List Block) :
    Prop where
  /-- The blocks of the text. -/
  blocks : (parseBlocks (clean text)).blocks = front ++ b :: back
  /-- No block before it is a project block. -/
  front : ∀ c ∈ front, c.keyword ≠ "project".toList
  /-- It is a project block. -/
  keyword : b.keyword = "project".toList

/-- A change goes into the body of the first project block. -/
theorem FirstProject.projectBody? {text : Text} {front back : List Block} {b : Block} {body : Span}
    (h : FirstProject text front b back) (hbody : b.bodySpan = some body) :
    projectBody? text = some (b, body) := by
  have hlower : Text.lower "project".toList = "project".toList := by decide
  have hfront : front.filter (·.keyword = "project".toList) = [] :=
    List.filter_eq_nil_iff.2 fun c hc hkeyword => h.front c hc (of_decide_eq_true hkeyword)
  rw [SchemaDiagram.projectBody?, BlockTree.withKeyword, h.blocks, hlower,
    List.filter_append, hfront, List.nil_append, List.filter_cons, decide_eq_true h.keyword,
    if_pos rfl, List.findSome?_cons, hbody]
  rfl

/-- **A change that can be written into a project.** -/
structure Change.ForProject (change : Change) : Prop where
  /-- It is a change of a project. -/
  kind : change.kind = .project
  /-- It writes something, all of which has a written form. -/
  writable : change.IsWritable
  /-- Its keys are words. -/
  word : ∀ e ∈ change.values, e.1 ≠ [] ∧ ∀ c ∈ e.1, isWordChar c = true
  /-- No two of them are the same in small letters. -/
  apart : (change.values.map fun e => Text.lower e.1).Nodup
  /-- No text in it goes over a line end. -/
  line : ∀ e ∈ change.values, ∀ s, e.2 = .text s → '\n' ∉ s

namespace Change.ForProject

variable {change : Change} (h : change.ForProject)

include h

/-- What it writes is read back as it is written. -/
theorem written : ∀ e ∈ change.texts, WrittenEntry e := by
  intro e he
  obtain ⟨c, hc, rfl⟩ := List.mem_map.1 he
  exact ⟨(h.word c hc).1, (h.word c hc).2, isWritten_formatValue (h.line c hc)⟩

/-- The properties that a change writes have different keys. -/
theorem keysApart : KeysApart change.texts := by
  have hkeys : (change.texts.map fun e => Text.lower e.1)
      = change.values.map fun e => Text.lower e.1 := by
    rw [Change.texts, OrderedMap.mapValues, List.map_map]
    rfl
  rw [KeysApart, hkeys]
  exact h.apart

end Change.ForProject

/-- The indentation of new lines is blank. -/
theorem inlineBlank_bodyIndent (text : Text) (b : Block) : InlineBlank (bodyIndent text b) := by
  have hdefault : InlineBlank defaultIndent := ⟨by
    intro c hc
    obtain rfl | rfl := by simpa [defaultIndent] using hc
    decide, by decide⟩
  rw [bodyIndent]
  split
  next => exact hdefault
  next first _ =>
    dsimp only
    split
    -- The blanks ahead of the first line are copied, and none of them is a line end.
    next hblank =>
      refine ⟨?_, fun hmem => ?_⟩
      · have hall := (Bool.and_eq_true_iff.1 hblank).2
        intro c hc
        exact List.all_eq_true.1 hall c hc
      · have htake := List.mem_takeWhile_imp (List.mem_reverse.1 hmem)
        simp at htake
    next => exact hdefault

/-- A body says of its properties what the block at its site says. -/
theorem BodySite.pairs {p : BodySite} {X : Text} (hp : p.Valid) (hX : Joint X p.behind) :
    ((p.site X).block (clean (p.text X))).properties.map (fun q => (q.key, q.valueSpan))
      = (bodyContents X).properties.map fun q => (q.key, q.valueSpan.shift p.ahead.length) := by
  have hkeys : ((p.site X).block (clean (p.text X))).properties.map (·.key)
      = (bodyContents X).properties.map (·.key) := by
    have hview := congrArg (fun v : ContentsView => v.properties.map Prod.fst) (hp.view_body hX)
    simp only [bodyView, Contents.view, List.map_map] at hview
    exact hview
  have hspans := p.valueSpans_body (clean (p.text X)) X
  rw [Contents.valueSpans, Contents.valueSpans, List.map_map] at hspans
  rw [← List.zip_map', ← List.zip_map', hkeys]
  exact congrArg _ hspans

/-- **What the blocks of a text are after a change of a project.** The change is planned; the first
project block says what it said with the values written into it and the new entries behind them, and
the other blocks say what they said. -/
theorem exists_preview_project {text : Text} {change : Change} {front back : List Block} {b : Block}
    (hchange : change.ForProject) (hfirst : FirstProject text front b back)
    (hbalance : IsBalanced (b.bodyText text)) (hclosed : HasClosedLiterals (b.bodyText text)) :
    ∃ text' front' b' back', preview text change = .ok text' ∧ FirstProject text' front' b' back' ∧
      front'.map (Block.view (clean text')) = front.map (Block.view (clean text)) ∧
      back'.map (Block.view (clean text')) = back.map (Block.view (clean text)) ∧
      b'.view (clean text') = { b.view (clean text) with
        body := some (b'.bodyText (clean text'))
        properties := (b.properties.map Property.content).map (rewriteEntry change.texts)
          ++ newEntries change.texts (b.properties.map (·.key)) } := by
  have hbrace : b.openBrace.isSome = true := by
    refine openBrace_of_mem_children
      (hfirst.blocks ▸ List.mem_append_right _ (List.mem_cons_self ..)) ?_
    rw [hfirst.keyword]
    decide
  have hkeyword : b.keyword ≠ [] := by
    rw [hfirst.keyword]
    decide
  obtain ⟨p, X, post, hp, hpost, rfl, hX, hbal, rfl, hrebody⟩ :=
    exists_rebodied hfirst.blocks hbrace hkeyword hbalance
  rw [hp.bodyText] at hclosed
  have hpairs := BodySite.pairs hp hX
  have hkeys : ((p.site X).block (clean (p.text X))).properties.map (·.key)
      = (bodyContents X).properties.map (·.key) := by
    have := congrArg (List.map Prod.fst) hpairs
    rwa [List.map_map, List.map_map] at this
  -- The body by itself with all replacements.
  have hentries : ∀ e ∈ newEntries change.texts ((bodyContents X).properties.map (·.key)),
      WrittenEntry e := fun e he => hchange.written e (List.mem_filter.1 he).1
  have hrevised := revised_weave hbal hclosed (hpost ▸ hX)
    (inlineBlank_bodyIndent (p.text X)
    ((p.site X).block (clean (p.text X)))) hchange.written hentries
  generalize hX' : weave X 0 X.length _ = X' at hrevised
  have hjoint : Joint X' p.behind := hpost ▸ hrevised.joint
  have happly : (projectSplice (p.text X) ((p.site X).block (clean (p.text X)))
      (.behind p.ahead.length X) change.texts).apply (p.text X) = p.text X' := by
    have htext : p.text X = p.ahead ++ (X ++ p.behind) := rfl
    rw [apply_projectSplice htext hpairs hchange.keysApart, hX']
    rfl
  have hspan := hp.bodySpan (clean (p.text X)) X
  have hlies := (lies_of_projectBody? (hfirst.projectBody? hspan)).1
  have hplan : plan (p.text X) change = .ok _ :=
    (plan_eq_ok_iff_project hchange.kind).2 ⟨hchange.writable, rfl⟩
  have hpreview : preview (p.text X) change = .ok (p.text X') := by
    rw [preview, hplan, hfirst.projectBody? hspan]
    dsimp only [Except.map]
    rw [(hlies.projectSplice hspan _).apply_minimized, happly]
  obtain ⟨front', back', hblocks, hfront, hback⟩ := hrebody X' hrevised.balanced hjoint
  refine ⟨p.text X', front', _, back', hpreview, ⟨hblocks, fun c hc => ?_, hfirst.keyword⟩,
    hfront, hback, ?_⟩
  · have hmem := List.mem_map_of_mem (f := Block.view (clean (p.text X'))) hc
    rw [hfront] at hmem
    obtain ⟨d, hd, hview⟩ := List.mem_map.1 hmem
    have hsame : d.keyword = c.keyword := by
      have := congrArg BlockView.keyword hview
      rwa [Block.view, Block.view] at this
    exact hsame ▸ hfirst.front d hd
  · have hnew : ((p.site X').block (clean (p.text X'))).bodyText (clean (p.text X'))
        = clean X' := by
      have := congrArg BlockView.body (hp.view_block hjoint)
      rw [Block.view, hp.bodySpan] at this
      rw [Block.bodyText, hp.bodySpan]
      exact congrArg (Option.getD · []) this
    have hproperties : ((p.site X).block (clean (p.text X))).properties.map Property.content
        = (bodyContents X).properties.map Property.content :=
      congrArg ContentsView.properties (hp.view_body hX)
    rw [hnew, hproperties, hkeys, hp.view_block hX, hp.view_block hjoint, hrevised.view,
      List.map_map]
    rfl

/-- A project with a value, an empty value and a comment, before a table. -/
def charter : Text := "Project p \x7b\n  owner: 'a' // of all\n  Stage:\n\x7d\nTable t {}".toList

/-- Another owner, a stage and a version. -/
def amendment : Change :=
  .setProject [("OWNER".toList, .text "b c".toList), ("stage".toList, .bool true),
    ("version".toList, .int 2)] none

/-- The amended charter has its old keys with the new values, and then the new key. -/
theorem exists_preview_project_charter :
    ∃ text' b' back', preview charter amendment = .ok text' ∧ FirstProject text' [] b' back' ∧
      back'.length = 1 ∧ b'.name = some "p".toList ∧
      b'.properties.map Property.content
        = [("owner".toList, "'b c'".toList), ("Stage".toList, "true".toList),
          ("version".toList, "2".toList)] := by
  -- What the blocks of the charter say is computed.
  have hkeywords : (parseBlocks (clean charter)).blocks.map (·.keyword)
      = ["project".toList, "table".toList] := by decide +kernel
  obtain ⟨b, back, hblocks, hkeyword, hback⟩ := List.map_eq_cons_iff.1 hkeywords
  have hbodies : (parseBlocks (clean charter)).blocks.map (·.bodyText charter)
      = ["\n  owner: 'a' // of all\n  Stage:\n".toList, []] := by decide +kernel
  have hproperties : (parseBlocks (clean charter)).blocks.map (·.properties.map Property.content)
      = [[("owner".toList, "'a'".toList), ("Stage".toList, [])], []] := by decide +kernel
  have hnames : (parseBlocks (clean charter)).blocks.map (·.name)
      = [some "p".toList, some "t".toList] := by decide +kernel
  rw [hblocks, List.map_cons] at hbodies hproperties hnames
  have hbody := (List.cons.inj hbodies).1
  have hold := (List.cons.inj hproperties).1
  have hkeys : b.properties.map (·.key) = ["owner".toList, "Stage".toList] := by
    have := congrArg (List.map Prod.fst) hold
    rwa [List.map_map] at this
  have hword : amendment.values.all (fun e => !e.1.isEmpty && e.1.all isWordChar) = true := by
    decide
  have hchange : amendment.ForProject := by
    refine ⟨rfl, ⟨rfl, by decide +kernel⟩, fun e he => ?_, by decide, fun e he s hs => ?_⟩
    · have := List.all_eq_true.1 hword e he
      simpa using this
    · obtain rfl | rfl | rfl := by simpa [amendment, Change.setProject] using he
      · cases hs
        decide
      · cases hs
      · cases hs
  have hcharter : FirstProject charter [] b back := ⟨hblocks, by simp, hkeyword⟩
  obtain ⟨text', front', b', back', hpreview, hfirst, hfront, hback', hview⟩ :=
    exists_preview_project hchange hcharter (by rw [hbody]; decide +kernel)
      (by rw [hbody]; decide +kernel)
  obtain rfl : front' = [] := List.map_eq_nil_iff.1 hfront
  refine ⟨text', b', back', hpreview, hfirst, ?_, ?_, ?_⟩
  · -- The blocks behind the project keep their number.
    have hlength := congrArg List.length hback'
    have hone := congrArg List.length hback
    simp only [List.length_map, List.length_singleton] at hlength hone
    omega
  · have hname := congrArg BlockView.name hview
    rw [Block.view, Block.view] at hname
    exact Eq.trans hname (List.cons.inj hnames).1
  · -- Its properties are the old ones with the changes made.
    have hnew := congrArg BlockView.properties hview
    rw [Block.view] at hnew
    dsimp only at hnew
    rw [hnew, hold, hkeys]
    decide +kernel

end SchemaDiagram
