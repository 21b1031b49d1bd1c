import SchemaDiagram.Edit.Commit
import SchemaDiagram.Proofs.Extent
import SchemaDiagram.Proofs.SettingsEdit

/-! # Committing is a transaction

Whatever the text is, a planned splice replaces a stretch of it, and a splice that changes nothing
is empty. So the check of the range never refuses a planned splice: a document that takes edits
either has the text of the preview afterwards, or nothing has happened to it.

* **`plan_eq_ok_iff_project`** — when a change of a project is planned.
* **`within_of_plan`** — a planned splice replaces a stretch of the text.
* **`isEmpty_iff_of_plan`** — it is empty when it changes nothing.
* **`commit_textDocument`** — committing to a text in memory.
* **`commit_fileDocument`** — committing to a file: what keeps it from an answer, and what it leaves
  alone. -/

namespace SchemaDiagram

variable {text : Text} {change : Change} {splice : Splice} {b : Block}

/-! ## Splices of blocks -/

/-- A list is rewritten in a stretch of the text, and a new list is written at a place in it. -/
theorem Block.Lies.settingsSplice (h : b.Lies text) (hbrace : b.openBrace.isSome = true)
    (values : OrderedMap Text) : (settingsSplice text b values).Within text := by
  rw [SchemaDiagram.settingsSplice]
  cases hspan : b.settingsSpan with
  | some span =>
    obtain ⟨horder, hstop⟩ := h.list span hspan
    refine ⟨?_, ?_, ?_⟩ <;> dsimp only <;> omega
  | none =>
    obtain ⟨n, hn⟩ := Option.isSome_iff_exists.1 hbrace
    have hlt := h.brace n hn
    rw [hn, Option.getD_some]
    refine ⟨?_, ?_, ?_⟩ <;> dsimp only <;> omega

/-- The first of some stretches that lie one behind the other starts before the last one ends. -/
theorem head_le_getLast {edits : List (Span × Text)}
    (hown : ∀ e ∈ edits, e.1.start ≤ e.1.stop)
    (horder : edits.Pairwise fun e f => e.1.start ≤ f.1.start) {first last : Span × Text}
    (hfirst : edits.head? = some first) (hlast : edits.getLast? = some last) :
    first.1.start ≤ last.1.stop := by
  obtain ⟨rest, rfl⟩ := List.head?_eq_some_iff.1 hfirst
  have hle := hown last (List.mem_of_getLast? hlast)
  rcases List.mem_cons.1 (List.mem_of_getLast? hlast) with rfl | hmem
  · exact hle
  · have := (List.pairwise_cons.1 horder).1 last hmem
    omega

/-- The values of a body are rewritten in a stretch of the text. -/
theorem Block.Lies.projectSplice (h : b.Lies text) {body : Span} (hbody : b.bodySpan = some body)
    (values : OrderedMap Text) : (projectSplice text b body values).Within text := by
  obtain ⟨horder, hstop⟩ := h.body body hbody
  have hcontent : body.start + (Text.trimRight (body.slice text)).length ≤ body.stop := by
    obtain ⟨blanks, heq, -⟩ := Text.exists_eq_trimRight_append (body.slice text)
    have hlen := congrArg List.length heq
    have hslice : (body.slice text).length ≤ body.stop - body.start := by
      rw [Span.slice, Text.slice, List.length_take]
      exact Nat.min_le_left ..
    rw [List.length_append] at hlen
    omega
  have hvalue := h.value body hbody
  rw [SchemaDiagram.projectSplice]
  -- Every replacement lies in the body, and each starts before the next one.
  generalize hfound : (b.properties.filterMap fun property =>
    (values.find? fun entry => entry.1.lower = property.key.lower).map fun x =>
      (x.1, property.valueSpan, if property.valueSpan.length = 0 then ' ' :: x.2 else x.2)) = found
  have hmem : ∀ e ∈ found, ∃ p ∈ b.properties, e.2.1 = p.valueSpan := by
    intro e he
    rw [← hfound] at he
    obtain ⟨p, hp, hedit⟩ := List.mem_filterMap.1 he
    obtain ⟨entry, -, rfl⟩ := Option.map_eq_some_iff.1 hedit
    exact ⟨p, hp, rfl⟩
  have hapart : found.Pairwise fun e f => e.2.1.start ≤ f.2.1.start := by
    rw [← hfound]
    refine List.pairwise_filterMap.2 ((List.Pairwise.and_mem.1 h.values).imp ?_)
    rintro p q ⟨hp, -, hpq⟩ e he f hf
    obtain ⟨-, -, rfl⟩ := Option.map_eq_some_iff.1 he
    obtain ⟨-, -, rfl⟩ := Option.map_eq_some_iff.1 hf
    exact (hvalue p hp).2.1.trans hpq
  dsimp only
  generalize hedits : found.map (·.2) ++ _ = edits
  have hlies : ∀ e ∈ edits, e.1.start ≤ e.1.stop ∧ e.1.stop ≤ body.stop := by
    intro e he
    rw [← hedits] at he
    rcases List.mem_append.1 he with he | he
    · obtain ⟨f, hf, rfl⟩ := List.mem_map.1 he
      obtain ⟨p, hp, hspan⟩ := hmem f hf
      rw [hspan]
      exact ⟨(hvalue p hp).2.1, (hvalue p hp).2.2.1⟩
    · split at he
      next => cases he
      next =>
        rw [List.mem_singleton.1 he]
        exact ⟨Nat.le_refl _, hcontent⟩
  have hsorted : edits.Pairwise fun e f => e.1.start ≤ f.1.start := by
    rw [← hedits]
    refine List.pairwise_append.2 ⟨List.pairwise_map.2 hapart, ?_, ?_⟩
    · split
      next => exact List.Pairwise.nil
      next => exact List.pairwise_singleton ..
    · intro e he f hf
      split at hf
      next => cases hf
      next =>
        obtain ⟨g, hg, rfl⟩ := List.mem_map.1 he
        obtain ⟨p, hp, hspan⟩ := hmem g hg
        rw [List.mem_singleton.1 hf, hspan]
        exact (hvalue p hp).2.2.2
  cases hfirst : edits.head? with
  | none => refine ⟨?_, ?_, ?_⟩ <;> dsimp only <;> omega
  | some first =>
    cases hlast : edits.getLast? with
    | none => refine ⟨?_, ?_, ?_⟩ <;> dsimp only <;> omega
    | some last =>
      have hle := head_le_getLast (fun e he => (hlies e he).1) hsorted hfirst hlast
      have := (hlies last (List.mem_of_getLast? hlast)).2
      refine ⟨?_, ?_, ?_⟩ <;> dsimp only <;> omega

/-! ## Planned splices -/

/-- The block and the body that a change of a project is written into: those of the first project
block. -/
def projectBody? (text : Text) : Option (Block × Span) :=
  ((parseBlocks (clean text)).withKeyword "project".toList).findSome? fun b => b.bodySpan.map (b, ·)

/-- **A change of a project is planned** when it can be written: into the first project block, or
into a new one where there is none. -/
theorem plan_eq_ok_iff_project (hkind : change.kind = .project) :
    plan text change = .ok splice ↔ change.IsWritable ∧
      splice = match projectBody? text with
        | none => newProjectSplice change.identity change.texts
        | some (b, body) => (projectSplice text b body change.texts).minimized text := by
  rw [plan, Change.IsWritable, projectBody?]
  dsimp only
  -- The checks come in the order of the code: an empty change is refused first, then one with a
  -- value that cannot be written.
  by_cases hempty : change.values.isEmpty = true
  · simp [hempty]
  · by_cases hany : change.values.any (! ·.2.hasWrittenForm) = true
    · rw [if_neg hempty, if_pos hany, hany]
      simp
    · have hwritable : change.values.isEmpty = false ∧
          change.values.any (! ·.2.hasWrittenForm) = false :=
        ⟨by simpa using hempty, by simpa using hany⟩
      rw [if_neg hempty, if_neg hany, and_iff_right hwritable, hkind]
      dsimp only
      generalize List.findSome? _ _ = found
      cases found <;> simp [Change.texts, eq_comm]

/-- A plan fails for want of a written form when there is a value without one. -/
theorem plan_eq_unwritableValue_iff : plan text change = .error .unwritableValue ↔
    change.values ≠ [] ∧ ∃ e ∈ change.values, e.2.hasWrittenForm = false := by
  rw [plan]
  dsimp only
  by_cases hempty : change.values.isEmpty = true
  · rw [if_pos hempty]
    simp [List.isEmpty_iff.1 hempty]
  · rw [if_neg hempty, and_iff_right (mt List.isEmpty_iff.2 hempty)]
    by_cases hany : change.values.any (! ·.2.hasWrittenForm) = true
    · rw [if_pos hany]
      simpa using hany
    · rw [if_neg hany]
      refine iff_of_false (fun h => ?_) (by simpa using hany)
      -- No other way out of the plan fails for a value.
      repeat' split at h
      all_goals cases h

/-- The block that a change of a table or a note is made to is a block of that kind with braces. -/
theorem keyword_of_target? (hb : target? text change = some b) :
    b ∈ (parseBlocks (clean text)).blocks ∧ b.keyword = Text.lower change.kind.name.toList ∧
      b.openBrace.isSome = true := by
  obtain ⟨name, -, htarget⟩ := Option.bind_eq_some_iff.1 hb
  obtain ⟨right, hright, hfind⟩ :=
    findTarget?_congr (parseBlocks (clean text)) change.kind.name.toList name
  rw [hfind _ rfl] at htarget
  obtain ⟨hkeyword, hbrace⟩ :=
    hright b.key (List.find?_some (p := fun b : Block => right b.key) htarget)
  exact ⟨List.mem_of_find?_eq_some htarget, hkeyword, hbrace⟩

/-- It lies in the text. -/
theorem lies_of_target? (hb : target? text change = some b) :
    b.Lies text ∧ b.openBrace.isSome = true := by
  obtain ⟨hmem, hkeyword, hbrace⟩ := keyword_of_target? hb
  refine ⟨lies_of_mem_blocks hmem ?_ ?_, hbrace⟩
  · rw [hkeyword]
    exact change.kind.lower_name_ne_nil
  · rw [hkeyword]
    cases change.kind <;> decide

/-- The first project block lies in the text, and the body is its body. -/
theorem lies_of_projectBody? {body : Span} (h : projectBody? text = some (b, body)) :
    b.Lies text ∧ b.bodySpan = some body := by
  obtain ⟨c, hc, hpair⟩ := List.exists_of_findSome?_eq_some h
  obtain ⟨span, hspan, heq⟩ := Option.map_eq_some_iff.1 hpair
  obtain ⟨rfl, rfl⟩ := Prod.mk.inj heq
  obtain ⟨hmem, hkeyword⟩ := List.mem_filter.1 hc
  have hname : c.keyword = Text.lower "project".toList := of_decide_eq_true hkeyword
  refine ⟨lies_of_mem_blocks hmem ?_ ?_, hspan⟩ <;> rw [hname] <;> decide

/-- A planned splice is a splice of a stretch of the text without what that stretch keeps, or it
writes a new block at the start. -/
theorem minimized_or_new_of_plan (hplan : plan text change = .ok splice) :
    (∃ wide : Splice, wide.Within text ∧ splice = wide.minimized text) ∨
      splice = newProjectSplice change.identity change.texts := by
  by_cases hkind : change.kind = .project
  · obtain ⟨-, rfl⟩ := (plan_eq_ok_iff_project hkind).1 hplan
    cases hbody : projectBody? text with
    | none => exact .inr rfl
    | some pair =>
      obtain ⟨hlies, hspan⟩ := lies_of_projectBody? hbody
      exact .inl ⟨_, hlies.projectSplice hspan _, rfl⟩
  · obtain ⟨-, b, hb, rfl⟩ := (plan_eq_ok_iff hkind).1 hplan
    obtain ⟨hlies, hbrace⟩ := lies_of_target? hb
    exact .inl ⟨_, hlies.settingsSplice hbrace _, rfl⟩

/-- **A planned splice replaces a stretch of the text.** -/
theorem within_of_plan (hplan : plan text change = .ok splice) : splice.Within text := by
  obtain ⟨wide, hwide, rfl⟩ | rfl := minimized_or_new_of_plan hplan
  · exact hwide.minimized
  · refine ⟨?_, ?_, ?_⟩ <;> simp [newProjectSplice]

/-- **A planned splice is empty** when it changes nothing, and only then. -/
theorem isEmpty_iff_of_plan (hplan : plan text change = .ok splice) :
    splice.isEmpty = true ↔ splice.apply text = text := by
  obtain ⟨wide, hwide, rfl⟩ | rfl := minimized_or_new_of_plan hplan
  · exact hwide.isEmpty_iff
  · have hsource : text = [] ++ ([] ++ text) := rfl
    have happly : (newProjectSplice change.identity change.texts).apply text
        = (newProjectSplice change.identity change.texts).text ++ text :=
      Splice.apply_replacing hsource _
    have hnonempty : (newProjectSplice change.identity change.texts).text ≠ [] := by
      simp [newProjectSplice, concat]
    rw [happly, Splice.isEmpty, Bool.and_eq_true, List.isEmpty_iff]
    exact iff_of_false (fun h => hnonempty h.2) fun h => hnonempty (List.append_left_eq_self.1 h)

/-- The check of the range lets a planned splice pass. -/
theorem replaceChecked_of_plan (hplan : plan text change = .ok splice) :
    replaceChecked text splice.start splice.stop splice.text = .ok (splice.apply text) := by
  have hwithin := within_of_plan hplan
  rw [replaceChecked, if_pos ⟨hwithin.start, hwithin.order, hwithin.stop⟩]

/-! ## Commits -/

/-- **Committing to a text in memory is a transaction.** A document that takes edits has the text of
the preview afterwards, and counts the revision when the text has changed; in all other cases
nothing has happened to it. The splice never leaves the text. -/
theorem commit_textDocument (d : TextDocument) (hdevice : d.brokenDevice = none) (change : Change)
    (hvalues : ∀ e ∈ change.values, e.2.hasWrittenForm = true) :
    (∀ splice, plan d.text change = .ok splice →
      0 ≤ splice.start ∧ splice.start ≤ splice.stop ∧ splice.stop ≤ d.text.length) ∧
    (commit d change).outcome = .ok (d.writable && (plan d.text change).isOk) ∧
    (commit d change).document = match d.writable, preview d.text change with
      | true, .ok text =>
        { d with text, revision := if text = d.text then d.revision else d.revision + 1 }
      | _, _ => d := by
  -- Where there is a plan, the outcome and the document follow from it.
  refine ⟨fun splice hplan => ?_, ?_⟩
  · have hwithin := within_of_plan hplan
    exact ⟨hwithin.start, hwithin.order, hwithin.stop⟩
  obtain ⟨text, writable, revision, device⟩ := d
  obtain rfl : device = none := hdevice
  rw [commit, preview]
  cases writable with
  | false => exact ⟨rfl, rfl⟩
  -- The document takes edits: it is read, a plan is made, and the splice is put in.
  | true =>
    have hread : Document.read (⟨text, true, revision, none⟩ : TextDocument) = .ok text := rfl
    rw [if_neg (by exact Bool.false_ne_true), hread, Bool.true_and]
    dsimp only
    cases hplan : plan text change with
    | error fault =>
      cases fault with
      | failure f => exact ⟨rfl, rfl⟩
      | unwritableValue =>
        -- The change has written forms for all values, so the plan does not fail for one of them.
        obtain ⟨-, e, he, hform⟩ := plan_eq_unwritableValue_iff.1 hplan
        exact absurd (hvalues e he) (by rw [hform]; decide)
    | ok splice =>
      have hempty := isEmpty_iff_of_plan hplan
      dsimp only [Except.map]
      -- A splice that changes nothing is empty, and then nothing is replaced.
      by_cases hsame : splice.apply text = text
      · rw [if_pos (hempty.2 hsame), if_pos hsame, hsame]
        exact ⟨rfl, rfl⟩
      · have hreplace : Document.replaceRange (⟨text, true, revision, none⟩ : TextDocument)
            splice.start splice.stop splice.text
              = .ok ⟨splice.apply text, true, revision + 1, none⟩ := by
          change TextDocument.replaceRange _ _ _ _ = _
          rw [TextDocument.replaceRange, if_pos rfl, replaceChecked_of_plan hplan]
          rfl
        rw [if_neg (mt hempty.1 hsame), hreplace, if_neg hsame]
        exact ⟨rfl, rfl⟩

/-- A draft in memory. -/
def bareDraft : TextDocument := ⟨"Table t {}".toList, true, 6, none⟩

/-- A change that paints a table red. -/
def painting : Change := ⟨.table, some "t".toList, [("color".toList, .text "red".toList)]⟩

/-- A table without settings gets a list, and the revision is counted. -/
theorem commit_textDocument_painted :
    (commit bareDraft painting).document.text = "Table t [color: red] {}".toList ∧
      (commit bareDraft painting).document.revision = 7 := by
  have hpainted := commit_textDocument bareDraft rfl painting (by decide)
  rw [hpainted.2.2]
  decide +kernel

/-- **What keeps a commit to a file from an answer** is a file that is no text and a value that has
no written form. A file is changed only by a commit that says so. -/
theorem commit_fileDocument (d : FileDocument) (change : Change) :
    ((∃ fault, (commit d change).outcome = .error fault) ↔ d.isWritable = true ∧
      match d.read with
      | .error _ => True
      | .ok _ => change.values ≠ [] ∧ ∃ e ∈ change.values, e.2.hasWrittenForm = false) ∧
    ((commit d change).outcome ≠ .ok true → (commit d change).document = d) := by
  have hwritable : Document.isWritable d = d.isWritable := rfl
  have hread : Document.read d = d.read := rfl
  rw [commit, hwritable, hread]
  cases hw : d.isWritable with
  | false => simp
  | true =>
    simp only [Bool.not_true, Bool.false_eq_true, if_false, true_and]
    cases hdecoded : d.read with
    | error fault =>
      -- The file is there, so it is one whose bytes are no text.
      obtain ⟨bytes, hbytes⟩ := Option.isSome_iff_exists.1 (Bool.and_eq_true_iff.1 hw).1
      rw [FileDocument.read, hbytes] at hdecoded
      dsimp only at hdecoded
      cases hutf : decodeUtf8 bytes with
      | ok text =>
        rw [hutf] at hdecoded
        cases hdecoded
      | error f =>
        rw [hutf] at hdecoded
        obtain rfl : DocumentFault.undecodable f = fault := Except.error.inj hdecoded
        exact ⟨iff_of_true ⟨_, rfl⟩ trivial, fun _ => rfl⟩
    | ok text =>
      dsimp only
      cases hplan : plan text change with
      | error fault =>
        rw [← @plan_eq_unwritableValue_iff text change, hplan]
        cases fault with
        | failure f =>
          exact ⟨iff_of_false (by simp [CommitResult.ofFault]) (by simp), fun _ => rfl⟩
        | unwritableValue => exact ⟨iff_of_true ⟨_, rfl⟩ rfl, fun _ => rfl⟩
      | ok splice =>
        rw [← @plan_eq_unwritableValue_iff text change, hplan]
        dsimp only
        split
        next => exact ⟨iff_of_false (by simp) (by simp), fun _ => rfl⟩
        next =>
          cases hreplace : Document.replaceRange d splice.start splice.stop splice.text with
          | ok changed =>
            exact ⟨iff_of_false (by simp) (by simp), fun h => absurd rfl h⟩
          | error fault =>
            change d.replaceRange _ _ _ = _ at hreplace
            rw [FileDocument.replaceRange, if_pos hw, hdecoded] at hreplace
            simp only [bind, Except.bind, replaceChecked_of_plan hplan] at hreplace
            split at hreplace
            next => cases hreplace
            next =>
              obtain rfl := Except.error.inj hreplace
              exact ⟨iff_of_false (by simp [CommitResult.ofFault]) (by simp), fun _ => rfl⟩

/-- A file of one byte that starts no character is no text, and no commit to it has an answer. -/
theorem commit_undecodable : (commit (⟨"t.dbml".toList, some [0xff], true⟩ : FileDocument)
    painting).outcome.isOk = false := by
  decide +kernel

end SchemaDiagram
