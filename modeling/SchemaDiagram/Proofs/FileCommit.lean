import SchemaDiagram.Proofs.Committing
import SchemaDiagram.Proofs.Utf8

/-! # A file does what a text in memory does

A file that holds the bytes of a text takes a change as the text in memory takes it: the answer is
the same, the same is logged, and afterwards the file holds the bytes of the text that the document
in memory has then. No byte outside the splice is touched, whatever characters and line ends the
text has.

* **`Document.Takes`** — a document that can be read and takes every replacement within its text;
  `Takes.commit_eq` says what a commit does to it.
* **`Mirrors d m`** — the file holds the bytes of the text in memory; `Mirrors.step` is one commit,
  `Mirrors.run` a run of them.
* **`commit_mirrored`** — committing to a file whose bytes are a text. -/

namespace SchemaDiagram

open Splice (replacing)

/-! ## Documents that take replacements -/

section

variable {D : Type} [Document D]

/-- **The document holds the text and takes every replacement within it**; `write` says what
document then holds a new text. -/
structure Document.Takes (d : D) (text : Text) (write : Text → D) : Prop where
  /-- The document takes edits. -/
  writable : Document.isWritable d = true
  /-- It holds the text. -/
  read : Document.read d = .ok text
  /-- A range within the text is replaced. -/
  replace : ∀ start stop new changed, replaceChecked text start stop new = .ok changed →
    Document.replaceRange d start stop new = .ok (write changed)

/-- **What a commit does** to a document that takes replacements. -/
theorem Document.Takes.commit_eq {d : D} {text : Text} {write : Text → D} (h : Takes d text write)
    (change : Change) : commit d change = match plan text change with
      | .error .unwritableValue => ⟨d, .error .unwritableValue, []⟩
      | .error (.failure f) => .ofFault d change (.refused f)
      | .ok splice => ⟨if splice.isEmpty then d else write (splice.apply text), .ok true,
          [appliedEvent change splice]⟩ := by
  rw [commit, h.writable, h.read, if_neg (by simp)]
  dsimp only
  -- A plan that cannot be made leaves the document, whether it is refused or fails.
  cases hplan : plan text change with
  | error fault => cases fault <;> rfl
  | ok splice =>
    -- The splice of a plan stands on character boundaries, so the document takes it.
    have hreplace := h.replace _ _ _ _ (replaceChecked_of_plan hplan)
    dsimp only
    by_cases hempty : splice.isEmpty = true
    · rw [if_pos hempty, if_pos hempty]
    · rw [if_neg hempty, if_neg hempty, hreplace]

end

/-! ## Files and texts in memory -/

/-- **The file holds the bytes of the text in memory**, and both take edits. -/
structure Mirrors (d : FileDocument) (m : TextDocument) : Prop where
  /-- The bytes of the file are those of the text. -/
  bytes : d.bytes = some (encodeUtf8 m.text)
  /-- The file may be written. -/
  permitted : d.permitted = true
  /-- The copy that takes its place can be made. -/
  replaceable : d.isReplaceable = true
  /-- The text in memory takes edits. -/
  writable : m.writable = true
  /-- Replacements in it do not fail. -/
  device : m.brokenDevice = none

namespace Mirrors

variable {d : FileDocument} {m : TextDocument}

/-- The file takes replacements: it holds the bytes of the new text. -/
theorem takes_file (h : Mirrors d m) :
    Document.Takes d m.text fun text => { d with bytes := some (encodeUtf8 text) } := by
  -- The file can be written, and its bytes are read as the text.
  have hwritable : d.isWritable = true := by
    rw [FileDocument.isWritable, h.bytes, h.permitted]
    rfl
  have hread : d.read = .ok m.text := by
    rw [FileDocument.read, h.bytes]
    dsimp only
    rw [decodeUtf8_eq_ok_iff.2 rfl]
    rfl
  refine ⟨hwritable, hread, fun start stop new changed hchanged => ?_⟩
  change d.replaceRange start stop new = _
  rw [FileDocument.replaceRange, if_pos hwritable, hread]
  simp only [bind, Except.bind, hchanged, h.replaceable, if_true, pure, Except.pure]

/-- The text in memory takes replacements: it becomes the new text, and the revision is counted. -/
theorem takes_memory (h : Mirrors d m) :
    Document.Takes m m.text fun text => { m with text, revision := m.revision + 1 } := by
  refine ⟨h.writable, rfl, fun start stop new changed hchanged => ?_⟩
  change m.replaceRange start stop new = _
  rw [TextDocument.replaceRange, h.device, if_pos h.writable, hchanged]
  rfl

/-- **One commit**: the same answer, the same log, and the file holds the bytes of the text
again. -/
theorem step (h : Mirrors d m) (change : Change) :
    (commit d change).outcome = (commit m change).outcome ∧
      (commit d change).log = (commit m change).log ∧
      (commit d change).document
        = { d with bytes := some (encodeUtf8 (commit m change).document.text) } ∧
      Mirrors (commit d change).document (commit m change).document := by
  have hself : { d with bytes := some (encodeUtf8 m.text) } = d := by rw [← h.bytes]
  rw [h.takes_file.commit_eq, h.takes_memory.commit_eq]
  -- What is refused or changes nothing leaves both as they are.
  cases plan m.text change with
  | error fault => cases fault <;> exact ⟨rfl, rfl, hself.symm, h⟩
  | ok splice =>
    dsimp only
    cases splice.isEmpty with
    | true => exact ⟨rfl, rfl, hself.symm, h⟩
    -- Both hold the new text, and everything else of them stays.
    | false =>
      exact ⟨rfl, rfl, rfl, rfl, h.permitted, h.replaceable, h.writable, h.device⟩

/-- **A run of commits**: the file holds the bytes of the text in memory all along. -/
theorem run (h : Mirrors d m) (changes : List Change) :
    Mirrors (changes.foldl (fun d change => (commit d change).document) d)
      (changes.foldl (fun m change => (commit m change).document) m) := by
  induction changes generalizing d m with
  | nil => exact h
  | cons change changes ih => exact ih (h.step change).2.2.2

/-- **No byte outside the splice is touched.** -/
theorem bytes_outside (h : Mirrors d m) {change : Change} {splice : Splice}
    (hplan : plan m.text change = .ok splice) :
    ∃ ahead old behind, splice = replacing ahead old splice.text ∧
      d.bytes = some (encodeUtf8 ahead ++ (encodeUtf8 old ++ encodeUtf8 behind)) ∧
      (commit d change).document.bytes
        = some (encodeUtf8 ahead ++ (encodeUtf8 splice.text ++ encodeUtf8 behind)) := by
  obtain ⟨ahead, old, behind, htext, hsplice⟩ := (within_of_plan hplan).exists_replacing
  -- The splice replaces its stretch and nothing else.
  have happly : splice.apply m.text = ahead ++ (splice.text ++ behind) := by
    rw [hsplice, Splice.apply_replacing htext]
    rfl
  have hafter : (commit m change).document.text = splice.apply m.text := by
    rw [h.takes_memory.commit_eq, hplan]
    dsimp only
    -- An empty splice leaves the text, so it is the text that it is applied to.
    by_cases hempty : splice.isEmpty = true
    · rw [if_pos hempty, (isEmpty_iff_of_plan hplan).1 hempty]
    · rw [if_neg hempty]
  refine ⟨ahead, old, behind, hsplice, ?_, ?_⟩
  · -- Encoding goes part by part, so the bytes around the splice are those of the text around it.
    rw [h.bytes, htext, encodeUtf8_append, encodeUtf8_append]
  · rw [(h.step change).2.2.1, hafter, happly, encodeUtf8_append, encodeUtf8_append]

end Mirrors

/-- **Committing to a file whose bytes are a text** does what committing to the text in memory does.
The answer and the log are the same, the file holds the bytes of the text in memory afterwards, and
the bytes before and behind the splice are those that were there. -/
theorem commit_mirrored (d : FileDocument) (m : TextDocument) (change : Change) {bytes : List UInt8}
    (hbytes : d.bytes = some bytes) (htext : decodeUtf8 bytes = .ok m.text)
    (hpermitted : d.permitted = true) (hreplaceable : d.isReplaceable = true)
    (hwritable : m.writable = true) (hdevice : m.brokenDevice = none) :
    (commit d change).outcome = (commit m change).outcome ∧
      (commit d change).log = (commit m change).log ∧
      (commit d change).document
        = { d with bytes := some (encodeUtf8 (commit m change).document.text) } ∧
      ∀ splice, plan m.text change = .ok splice →
        ∃ ahead old behind, splice = replacing ahead old splice.text ∧
          bytes = encodeUtf8 ahead ++ (encodeUtf8 old ++ encodeUtf8 behind) ∧
          (commit d change).document.bytes
            = some (encodeUtf8 ahead ++ (encodeUtf8 splice.text ++ encodeUtf8 behind)) := by
  obtain rfl := decodeUtf8_eq_ok_iff.1 htext
  have h : Mirrors d m := ⟨hbytes, hpermitted, hreplaceable, hwritable, hdevice⟩
  obtain ⟨houtcome, hlog, hdocument, -⟩ := h.step change
  refine ⟨houtcome, hlog, hdocument, fun splice hplan => ?_⟩
  obtain ⟨ahead, old, behind, hsplice, hbefore, hafter⟩ := h.bytes_outside hplan
  exact ⟨ahead, old, behind, hsplice, Option.some.inj (hbytes.symm.trans hbefore), hafter⟩

/-- A file with a byte order mark, two line ends and a name beyond ASCII. -/
def foreign : FileDocument :=
  ⟨"doc.dbml".toList,
    some ([0xef, 0xbb, 0xbf, 0x0a] ++ encodeUtf8 "Table t \x7b\r\n  é int\r\n\x7d".toList), true⟩

/-- A list is written into a file, and the byte order mark and the line ends stay. -/
theorem commit_mirrored_foreign :
    (commit foreign painting).outcome.toOption = some true ∧
    (commit foreign painting).document.bytes
      = some ([0xef, 0xbb, 0xbf, 0x0a] ++
          encodeUtf8 "Table t [color: red] \x7b\r\n  é int\r\n\x7d".toList) := by
  have hdecode : decodeUtf8 ([0xef, 0xbb, 0xbf, 0x0a] ++
      encodeUtf8 "Table t \x7b\r\n  é int\r\n\x7d".toList)
        = .ok "\uFEFF\nTable t \x7b\r\n  é int\r\n\x7d".toList :=
    decodeUtf8_eq_ok_iff.2 (by decide +kernel)
  obtain ⟨houtcome, -, hdocument, -⟩ := commit_mirrored foreign
    ⟨"\uFEFF\nTable t \x7b\r\n  é int\r\n\x7d".toList, true, 0, none⟩ painting rfl hdecode rfl
    (by decide +kernel) rfl rfl
  rw [houtcome, hdocument]
  decide +kernel

end SchemaDiagram
