import SchemaDiagram.Edit.Plan
import SchemaDiagram.Proofs.Entries
import SchemaDiagram.Proofs.MapUpdate

/-! # Rewriting a settings list

A settings list is rewritten by replacing stretches of it and by writing new settings behind its
last character. On a well-formed list this happens part by part, the parts of the result are those
of a well-formed list again, and their entries are the old ones with the values written into them.

* **`weave_join`** — replacing stretches inside parts replaces them in each part by itself.
* **`rewritePart`** and **`Rewritten`** — a part with the values written into it, and what is kept.
* **`exists_rewritten`** — the parts of a rewritten list.
* **`rewriteSettings_spec`** — a rewritten list is well formed, says what it said with the values
  written into it, and is left alone by a second rewriting. -/

namespace SchemaDiagram

/-! ## Weaving -/

namespace Text

/-- Two stretches that meet are one. -/
theorem slice_append_slice (s : Text) {i j k : Nat} (hij : i ≤ j) (hjk : j ≤ k) :
    s.slice i j ++ s.slice j k = s.slice i k := by
  have hdrop : s.drop j = (s.drop i).drop (j - i) := by
    rw [List.drop_drop, Nat.add_sub_cancel' hij]
  have hlen : k - i = (j - i) + (k - j) := by omega
  rw [slice, slice, slice, hdrop, hlen, List.take_add]

/-- A stretch of a text inside another one. -/
theorem slice_inside {text a p b : Text} (h : text = a ++ (p ++ b)) {i j : Nat}
    (hj : j ≤ p.length) : text.slice (a.length + i) (a.length + j) = p.slice i j := by
  have hsub : a.length + j - (a.length + i) = j - i := by omega
  have hdrop : text.drop (a.length + i) = p.drop i ++ b.drop (i - p.length) := by
    rw [h, ← List.drop_drop, List.drop_left, List.drop_append]
  rw [slice, slice, hdrop, hsub]
  by_cases hi : i ≤ j
  · rw [List.take_append_of_le_length (by rw [List.length_drop]; omega)]
  · rw [Nat.sub_eq_zero_of_le (by omega), List.take_zero, List.take_zero]

end Text

/-- The offset at which the first replacement starts; without one, the end. -/
def firstEdit (stop : Nat) (edits : List (Span × Text)) : Nat :=
  (edits.head?.map (·.1.start)).getD stop

/-- What stands before the first replacement is kept. -/
theorem weave_from (text : Text) {cursor mid stop : Nat} {edits : List (Span × Text)}
    (h : cursor ≤ mid) (hmid : mid ≤ firstEdit stop edits) :
    weave text cursor stop edits = text.slice cursor mid ++ weave text mid stop edits := by
  cases edits with
  | nil => exact (text.slice_append_slice h hmid).symm
  | cons e edits =>
    have hslice : text.slice cursor mid ++ text.slice mid e.1.start = text.slice cursor e.1.start :=
      text.slice_append_slice h hmid
    rw [weave, weave, ← List.append_assoc, ← List.append_assoc, hslice]

/-- The replacement of a stretch, further on in the text. -/
def shiftEdit (n : Nat) (e : Span × Text) : Span × Text := (e.1.shift n, e.2)

/-- **A replacement inside a part** is made in the part by itself. -/
theorem weave_part {text a p b : Text} (h : text = a ++ (p ++ b)) (edit : Option (Span × Text))
    (hedit : ∀ e ∈ edit, e.1.start ≤ e.1.stop ∧ e.1.stop ≤ p.length) {rest : List (Span × Text)}
    {stop : Nat} (hrest : a.length + p.length ≤ firstEdit stop rest) :
    weave text a.length stop ((edit.map (shiftEdit a.length)).toList ++ rest)
      = weave p 0 p.length edit.toList ++ weave text (a.length + p.length) stop rest := by
  -- Without a replacement the part is written as it stands.
  cases edit with
  | none =>
    have hslice := Text.slice_inside h (i := 0) (Nat.le_refl p.length)
    rw [Nat.add_zero] at hslice
    rw [Option.map_none, Option.toList_none, List.nil_append, weave_from text (Nat.le_add_right ..)
      hrest, hslice]
    rfl
  -- The part is cut at the replacement, and what follows the part is left to the others.
  | some e =>
    obtain ⟨hstart, hstop⟩ := hedit e rfl
    have hfront := Text.slice_inside h (i := 0) (j := e.1.start) (by omega)
    have hback := Text.slice_inside h (i := e.1.stop) (Nat.le_refl p.length)
    rw [Nat.add_zero] at hfront
    have hshift : (shiftEdit a.length e).1 = ⟨a.length + e.1.start, a.length + e.1.stop⟩ := by
      rw [shiftEdit, Span.shift, Nat.add_comm, Nat.add_comm e.1.stop]
    rw [Option.map_some, Option.toList_some, Option.toList_some, List.singleton_append,
      weave, weave, weave, hshift]
    dsimp only
    rw [weave_from text (by omega : a.length + e.1.stop ≤ a.length + p.length) hrest, hfront, hback]
    simp [shiftEdit]

/-- A single replacement. -/
theorem weave_single {p x y z : Text} (h : p = x ++ (y ++ z)) (r : Text) :
    weave p 0 p.length [(.behind x.length y, r)] = x ++ (r ++ z) := by
  have hfront : p.slice 0 x.length = x := by
    rw [Text.slice, h]
    simp
  have hback : p.slice (x.length + y.length) p.length = z := by
    rw [Text.slice, h, ← List.append_assoc, ← List.length_append, List.drop_left]
    refine List.take_of_length_le ?_
    rw [List.length_append]
    omega
  rw [weave, weave, Span.behind, hfront, hback, List.append_assoc]

/-! ## Parts -/

/-- How the item of a part is rewritten, if it is. -/
def partEdit? (values : OrderedMap Text) (p : Text) : Option (Span × Text) :=
  (partItem? p).bind fun item =>
    (changedKey? values item).map fun entry => itemReplacement item entry.1 entry.2

/-- A part with the values written into it. -/
def rewritePart (values : OrderedMap Text) (p : Text) : Text :=
  weave p 0 p.length (partEdit? values p).toList

/-- The replacements in parts with commas between them, from offset `o` on. -/
def editsFrom (values : OrderedMap Text) (o : Nat) : List Text → List (Span × Text)
  | [] => []
  | p :: ps =>
    ((partEdit? values p).map (shiftEdit o)).toList ++ editsFrom values (o + p.length + 1) ps

section

variable {values : OrderedMap Text}

/-- A replacement in a part stays inside it. -/
theorem partEdit?_bounds {p : Text} : ∀ e ∈ partEdit? values p,
    e.1.start ≤ e.1.stop ∧ e.1.stop ≤ p.length := by
  intro e he
  obtain ⟨item, hitem, he⟩ := Option.bind_eq_some_iff.1 he
  obtain ⟨entry, -, rfl⟩ := Option.map_eq_some_iff.1 he
  -- The replacement is behind the item of a flag, or the value of a keyed part.
  cases Shape.of p with
  | blank hp => rw [partItem?_blank hp] at hitem; cases hitem
  | flag hl hc ht hne hcolon =>
    rw [partItem?_flag hl hc ht hne hcolon] at hitem
    cases hitem
    simp only [itemReplacement, Span.behind, List.length_append]
    omega
  | keyed hk =>
    rw [partItem?_keyed hk] at hitem
    cases hitem
    simp only [itemReplacement, Span.behind, keyedText, List.length_append, List.length_cons]
    omega

/-- A comma between two parts counts as one character. -/
theorem length_join_cons_cons (p q : Text) (ps : List Text) :
    (Text.join [','] (p :: q :: ps)).length
      = p.length + 1 + (Text.join [','] (q :: ps)).length := by
  rw [Text.join_cons_cons, List.length_append, List.length_append, List.length_singleton]

/-- The replacements in some parts come before those behind them. -/
theorem le_firstEdit {ps : List Text} {o stop : Nat} {rest : List (Span × Text)}
    (h : o + (Text.join [','] ps).length ≤ firstEdit stop rest) :
    o ≤ firstEdit stop (editsFrom values o ps ++ rest) := by
  induction ps generalizing o with
  | nil => exact h
  | cons p ps ih =>
    rw [editsFrom]
    -- The first part has a replacement, and it is in front of all others.
    cases partEdit? values p with
    | some e => exact Nat.le_add_left _ _
    -- The first part has none, so those behind it are looked at.
    | none =>
      cases ps with
      | nil => exact Nat.le_trans (Nat.le_add_right _ _) h
      | cons q ps =>
        rw [length_join_cons_cons] at h
        have hle := ih (o := o + p.length + 1) (by omega)
        exact Nat.le_trans (by omega) hle

/-- **Replacing stretches inside parts** replaces them in each part by itself. -/
theorem weave_join (values : OrderedMap Text) {ps : List Text} {text a b : Text}
    (h : text = a ++ (Text.join [','] ps ++ b)) {rest : List (Span × Text)} {stop : Nat}
    (hrest : a.length + (Text.join [','] ps).length ≤ firstEdit stop rest) :
    weave text a.length stop (editsFrom values a.length ps ++ rest)
      = Text.join [','] (ps.map (rewritePart values))
        ++ weave text (a.length + (Text.join [','] ps).length) stop rest := by
  induction ps generalizing a with
  | nil => rfl
  | cons p ps ih =>
    cases ps with
    | nil =>
      have hpart := weave_part h (partEdit? values p) partEdit?_bounds hrest
      rw [editsFrom, editsFrom, List.append_nil, hpart]
      rfl
    | cons q ps =>
      -- The text up to the first comma, and the text behind it.
      have htext : text = a ++ (p ++ (',' :: Text.join [','] (q :: ps) ++ b)) := by
        rw [h, Text.join_cons_cons]
        simp
      have htext' : text = (a ++ p ++ [',']) ++ (Text.join [','] (q :: ps) ++ b) := by
        rw [h, Text.join_cons_cons]
        simp
      have hlen : (a ++ p ++ [',']).length = a.length + p.length + 1 := by
        rw [List.length_append, List.length_append, List.length_singleton]
      rw [length_join_cons_cons] at hrest
      -- The replacements of the other parts stand behind the comma.
      have hnext : a.length + p.length + 1
          ≤ firstEdit stop (editsFrom values (a.length + p.length + 1) (q :: ps) ++ rest) :=
        le_firstEdit (by omega)
      have hpart := weave_part htext (partEdit? values p) partEdit?_bounds
        (Nat.le_trans (Nat.le_succ _) hnext)
      have hcomma : text.slice (a.length + p.length) (a.length + p.length + 1) = [','] := by
        have htext'' : text = (a ++ p) ++ ([','] ++ (Text.join [','] (q :: ps) ++ b)) := by
          rw [htext']
          simp
        have hslice := Text.slice_inside htext'' (i := 0) (j := 1) (by simp)
        rw [List.length_append] at hslice
        exact hslice
      have hrest' := ih htext' (by rw [hlen]; omega)
      rw [hlen] at hrest'
      rw [editsFrom, List.append_assoc, hpart, weave_from text (Nat.le_succ _) hnext,
        hcomma, hrest', length_join_cons_cons]
      simp only [List.map_cons, Text.join_cons_cons, rewritePart, List.append_assoc, Nat.add_assoc]

end

/-! ## Values by key -/

/-- Entries that can be written as settings. -/
structure SettingEntries (values : OrderedMap Text) : Prop where
  /-- Every key is given back as it is written. -/
  key : ∀ e ∈ values, IsSettingKey e.1
  /-- Every value is given back as it is written. -/
  value : ∀ e ∈ values, IsSettingValue e.2
  /-- No key comes twice. -/
  nodup : values.keys.Nodup

/-- Entries that are read back as they are written. -/
structure PlainEntries (values : OrderedMap Text) : Prop where
  /-- Every key is plain. -/
  key : ∀ e ∈ values, PlainKey e.1
  /-- Every value is plain. -/
  value : ∀ e ∈ values, PlainValue e.2
  /-- No key comes twice. -/
  nodup : values.keys.Nodup

/-- Plain entries can be written as settings. -/
theorem PlainEntries.settingEntries {values : OrderedMap Text} (h : PlainEntries values) :
    SettingEntries values :=
  ⟨fun e he => (h.key e he).isSettingKey, fun e he => (h.value e he).isSettingValue, h.nodup⟩

/-- What a part says: its key and its value. -/
def keyValue? (p : Text) : Option (Text × Text) :=
  (partItem? p).map fun item => (item.key, item.value)

section

variable {values : OrderedMap Text}

/-- With such entries the key of an item is looked up as it is. -/
theorem changedKey?_eq (hv : SettingEntries values) (item : SettingItem) :
    changedKey? values item = (values.get? item.key).map (item.key, ·) := by
  rw [changedKey?]
  -- No entry has the key, so none is found.
  cases hget : values.get? item.key with
  | none =>
    rw [Option.map_none, List.find?_eq_none]
    intro e he hkey
    have hmem := List.mem_reverse.1 he
    rw [(hv.key e hmem).normal, decide_eq_true_eq] at hkey
    rw [← hkey, OrderedMap.get?_of_mem hv.nodup hmem] at hget
    cases hget
  -- The entry with the key is found, and keys are distinct.
  | some v =>
    have hmem := OrderedMap.mem_of_get? hget
    cases hfind : values.reverse.find? fun entry => normalizeKey entry.1 = item.key with
    | none =>
      have hnone := List.find?_eq_none.1 hfind _ (List.mem_reverse.2 hmem)
      rw [(hv.key _ hmem).normal] at hnone
      exact absurd (decide_eq_true rfl) hnone
    | some e =>
      have hkey : normalizeKey e.1 = item.key := by simpa using List.find?_some hfind
      have he := List.mem_reverse.1 (List.mem_of_find?_eq_some hfind)
      rw [(hv.key e he).normal] at hkey
      have hval := OrderedMap.get?_of_mem hv.nodup he
      rw [hkey, hget] at hval
      rw [← hkey, Option.some.inj hval]
      rfl

/-! ## One part -/

/-- What a part becomes when values are written into it. -/
inductive Rewrites (values : OrderedMap Text) : Text → Text → Prop
  /-- A part whose key has no value stays as it is. -/
  | kept {p : Text} (h : ∀ item ∈ partItem? p, values.get? item.key = none) : Rewrites values p p
  /-- A flag gets a value; its key is written as it is compared. -/
  | flag {lead core trail v : Text} (hl : AllBlank lead) (hc : Trimmed core) (ht : AllBlank trail)
      (hne : core ≠ []) (hcolon : firstColon? none core = none)
      (hget : values.get? (normalizeKey core) = some v) :
      Rewrites values (lead ++ (core ++ trail)) (keyedText lead (normalizeKey core) [' '] v trail)
  /-- A value is replaced; before an empty one there may have been no blank. -/
  | keyed {lead key gap gap' value v trail : Text} (hk : Keyed lead key gap value trail)
      (hk' : Keyed lead key gap' v trail) (hget : values.get? (normalizeKey key.trim) = some v) :
      Rewrites values (keyedText lead key gap value trail) (keyedText lead key gap' v trail)

variable {lead key gap v trail p p' : Text}

/-- A part whose key has no value is left as it is. -/
theorem rewritePart_kept (hv : SettingEntries values)
    (hget : ∀ item ∈ partItem? p, values.get? item.key = none) : rewritePart values p = p := by
  have hedit : partEdit? values p = none := by
    rw [partEdit?, Option.bind_eq_none_iff]
    intro item hitem
    rw [changedKey?_eq hv, hget item hitem]
    rfl
  rw [rewritePart, hedit, Option.toList_none, weave, Text.slice, List.drop_zero, Nat.sub_zero,
    List.take_length]

/-- A part that has its value already is left alone. -/
theorem rewritePart_keyed_self (hv : SettingEntries values) (hk : Keyed lead key gap v trail)
    (hget : values.get? (normalizeKey key.trim) = some v) :
    rewritePart values (keyedText lead key gap v trail) = keyedText lead key gap v trail := by
  have hne : v ≠ [] := (hv.value _ (OrderedMap.mem_of_get? hget)).ne_nil
  have hlen : (Span.behind (lead.length + key.length + 1 + gap.length) v).length ≠ 0 := by
    rw [Span.length_behind]
    simpa using hne
  have htext : keyedText lead key gap v trail = (lead ++ key ++ ':' :: gap) ++ (v ++ trail) := by
    simp [keyedText]
  have hplace : lead.length + key.length + 1 + gap.length = (lead ++ key ++ ':' :: gap).length := by
    simp only [List.length_append, List.length_cons]
    omega
  rw [rewritePart, partEdit?, partItem?_keyed hk, Option.bind_some, changedKey?_eq hv, hget]
  simp only [Option.map_some, Option.toList_some, itemReplacement, hlen, if_false]
  rw [hplace, weave_single htext, ← htext]

/-- The empty text is blank. -/
theorem allBlank_nil : AllBlank [] := by simp [AllBlank]

/-- A space is blank. -/
theorem allBlank_space : AllBlank [' '] := by
  intro c hc
  rw [List.mem_singleton.1 hc]
  decide

/-- What a part with a key and a value says. -/
theorem keyValue?_keyed (hk : Keyed lead key gap v trail) :
    keyValue? (keyedText lead key gap v trail) = some (normalizeKey key.trim, v) := by
  rw [keyValue?, partItem?_keyed hk]
  rfl

/-- A written key is compared as it stands. -/
theorem IsSettingKey.normalizeKey_trim {k : Text} (h : IsSettingKey k) :
    normalizeKey k.trim = k := by
  rw [Text.trim_eq_self (trimmed_of_normal h.normal), h.normal]

/-- **Values are written into a part** in one of the three ways. -/
theorem rewrites (hv : SettingEntries values) (p : Text) :
    Rewrites values p (rewritePart values p) := by
  have hkept : (∀ item ∈ partItem? p, values.get? item.key = none) →
      Rewrites values p (rewritePart values p) := by
    intro hget
    rw [rewritePart_kept hv hget]
    exact .kept hget
  cases Shape.of p with
  | blank hp => exact hkept (by rw [partItem?_blank hp]; simp)
  | @flag lead core trail hl hc ht hne hcolon =>
    have hitem := partItem?_flag hl hc ht hne hcolon
    cases hget : values.get? (normalizeKey core) with
    | none => exact hkept (by rw [hitem]; simpa using hget)
    | some v =>
      have hnew : rewritePart values (lead ++ (core ++ trail))
          = keyedText lead (normalizeKey core) [' '] v trail := by
        rw [rewritePart, partEdit?, hitem, Option.bind_some, changedKey?_eq hv, hget]
        simp only [Option.map_some, Option.toList_some, itemReplacement]
        rw [weave_single rfl]
        simp [keyedText, settingText]
      rw [hnew]
      exact .flag hl hc ht hne hcolon hget
  | @keyed lead key gap value trail hk =>
    have hitem := partItem?_keyed hk
    cases hget : values.get? (normalizeKey key.trim) with
    | none => exact hkept (by rw [hitem]; simpa using hget)
    | some v =>
      have hval := hv.value _ (OrderedMap.mem_of_get? hget)
      -- An empty value gets a space before it.
      obtain ⟨gap', hgap', hnew⟩ : ∃ gap', AllBlank gap' ∧
          rewritePart values (keyedText lead key gap value trail)
            = keyedText lead key gap' v trail := by
        have htext : keyedText lead key gap value trail
            = (lead ++ key ++ ':' :: gap) ++ (value ++ trail) := by
          simp [keyedText]
        have hplace : lead.length + key.length + 1 + gap.length
            = (lead ++ key ++ ':' :: gap).length := by
          simp only [List.length_append, List.length_cons]
          omega
        rw [rewritePart, partEdit?, hitem, Option.bind_some, changedKey?_eq hv, hget]
        simp only [Option.map_some, Option.toList_some, itemReplacement, Span.length_behind,
          List.length_eq_zero_iff]
        rw [hplace, weave_single htext]
        by_cases hnil : value = []
        · exact ⟨[' '], allBlank_space, by rw [if_pos hnil, hk.gap_nil hnil]; simp [keyedText]⟩
        · exact ⟨gap, hk.blank_gap, by rw [if_neg hnil]; simp [keyedText]⟩
      rw [hnew]
      exact .keyed hk ⟨hk.blank_lead, hgap', hk.blank_trail, hk.colon, hk.head, hval.trimmed,
        fun hnil => absurd hnil hval.ne_nil⟩ hget

/-- A setting that is written behind the others is a part with its key and its value. -/
theorem fresh_part (hv : SettingEntries values) {e : Text × Text} (he : e ∈ values)
    (hl : AllBlank lead) (ht : AllBlank trail) :
    keyValue? (keyedText lead e.1 [' '] e.2 trail) = some e ∧
      rewritePart values (keyedText lead e.1 [' '] e.2 trail)
        = keyedText lead e.1 [' '] e.2 trail := by
  have hself := (hv.key e he).normalizeKey_trim
  have hk := (hv.key e he).keyed (hv.value e he) hl allBlank_space ht
  refine ⟨by rw [keyValue?_keyed hk, hself], rewritePart_keyed_self hv hk ?_⟩
  rw [hself, OrderedMap.get?_of_mem hv.nodup he]

namespace Rewrites

/-- The key that a flag is given. -/
theorem flag_key {core : Text} (hv : SettingEntries values)
    (hget : values.get? (normalizeKey core) = some v) :
    normalizeKey (normalizeKey core).trim = normalizeKey core :=
  (hv.key _ (OrderedMap.mem_of_get? hget)).normalizeKey_trim

/-- It says what it said, with the new value where its key has one. -/
theorem keyValue?_eq (hv : SettingEntries values) (h : Rewrites values p p') :
    keyValue? p' = (keyValue? p).map (OrderedMap.overlay values) := by
  cases h with
  -- The part is kept, since no entry has its key.
  | kept hget =>
    rw [keyValue?]
    cases hitem : partItem? p with
    | none => rfl
    | some item => simp [OrderedMap.overlay, hget item hitem]
  -- A flag with a new value is a keyed part from there on.
  | flag hl hc ht hne hcolon hget =>
    have hmem := OrderedMap.mem_of_get? hget
    have hk := (hv.key _ hmem).keyed (hv.value _ hmem) hl allBlank_space ht
    rw [keyValue?_keyed hk, flag_key hv hget, keyValue?, partItem?_flag hl hc ht hne hcolon]
    simp [OrderedMap.overlay, hget]
  | keyed hk hk' hget =>
    rw [keyValue?_keyed hk', keyValue?_keyed hk]
    simp [OrderedMap.overlay, hget]

/-- A second writing leaves it alone. -/
theorem again (hv : SettingEntries values) (h : Rewrites values p p') :
    rewritePart values p' = p' := by
  cases h with
  | kept hget => exact rewritePart_kept hv hget
  | flag hl hc ht hne hcolon hget =>
    have hmem := OrderedMap.mem_of_get? hget
    have hk := (hv.key _ hmem).keyed (hv.value _ hmem) hl allBlank_space ht
    exact rewritePart_keyed_self hv hk (by rw [flag_key hv hget, hget])
  | keyed _ hk' hget => exact rewritePart_keyed_self hv hk' hget

/-- A chunk stays a chunk. -/
theorem isChunk (hv : SettingEntries values) (h : Rewrites values p p') (hp : IsChunk p) :
    IsChunk p' := by
  cases h with
  | kept => exact hp
  -- The key of the flag and the new value hold nothing that splits.
  | flag hl hc ht hne hcolon hget =>
    have hmem := OrderedMap.mem_of_get? hget
    exact isChunk_keyed hl (fun c hc => ((hv.key _ hmem).chars c hc).1) allBlank_space
      (hv.value _ hmem).chunk ht
  -- The key stays, and the new value holds nothing that splits.
  | keyed hk hk' hget =>
    have hmem := OrderedMap.mem_of_get? hget
    obtain ⟨blanks, hkey, hblanks, -⟩ := hk.exists_key
    have htrim := isBland_of_normalizeKey (hv.key _ hmem).chars
    refine isChunk_keyed hk.blank_lead (fun c hc => ?_) hk'.blank_gap (hv.value _ hmem).chunk
      hk.blank_trail
    -- The key is its trimmed text and blanks.
    rw [hkey] at hc
    rcases List.mem_append.1 hc with hc | hc
    · exact (htrim c hc).1
    · exact isBland_of_isBlank (hblanks c hc)

/-- No character in the key of a part that gets a plain value has a meaning. -/
theorem keyChars (hv : PlainEntries values) (hk : Keyed lead key gap p trail)
    (hget : values.get? (normalizeKey key.trim) = some v) : ∀ c ∈ key, isKeyChar c = true := by
  obtain ⟨blanks, hkey, hblanks, -⟩ := hk.exists_key
  have htrim := isKeyChar_of_normalizeKey (hv.key _ (OrderedMap.mem_of_get? hget)).chars
  intro c hc
  rw [hkey] at hc
  rcases List.mem_append.1 hc with hc | hc
  · exact htrim c hc
  · exact isKeyChar_of_isBlank (hblanks c hc)

/-- A part stays a part when plain values are written into it. -/
theorem isPart (hv : PlainEntries values) (h : Rewrites values p p') (hp : IsPart p) :
    IsPart p' := by
  cases h with
  | kept => exact hp
  | flag hl hc ht hne hcolon hget =>
    have hmem := OrderedMap.mem_of_get? hget
    exact isPart_keyed hl (hv.key _ hmem).chars allBlank_space (hv.value _ hmem) ht
  | keyed hk hk' hget =>
    exact isPart_keyed hk.blank_lead (keyChars hv hk hget) hk'.blank_gap
      (hv.value _ (OrderedMap.mem_of_get? hget)) hk.blank_trail

/-- A quiet part stays quiet when plain values are written into it. -/
theorem isQuiet (hv : PlainEntries values) (h : Rewrites values p p') (hp : IsPart p)
    (hq : isQuiet (tokenize p) = true) : SchemaDiagram.isQuiet (tokenize p') = true := by
  cases h with
  | kept => exact hq
  -- The flag becomes a key and a plain value.
  | flag hl hc ht hne hcolon hget =>
    have hmem := OrderedMap.mem_of_get? hget
    have hkey := hv.key _ hmem
    exact isQuiet_keyed hl hkey.chars allBlank_space (hv.value _ hmem) ht Settled.nil
      (hkey.isQuiet_colon hl)
  -- The value is replaced by a plain one, and what stands around it stays.
  | @keyed lead key gap gap' value v trail hk hk' hget =>
    have hchars := keyChars hv hk hget
    have htext : keyedText lead key gap value trail
        = (lead ++ key) ++ ':' :: (gap ++ (value ++ trail)) := by
      simp [keyedText]
    rw [htext] at hp hq
    have hfront : ∀ c ∈ lead ++ key, isQuoteChar c = false := by
      intro c hc
      rcases List.mem_append.1 hc with hc | hc
      · exact isQuoteChar_of_isBlank (hk.blank_lead c hc)
      · exact (isBland_iff.1 (isKeyChar_iff.1 (hchars c hc)).1).1
    exact isQuiet_keyed hk.blank_lead hchars hk'.blank_gap
      (hv.value _ (OrderedMap.mem_of_get? hget))
      hk.blank_trail (settled_colon_iff.1 (hp.settled.of_no_quote hfront).2.2) hq

end Rewrites

/-- A kind of parts that values can be written into. -/
structure KeptBy (values : OrderedMap Text) (Good : Text → Prop) : Prop where
  /-- They are chunks. -/
  chunk : ∀ {p}, Good p → IsChunk p
  /-- Blanks at their ends do not count. -/
  blanks : ∀ {p b}, Good (p ++ b) → AllBlank b → Good p
  /-- They stay of the kind. -/
  rewrites : ∀ {p p'}, Rewrites values p p' → Good p → Good p'
  /-- A new setting is of the kind. -/
  fresh : ∀ {e lead trail}, e ∈ values → AllBlank lead → AllBlank trail →
    Good (keyedText lead e.1 [' '] e.2 trail)

/-- **Values can be written into chunks.** -/
theorem SettingEntries.keptBy (hv : SettingEntries values) : KeptBy values IsChunk :=
  { chunk := id
    blanks := IsChunk.of_blanks
    rewrites := fun h => h.isChunk hv
    fresh := fun {e _ _} he hl ht => isChunk_keyed hl (fun c hc => ((hv.key e he).chars c hc).1)
      allBlank_space (hv.value e he).chunk ht }

/-- **Plain values can be written into parts.** -/
theorem PlainEntries.keptBy (hv : PlainEntries values) : KeptBy values IsPart :=
  { chunk := IsPart.isChunk
    blanks := IsPart.of_blanks
    rewrites := fun h => h.isPart hv
    fresh := fun {e _ _} he hl ht =>
      isPart_keyed hl (hv.key e he).chars allBlank_space (hv.value e he) ht }

/-- **Plain values can be written into quiet parts.** -/
theorem PlainEntries.keptBy_quiet (hv : PlainEntries values) :
    KeptBy values fun p => IsPart p ∧ isQuiet (tokenize p) = true :=
  { chunk := fun h => h.1.isChunk
    blanks := fun h hb => ⟨h.1.of_blanks hb, by rw [← isQuiet_blanks h.1.settled hb, h.2]⟩
    rewrites := fun h hp => ⟨h.isPart hv hp.1, h.isQuiet hv hp.1 hp.2⟩
    fresh := fun {e _ _} he hl ht => ⟨hv.keptBy.fresh he hl ht,
      isQuiet_keyed hl (hv.key e he).chars allBlank_space (hv.value e he) ht Settled.nil
        ((hv.key e he).isQuiet_colon hl)⟩ }

end

/-! ## Lists of parts -/

/-- A separator stands behind the first part when there are more. -/
theorem join_cons {sep p : Text} {ps : List Text} (h : ps ≠ []) :
    Text.join sep (p :: ps) = p ++ sep ++ Text.join sep ps := by
  cases ps with
  | nil => exact absurd rfl h
  | cons q ps => rfl

/-- Two lists of parts are joined with a separator between them. -/
theorem join_append {sep : Text} {ps qs : List Text} (hp : ps ≠ []) (hq : qs ≠ []) :
    Text.join sep (ps ++ qs) = Text.join sep ps ++ sep ++ Text.join sep qs := by
  induction ps with
  | nil => exact absurd rfl hp
  | cons p ps ih =>
    cases ps with
    | nil => exact join_cons hq
    | cons r ps =>
      rw [List.cons_append, join_cons (by simp), ih (List.cons_ne_nil _ _), Text.join_cons_cons]
      simp only [List.append_assoc]

/-- The last part ends the list. -/
theorem join_last {sep : Text} (init : List Text) (last b : Text) :
    Text.join sep (init ++ [last ++ b]) = Text.join sep (init ++ [last]) ++ b := by
  cases init with
  | nil => rfl
  | cons p init =>
    rw [join_append (List.cons_ne_nil _ _) (List.cons_ne_nil _ _),
      join_append (List.cons_ne_nil _ _) (List.cons_ne_nil _ _)]
    simp only [Text.join_singleton, List.append_assoc]

/-- Blanks at the end of a list are those at the end of its last part. -/
theorem trimRight_join (init : List Text) (last : Text) :
    Text.trimRight (Text.join [','] (init ++ [last]))
      = Text.join [','] (init ++ [Text.trimRight last]) := by
  cases init with
  | nil => rfl
  | cons p init =>
    rw [join_append (List.cons_ne_nil _ _) (List.cons_ne_nil _ _),
      join_append (List.cons_ne_nil _ _) (List.cons_ne_nil _ _), Text.join_singleton,
      Text.join_singleton]
    refine Text.trimRight_append (fun c hc => ?_) last
    rw [List.getLast?_concat] at hc
    cases hc
    decide

/-- Blanks behind the last part do not matter to the items. -/
theorem itemsFrom_last {b : Text} (hb : AllBlank b) (o : Nat) (init : List Text) (last : Text) :
    itemsFrom o (init ++ [last ++ b]) = itemsFrom o (init ++ [last]) := by
  induction init generalizing o with
  | nil => simp only [List.nil_append, itemsFrom, partItem?_append_blank last hb]
  | cons p init ih => rw [List.cons_append, List.cons_append, itemsFrom, itemsFrom, ih]

/-- The entries of parts with commas between them. -/
theorem map_itemsFrom (o : Nat) (ps : List Text) :
    (itemsFrom o ps).map (fun item => (item.key, item.value)) = ps.filterMap keyValue? := by
  induction ps generalizing o with
  | nil => rfl
  | cons p ps ih =>
    rw [itemsFrom, List.map_append, ih, List.filterMap_cons, keyValue?]
    cases partItem? p <;> rfl

/-- **The map of a list** is that of the entries of its parts. -/
theorem parseSettings_join {ps : List Text} (hne : ps ≠ []) (h : ∀ p ∈ ps, IsChunk p) :
    parseSettings (Text.join [','] ps) = .ofList (ps.filterMap keyValue?) := by
  rw [parseSettings, splitSettings_join hne h, map_itemsFrom]

section

variable {values : OrderedMap Text}

/-- The replacements in a list are those in its parts. -/
theorem filterMap_itemsFrom (values : OrderedMap Text) (o : Nat) (ps : List Text) :
    (itemsFrom o ps).filterMap (fun item =>
        (changedKey? values item).map fun entry => itemReplacement item entry.1 entry.2)
      = editsFrom values o ps := by
  induction ps generalizing o with
  | nil => rfl
  | cons p ps ih =>
    rw [itemsFrom, List.filterMap_append, ih, editsFrom, partEdit?]
    congr 1
    cases partItem? p with
    | none => rfl
    | some item =>
      -- A moved item has the key that it had.
      have hkey : changedKey? values (item.shift o) = changedKey? values item := rfl
      simp only [Option.map_some, Option.toList_some, List.filterMap_cons, List.filterMap_nil,
        Option.bind_some, hkey]
      cases changedKey? values item with
      | none => rfl
      | some entry =>
        simp only [Option.map_some, Option.toList_some, itemReplacement, SettingItem.shift,
          shiftEdit]
        -- The value is moved, and it has the length that it had.
        cases item.valueSpan with
        | none => rfl
        | some span =>
          have hlen : (span.shift o).length = span.length := by
            simp only [Span.length, Span.shift]
            omega
          simp only [Option.map_some, hlen]

/-- The settings that a list lacks are those whose keys no part has. -/
theorem missing_eq (hv : SettingEntries values) (items : List SettingItem) :
    (values.filter fun entry =>
      !((items.filterMap fun item => (changedKey? values item).map fun e =>
        (e.1, itemReplacement item e.1 e.2)).map (·.1)).contains entry.1)
      = values.without (items.map (·.key)) := by
  refine List.filter_congr fun e he => ?_
  -- An entry is looked at by its key alone, since keys are distinct.
  have hiff : e.1 ∈ (items.filterMap fun item => (changedKey? values item).map fun e =>
      (e.1, itemReplacement item e.1 e.2)).map (·.1) ↔ e.1 ∈ items.map (·.key) := by
    constructor
    · -- A replacement that is found belongs to an item of that key.
      intro hmem
      obtain ⟨found, hfound, heq⟩ := List.mem_map.1 hmem
      obtain ⟨item, hitem, hsome⟩ := List.mem_filterMap.1 hfound
      rw [changedKey?_eq hv] at hsome
      obtain ⟨entry, hentry, rfl⟩ := Option.map_eq_some_iff.1 hsome
      obtain ⟨v, -, rfl⟩ := Option.map_eq_some_iff.1 hentry
      rw [← heq]
      exact List.mem_map_of_mem hitem
    · -- An item of that key has a replacement of its own.
      intro hmem
      obtain ⟨item, hitem, heq⟩ := List.mem_map.1 hmem
      refine List.mem_map.2 ⟨(item.key, itemReplacement item item.key e.2),
        List.mem_filterMap.2 ⟨item, hitem, ?_⟩, heq⟩
      rw [changedKey?_eq hv, heq, OrderedMap.get?_of_mem hv.nodup he]
      rfl
  rw [Bool.eq_iff_iff]
  simp only [Bool.not_eq_true', List.contains_iff_mem, ← Bool.not_eq_true, hiff]

/-! ## The whole list -/

/-- The settings of a list that its parts lack. -/
def missing (values : OrderedMap Text) (ps : List Text) : OrderedMap Text :=
  values.without (OrderedMap.keys (ps.filterMap keyValue?))

/-- What is written between a list and the settings that it lacks. -/
def separator (kept : Text) : Text :=
  if kept.isEmpty then [] else if kept.getLast? = some ',' then " " else ", "

/-- The settings that a list lacks, as they are written. -/
def newSettings (values : OrderedMap Text) (ps : List Text) : Text :=
  Text.join ", " ((missing values ps).map fun e => settingText e.1 e.2)

/-- What is written behind a list. -/
def addition (values : OrderedMap Text) (kept : Text) (ps : List Text) : Text :=
  if (missing values ps).isEmpty then [] else separator kept ++ newSettings values ps

/-- The replacement that writes what a list lacks. -/
def appended (values : OrderedMap Text) (kept : Text) (ps : List Text) : List (Span × Text) :=
  if (missing values ps).isEmpty then []
  else [(⟨kept.length, kept.length⟩, separator kept ++ newSettings values ps)]

/-- What is written behind the last character stands before the blanks there. -/
theorem weave_appended (values : OrderedMap Text) (kept b : Text) (ps : List Text) :
    weave (kept ++ b) kept.length (kept ++ b).length (appended values kept ps)
      = addition values kept ps ++ b := by
  have hback : (kept ++ b).slice kept.length (kept ++ b).length = b := by
    rw [Text.slice, List.drop_left]
    refine List.take_of_length_le ?_
    rw [List.length_append]
    omega
  rw [appended, addition]
  by_cases hmissing : (missing values ps).isEmpty = true
  · rw [if_pos hmissing, if_pos hmissing]
    exact hback
  · rw [if_neg hmissing, if_neg hmissing, weave, weave, hback, Text.slice_self, List.nil_append]

/-- **A list is rewritten part by part**, and what it lacks stands behind its last character. -/
theorem rewriteSettings_eq (hv : SettingEntries values) {init : List Text} {last b : Text}
    (hps : ∀ p ∈ init ++ [last ++ b], IsChunk p) (hb : AllBlank b)
    (hlast : Text.trimRight last = last) :
    rewriteSettings (Text.join [','] (init ++ [last ++ b])) values
      = Text.join [','] ((init ++ [last]).map (rewritePart values))
        ++ addition values (Text.join [','] (init ++ [last])) (init ++ [last]) ++ b := by
  -- The items are those of the parts, without the blanks at the end.
  have hitems : splitSettings (Text.join [','] (init ++ [last ++ b])) 0
      = itemsFrom 0 (init ++ [last]) := by
    rw [splitSettings_join (by simp) hps, itemsFrom_last hb]
  -- What is appended goes behind the last character that is no blank.
  have hkept : Text.trimRight (Text.join [','] (init ++ [last ++ b]))
      = Text.join [','] (init ++ [last]) := by
    rw [trimRight_join, Text.trimRight_append_blank last hb, hlast]
  have hkeys : (itemsFrom 0 (init ++ [last])).map (·.key)
      = OrderedMap.keys ((init ++ [last]).filterMap keyValue?) := by
    rw [← map_itemsFrom 0, OrderedMap.keys, List.map_map]
    rfl
  -- The replacements are those inside the parts.
  have hedits : ((itemsFrom 0 (init ++ [last])).filterMap fun item =>
      (changedKey? values item).map fun e => (e.1, itemReplacement item e.1 e.2)).map (·.2)
        = editsFrom values 0 (init ++ [last]) := by
    rw [← filterMap_itemsFrom, List.map_filterMap]
    simp only [Option.map_map]
    rfl
  have hmissing := missing_eq hv (itemsFrom 0 (init ++ [last]))
  rw [hkeys] at hmissing
  have htext : Text.join [','] (init ++ [last ++ b])
      = [] ++ (Text.join [','] (init ++ [last]) ++ b) := join_last init last b
  -- What is appended comes behind all replacements.
  have hle : ([] : Text).length + (Text.join [','] (init ++ [last])).length
      ≤ firstEdit (Text.join [','] (init ++ [last ++ b])).length
        (appended values (Text.join [','] (init ++ [last])) (init ++ [last])) := by
    rw [htext, appended]
    split <;> simp [firstEdit]
  have hjoin := weave_join values htext hle
  have hend := weave_appended values (Text.join [','] (init ++ [last])) b (init ++ [last])
  rw [List.length_nil, Nat.zero_add, htext, List.nil_append, hend] at hjoin
  rw [rewriteSettings, hitems, hkept]
  simp only [hmissing, hedits]
  rw [List.append_assoc, ← hjoin, htext]
  rfl

/-- New settings as parts: the first one behind `lead`, the others behind a space, and blanks behind
the last one. -/
def freshParts (lead b : Text) : OrderedMap Text → List Text
  | [] => []
  | [e] => [keyedText lead e.1 [' '] e.2 b]
  | e :: f :: es => keyedText lead e.1 [' '] e.2 [] :: freshParts [' '] b (f :: es)

/-- Parts that are added are written one behind the other, with a comma and a space between them.
-/
theorem join_freshParts (lead b : Text) {es : OrderedMap Text} (hne : es ≠ []) :
    Text.join [','] (freshParts lead b es)
      = lead ++ Text.join ", " (es.map fun e => settingText e.1 e.2) ++ b := by
  induction es generalizing lead with
  | nil => exact absurd rfl hne
  | cons e es ih =>
    cases es with
    | nil => simp [freshParts, keyedText, settingText]
    | cons f es =>
      have hfresh : freshParts [' '] b (f :: es) ≠ [] := by
        cases es <;> simp [freshParts]
      rw [freshParts, join_cons hfresh, ih _ (List.cons_ne_nil _ _)]
      simp [keyedText, settingText, Text.join_cons_cons]

/-- Every part that is added is good, is kept when the list is written again, and is read as the
entry it is written for. -/
theorem freshParts_spec {Good : Text → Prop} (hv : SettingEntries values)
    (hgood : KeptBy values Good) {es : OrderedMap Text} (hes : ∀ e ∈ es, e ∈ values)
    {lead b : Text} (hl : AllBlank lead) (hb : AllBlank b) :
    (∀ f ∈ freshParts lead b es, Good f ∧ rewritePart values f = f) ∧
      (freshParts lead b es).filterMap keyValue? = es := by
  induction es generalizing lead with
  | nil => exact ⟨by simp [freshParts], rfl⟩
  | cons e es ih =>
    have hmem := hes e (List.mem_cons_self ..)
    cases es with
    -- The last part has the blanks of the end behind it.
    | nil =>
      obtain ⟨hentry, hagain⟩ := fresh_part hv hmem hl hb
      refine ⟨fun f hf => ?_, ?_⟩
      · rw [List.mem_singleton.1 hf]
        exact ⟨hgood.fresh hmem hl hb, hagain⟩
      · rw [freshParts, List.filterMap_cons, hentry]
        rfl
    -- A part with others behind it, which begin with a blank.
    | cons f es =>
      obtain ⟨hentry, hagain⟩ := fresh_part hv hmem hl allBlank_nil
      obtain ⟨hall, hentries⟩ := ih (fun g hg => hes g (List.mem_cons_of_mem _ hg)) allBlank_space
      refine ⟨fun g hg => ?_, ?_⟩
      · rcases List.mem_cons.1 hg with rfl | hg
        · exact ⟨hgood.fresh hmem hl allBlank_nil, hagain⟩
        · exact hall g hg
      · rw [freshParts, List.filterMap_cons, hentry, hentries]

/-- The item of a part, and the part without the blanks at its ends. -/
def itemText? (p : Text) : Option (SettingItem × Text) := (partItem? p).map (·, p.trim)

/-- Blanks behind a part change nothing of that. -/
theorem itemText?_append_blank (p : Text) {b : Text} (hb : AllBlank b) :
    itemText? (p ++ b) = itemText? p := by
  rw [itemText?, partItem?_append_blank p hb, Text.trim_append_blank p hb, itemText?]

/-- The key and the value of a part are those of its item. -/
theorem keyValue?_eq_itemText? (p : Text) :
    keyValue? p = (itemText? p).map fun e => (e.1.key, e.1.value) := by
  rw [itemText?, Option.map_map]
  rfl

/-- What a rewritten list is made of: parts of the old list with values written into them, and the
settings that the old list lacks behind them. -/
structure RewrittenList (values : OrderedMap Text) (Good : Text → Prop) (ps old fresh : List Text) :
    Prop where
  /-- There is at least one part. -/
  ne_nil : old ++ fresh ≠ []
  /-- The parts of the old list are of the kind. -/
  old_good : ∀ p ∈ old, Good p
  /-- They are all of its items. -/
  items : old.filterMap itemText? = ps.filterMap itemText?
  /-- The new settings are of the kind, and written already. -/
  fresh_good : ∀ f ∈ fresh, Good f ∧ rewritePart values f = f
  /-- They are what the old list lacks. -/
  missing : fresh.filterMap keyValue? = missing values ps

/-- Writing values into parts writes them into their entries. -/
theorem filterMap_rewritePart (hv : SettingEntries values) (ps : List Text) :
    (ps.map (rewritePart values)).filterMap keyValue?
      = (ps.filterMap keyValue?).map (OrderedMap.overlay values) := by
  rw [List.filterMap_map, List.map_filterMap]
  refine congrArg (List.filterMap · ps) (funext fun p => ?_)
  rw [Function.comp_apply, (rewrites hv p).keyValue?_eq hv]

namespace RewrittenList

variable {Good : Text → Prop} {ps old fresh : List Text}

/-- All parts are of the kind. -/
theorem good (hv : SettingEntries values) (hgood : KeptBy values Good)
    (h : RewrittenList values Good ps old fresh) :
    ∀ q ∈ old.map (rewritePart values) ++ fresh, Good q := by
  intro q hq
  rcases List.mem_append.1 hq with hq | hq
  · obtain ⟨p, hp, rfl⟩ := List.mem_map.1 hq
    exact hgood.rewrites (rewrites hv p) (h.old_good p hp)
  · exact (h.fresh_good q hq).1

/-- The old parts say what the old list said. -/
theorem entries_old (h : RewrittenList values Good ps old fresh) :
    old.filterMap keyValue? = ps.filterMap keyValue? := by
  have hkey : keyValue? = fun p => (itemText? p).map fun e => (e.1.key, e.1.value) :=
    funext keyValue?_eq_itemText?
  rw [hkey, ← List.map_filterMap, h.items, List.map_filterMap]

/-- They say what the old list said, with the values written into it. -/
theorem entries (hv : SettingEntries values) (h : RewrittenList values Good ps old fresh) :
    (old.map (rewritePart values) ++ fresh).filterMap keyValue?
      = (ps.filterMap keyValue?).map (OrderedMap.overlay values)
        ++ SchemaDiagram.missing values ps := by
  rw [List.filterMap_append, filterMap_rewritePart hv, h.entries_old, h.missing]

/-- A second writing leaves them alone. -/
theorem again (hv : SettingEntries values) (h : RewrittenList values Good ps old fresh) :
    ∀ q ∈ old.map (rewritePart values) ++ fresh, rewritePart values q = q := by
  intro q hq
  rcases List.mem_append.1 hq with hq | hq
  · obtain ⟨p, -, rfl⟩ := List.mem_map.1 hq
    exact (rewrites hv p).again hv
  · exact (h.fresh_good q hq).2

/-- The settings are missing no more. -/
theorem missing_eq_nil (hv : SettingEntries values) (h : RewrittenList values Good ps old fresh) :
    SchemaDiagram.missing values (old.map (rewritePart values) ++ fresh) = [] := by
  rw [SchemaDiagram.missing, h.entries hv, OrderedMap.without, List.filter_eq_nil_iff]
  intro e he
  by_cases hkey : e.1 ∈ OrderedMap.keys (ps.filterMap keyValue?)
  · obtain ⟨f, hf, heq⟩ := List.mem_map.1 hkey
    have hmem : e.1 ∈ OrderedMap.keys ((ps.filterMap keyValue?).map (OrderedMap.overlay values)
        ++ SchemaDiagram.missing values ps) :=
      List.mem_map.2 ⟨_, List.mem_append_left _ (List.mem_map_of_mem hf), heq⟩
    simpa using hmem
  · have hmiss : e ∈ SchemaDiagram.missing values ps := List.mem_filter.2 ⟨he, by simpa using hkey⟩
    simpa using OrderedMap.mem_keys (List.mem_append_right _ hmiss)

end RewrittenList

/-- A list is its parts, the last one cut in front of the blanks at its end. -/
theorem exists_last {ps : List Text} (hne : ps ≠ []) :
    ∃ init last b, ps = init ++ [last ++ b] ∧ AllBlank b ∧ Text.trimRight last = last := by
  obtain ⟨b, hb, hblank⟩ := Text.exists_eq_trimRight_append (ps.getLast hne)
  refine ⟨ps.dropLast, Text.trimRight (ps.getLast hne), b, ?_, hblank,
    Text.trimRight_eq_self (Text.last_trimRight _)⟩
  rw [← hb, List.dropLast_concat_getLast hne]

/-- Blanks behind a part stay behind it. -/
theorem rewritePart_append_blank (values : OrderedMap Text) (p : Text) {b : Text}
    (hb : AllBlank b) : rewritePart values (p ++ b) = rewritePart values p ++ b := by
  have hedit : partEdit? values (p ++ b) = partEdit? values p := by
    rw [partEdit?, partItem?_append_blank p hb, partEdit?]
  have hle : ([] : Text).length + p.length ≤ firstEdit (p ++ b).length [] := by
    simp [firstEdit]
  have htext : p ++ b = [] ++ (p ++ b) := rfl
  have hpart := weave_part htext (partEdit? values p) partEdit?_bounds hle
  -- What follows the part is written as it stands.
  have hback : weave (p ++ b) p.length (p ++ b).length [] = b := by
    rw [weave, Text.slice, List.drop_left]
    refine List.take_of_length_le ?_
    rw [List.length_append]
    omega
  have hshift : (partEdit? values p).map (shiftEdit ([] : Text).length) = partEdit? values p := by
    cases partEdit? values p <;> rfl
  rw [hshift, List.append_nil, List.length_nil, Nat.zero_add, hback] at hpart
  rw [rewritePart, hedit, hpart, rewritePart]

/-- A list ends with a comma only when its last part is empty. -/
theorem eq_nil_of_last_comma {init : List Text} {last : Text} (h : IsChunk last)
    (hcomma : (Text.join [','] (init ++ [last])).getLast? = some ',') : last = [] := by
  by_contra hne
  obtain ⟨c, hc⟩ := Option.ne_none_iff_exists'.1 (mt List.getLast?_eq_none_iff.1 hne)
  have hlast : (Text.join [','] (init ++ [last])).getLast? = some c := by
    cases init with
    | nil => exact hc
    | cons p init =>
      rw [join_append (List.cons_ne_nil _ _) (List.cons_ne_nil _ _), Text.join_singleton,
        List.getLast?_append, hc, Option.some_or]
  rw [hcomma] at hlast
  exact h.getLast?_ne (hc.trans hlast.symm)

/-- **A rewritten list is made of parts.** -/
theorem exists_rewritten {Good : Text → Prop} (hv : SettingEntries values)
    (hgood : KeptBy values Good) {ps : List Text} (hne : ps ≠ []) (hps : ∀ p ∈ ps, Good p) :
    ∃ old fresh, rewriteSettings (Text.join [','] ps) values
        = Text.join [','] (old.map (rewritePart values) ++ fresh) ∧
      RewrittenList values Good ps old fresh := by
  obtain ⟨init, last, b, rfl, hb, hlast⟩ := exists_last hne
  have hinit : ∀ p ∈ init, Good p := fun p hp => hps p (List.mem_append_left _ hp)
  have hend : Good last :=
    hgood.blanks (hps _ (List.mem_append_right _ (List.mem_singleton.2 rfl))) hb
  have hold : ∀ p ∈ init ++ [last], Good p := by
    intro p hp
    rcases List.mem_append.1 hp with hp | hp
    · exact hinit p hp
    · rwa [List.mem_singleton.1 hp]
  have hitems : (init ++ [last]).filterMap itemText?
      = (init ++ [last ++ b]).filterMap itemText? := by
    rw [List.filterMap_append, List.filterMap_append, List.filterMap_cons, List.filterMap_cons,
      itemText?_append_blank last hb]
  have hmissing : missing values (init ++ [last]) = missing values (init ++ [last ++ b]) := by
    have hkey : keyValue? (last ++ b) = keyValue? last := by
      rw [keyValue?_eq_itemText?, itemText?_append_blank last hb, keyValue?_eq_itemText?]
    rw [missing, missing, List.filterMap_append, List.filterMap_append, List.filterMap_cons,
      List.filterMap_cons, hkey]
  rw [rewriteSettings_eq hv (fun p hp => hgood.chunk (hps p hp)) hb hlast, addition, newSettings,
    hmissing]
  generalize hes : missing values (init ++ [last ++ b]) = es
  have hmem : ∀ e ∈ es, e ∈ values := by
    rw [← hes]
    exact fun e he => (List.mem_filter.1 he).1
  cases es with
  | nil =>
    -- Nothing is written behind the list.
    refine ⟨init ++ [last ++ b], [], ?_, by simp, hps, rfl, by simp, hes.symm⟩
    rw [List.append_nil, List.map_append, List.map_append, List.map_singleton, List.map_singleton,
      rewritePart_append_blank values last hb, join_last]
    simp
  | cons e es =>
    have hnew : e :: es ≠ [] := List.cons_ne_nil _ _
    have hnonempty : ∀ lead, freshParts lead b (e :: es) ≠ [] := by
      intro lead
      cases es <;> simp [freshParts]
    have hspec := freshParts_spec hv hgood hmem allBlank_space hb
    rw [if_neg (by simp), separator]
    by_cases hempty : Text.join [','] (init ++ [last]) = []
    · -- The list is empty but for blanks.
      obtain ⟨rfl, rfl⟩ : init = [] ∧ last = [] := by
        cases init with
        | nil => exact ⟨rfl, hempty⟩
        | cons p init =>
          rw [join_append (List.cons_ne_nil _ _) (List.cons_ne_nil _ _)] at hempty
          simp at hempty
      have hfirst := freshParts_spec hv hgood hmem allBlank_nil hb
      refine ⟨[], freshParts [] b (e :: es), ?_, hnonempty _, by simp, hitems, hfirst.1,
        hfirst.2.trans hes.symm⟩
      rw [List.map_nil, List.nil_append, List.nil_append, join_freshParts [] b hnew]
      rfl
    · rw [if_neg (by simpa using hempty)]
      by_cases hcomma : (Text.join [','] (init ++ [last])).getLast? = some ','
      · -- The comma in front of the new settings is there already.
        obtain rfl := eq_nil_of_last_comma (hgood.chunk hend) hcomma
        have hinit' : init ≠ [] := by
          rintro rfl
          exact hempty rfl
        have hold' : init.filterMap itemText? = (init ++ [[] ++ b]).filterMap itemText? := by
          rw [← hitems, List.filterMap_append]
          exact (List.append_nil _).symm
        have hnil : rewritePart values [] = [] := rfl
        rw [if_pos hcomma]
        refine ⟨init, freshParts [' '] b (e :: es), ?_, by simp [hnonempty], hinit, hold', hspec.1,
          hspec.2.trans hes.symm⟩
        rw [List.map_append, List.map_singleton, hnil,
          join_append (by simpa using hinit') (by simp),
          join_append (by simpa using hinit') (hnonempty _), join_freshParts [' '] b hnew]
        simp
      · rw [if_neg hcomma]
        refine ⟨init ++ [last], freshParts [' '] b (e :: es), ?_, by simp, hold, hitems, hspec.1,
          hspec.2.trans hes.symm⟩
        rw [join_append (by simp) (hnonempty _), join_freshParts [' '] b hnew]
        simp

/-- Parts that lack no setting and that a writing leaves alone make a list that it leaves alone. -/
theorem rewriteSettings_self (hv : SettingEntries values) {qs : List Text} (hne : qs ≠ [])
    (hqs : ∀ q ∈ qs, IsChunk q) (hmissing : missing values qs = [])
    (hagain : ∀ q ∈ qs, rewritePart values q = q) :
    rewriteSettings (Text.join [','] qs) values = Text.join [','] qs := by
  obtain ⟨init, last, b, rfl, hb, hlast⟩ := exists_last hne
  -- The last part is split into its text and the blanks behind it.
  have hentry : keyValue? (last ++ b) = keyValue? last := by
    rw [keyValue?, partItem?_append_blank last hb, keyValue?]
  have hnone : missing values (init ++ [last]) = [] := by
    rw [← hmissing, missing, missing, List.filterMap_append, List.filterMap_append,
      List.filterMap_cons, List.filterMap_cons, hentry]
  -- The last part is left alone without its blanks, too.
  have hself : rewritePart values last = last := by
    have hend := hagain (last ++ b) (List.mem_append_right _ (List.mem_singleton.2 rfl))
    rwa [rewritePart_append_blank values last hb, List.append_left_inj] at hend
  have hmap : (init ++ [last]).map (rewritePart values) = init ++ [last] := by
    rw [List.map_append, List.map_singleton, hself,
      List.map_congr_left fun p hp => hagain p (List.mem_append_left _ hp), List.map_id']
  rw [rewriteSettings_eq hv hqs hb hlast, hmap, addition, hnone, if_pos (by rfl), List.append_nil,
    ← join_last]

namespace RewrittenList

variable {Good : Text → Prop} {ps old fresh : List Text}

/-- **The map of a rewritten list** is the old one with the values written into it. -/
theorem parseSettings_eq (hv : SettingEntries values) (hgood : KeptBy values Good) (hne : ps ≠ [])
    (hps : ∀ p ∈ ps, Good p) (h : RewrittenList values Good ps old fresh) :
    parseSettings (Text.join [','] (old.map (rewritePart values) ++ fresh))
      = (parseSettings (Text.join [','] ps)).update values := by
  rw [parseSettings_join (by simpa using h.ne_nil) fun q hq => hgood.chunk (h.good hv hgood q hq),
    parseSettings_join hne fun p hp => hgood.chunk (hps p hp), h.entries hv, SchemaDiagram.missing,
    OrderedMap.ofList_overlay_append _ hv.nodup]

/-- **A rewritten list** is left alone by a second rewriting. -/
theorem rewriteSettings_again (hv : SettingEntries values) (hgood : KeptBy values Good)
    (h : RewrittenList values Good ps old fresh) :
    rewriteSettings (Text.join [','] (old.map (rewritePart values) ++ fresh)) values
      = Text.join [','] (old.map (rewritePart values) ++ fresh) :=
  rewriteSettings_self hv (by simpa using h.ne_nil)
    (fun q hq => hgood.chunk (h.good hv hgood q hq)) (h.missing_eq_nil hv) (h.again hv)

end RewrittenList

/-- What holds of a rewritten list. -/
structure RewrittenSettings (values : OrderedMap Text) (old new : Text) : Prop where
  /-- It is well formed. -/
  isList : IsList new
  /-- It says what it said, with the values written into it. -/
  settings : parseSettings new = (parseSettings old).update values
  /-- A second rewriting leaves it alone. -/
  again : rewriteSettings new values = new
  /-- It is quiet when it was quiet. -/
  quiet : isQuiet (tokenize old) = true → isQuiet (tokenize new) = true

/-- **A rewritten list** is well formed, says what it said with the values written into it, and is
left alone by a second rewriting. -/
theorem rewriteSettings_spec (hv : PlainEntries values) {old : Text} (h : IsList old) :
    RewrittenSettings values old (rewriteSettings old values) := by
  obtain ⟨ps, hne, rfl, hps⟩ := h.exists_parts
  have hv' := hv.settingEntries
  obtain ⟨old, fresh, hnew, hlist⟩ := exists_rewritten hv' hv.keptBy hne hps
  rw [hnew]
  refine ⟨isList_join (hlist.good hv' hv.keptBy), hlist.parseSettings_eq hv' hv.keptBy hne hps,
    hlist.rewriteSettings_again hv' hv.keptBy, fun hquiet => ?_⟩
  -- Quiet parts are a kind of their own.
  rw [isQuiet_join hps, List.all_eq_true] at hquiet
  obtain ⟨old', fresh', hnew', hlist'⟩ :=
    exists_rewritten hv' hv.keptBy_quiet hne fun p hp => ⟨hps p hp, hquiet p hp⟩
  have hgood := hlist'.good hv' hv.keptBy_quiet
  rw [← hnew, hnew', isQuiet_join fun q hq => (hgood q hq).1, List.all_eq_true]
  exact fun q hq => (hgood q hq).2

end

end SchemaDiagram
