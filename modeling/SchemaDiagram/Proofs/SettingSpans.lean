import SchemaDiagram.Proofs.Places
import SchemaDiagram.Proofs.Rewriting

/-! # Where the items of a settings list stand

The items of a list stand in it one behind the other, with a comma that separates them between any
two, and what stands in no item is blank or such a comma. An edit finds a value again by its span,
so the spans of an item, of its key and of its value are exact: they are told from three origins
(the list, its part, the text behind the colon), and moved by the offset at which the list stands.
All of this holds of every text, also of one in which a quote or a bracket is left open.

* **`SeparatesAt s i`** — the commas that separate items.
* **`IsSplitting`** — how the items stand in the list; one part (`isSplitting_part`), and a part
  before a list (`IsSplitting.comma`).
* **`SettingItem.IsExact`** — what stands at the spans of an item; `IsExact.shift` moves it.
* **`splitSettings_shift`** — the offset of the list does no more than move the spans. -/

namespace SchemaDiagram

open SplitState (outside)

/-! ## Commas that separate -/

/-- At the offset stands a comma, and nothing is open before it: no quote, no bracket, no
parenthesis. -/
def SeparatesAt (s : Text) (i : Nat) : Prop := s[i]? = some ',' ∧ ReadsOut (s.take i)

instance (s : Text) (i : Nat) : Decidable (SeparatesAt s i) := inferInstanceAs (Decidable (_ ∧ _))

section

variable {p s : Text} {i : Nat}

/-- No comma separates inside a text that is passed. -/
theorem not_separatesAt_of_pass? {st : SplitState} (h : outside.pass? p = some st) :
    ¬ SeparatesAt p i := by
  rintro ⟨hcomma, hread⟩
  obtain ⟨hi, hget⟩ := List.getElem?_eq_some_iff.1 hcomma
  rw [← List.take_append_drop i p, SplitState.pass?_append, Option.bind_eq_some_iff] at h
  obtain ⟨st', hfront, hback⟩ := h
  obtain rfl : outside = st' := hread.symm.trans (SplitState.foldl_of_pass? hfront)
  rw [List.drop_eq_getElem_cons hi, hget, SplitState.pass?, if_pos ⟨rfl, rfl⟩] at hback
  cases hback

/-- The comma behind a chunk separates. -/
theorem IsChunk.separatesAt (hp : IsChunk p) (s : Text) : SeparatesAt (p ++ ',' :: s) p.length := by
  refine ⟨by simp, ?_⟩
  rw [List.take_left]
  exact hp.readsOut

/-- **Before the comma behind a chunk no comma separates**, and behind it the same ones do as in the
text that stands there. -/
theorem IsChunk.separatesAt_comma (hp : IsChunk p) :
    SeparatesAt (p ++ ',' :: s) i ↔ i = p.length ∨ ∃ j, i = p.length + 1 + j ∧ SeparatesAt s j := by
  have hbehind (j : Nat) : SeparatesAt (p ++ ',' :: s) (p.length + 1 + j) ↔ SeparatesAt s j := by
    rw [← List.singleton_append, ← List.append_assoc, SeparatesAt, SeparatesAt,
      show p.length + 1 = (p ++ [',']).length by simp,
      List.getElem?_append_right (Nat.le_add_right ..),
      Nat.add_sub_cancel_left, List.take_length_add_append, ReadsOut, List.foldl_append,
        List.foldl_append,
      hp.readsOut]
    exact Iff.rfl
  rcases Nat.lt_trichotomy i p.length with hi | rfl | hi
  · -- What stands before an offset of the chunk stands in the chunk.
    have hnot : ¬ SeparatesAt (p ++ ',' :: s) i :=
      fun h => not_separatesAt_of_pass? hp (i := i) <| by
      rwa [SeparatesAt, List.getElem?_append_left hi, List.take_append_of_le_length hi.le] at h
    exact ⟨fun h => absurd h hnot, by rintro (rfl | ⟨j, rfl, -⟩) <;> omega⟩
  · exact ⟨fun _ => .inl rfl, fun _ => hp.separatesAt s⟩
  · obtain ⟨j, rfl⟩ := Nat.exists_eq_add_of_le hi
    refine ⟨fun h => .inr ⟨j, rfl, (hbehind j).1 h⟩, ?_⟩
    rintro (heq | ⟨k, heq, hk⟩)
    · omega
    · obtain rfl : j = k := by omega
      exact (hbehind j).2 hk

end

/-! ## Items and what stands between them -/

/-- **Items that split a list**, where its text starts at offset `o`. -/
structure IsSplitting (o : Nat) (s : Text) (items : List SettingItem) : Prop where
  /-- Every item stands in the list. -/
  bounds : ∀ item ∈ items, o ≤ item.span.start ∧ item.span.stop ≤ o + s.length
  /-- The items stand in order, with a comma that separates them between any two. -/
  order : items.Pairwise fun a b => ∃ i, SeparatesAt s i ∧ a.span.stop ≤ o + i ∧
    o + i < b.span.start
  /-- What stands in no item is blank or a comma that separates. -/
  gap : ∀ (i : Nat) (c : Char), s[i]? = some c → (∀ item ∈ items, item.span.Avoids (o + i)) →
    isBlank c = true ∨ SeparatesAt s i
  /-- No item holds a comma that separates. -/
  comma : ∀ i, SeparatesAt s i → ∀ item ∈ items, item.span.Avoids (o + i)

/-- **A part has its item only.** -/
theorem isSplitting_part {p : Text} {st : SplitState} (h : outside.pass? p = some st) (o : Nat) :
    IsSplitting o p ((partItem? p).map (SettingItem.shift o)).toList := by
  cases hitem : partItem? p with
  | none =>
    exact ⟨by simp, .nil,
      fun i c hc _ => .inl (allBlank_of_partItem? hitem c (List.mem_of_getElem? hc)), by simp⟩
  | some item =>
    obtain ⟨lead, trail, hp, hlead, htrail, hspan⟩ := exists_span hitem
    have hlen : p.length = lead.length + (p.trim.length + trail.length) := by
      have hlen := congrArg List.length hp
      rwa [List.length_append, List.length_append] at hlen
    have hshift : (item.shift o).span = .behind (lead.length + o) p.trim := by
      rw [SettingItem.shift, hspan, Span.shift_behind]
    refine ⟨?_, List.pairwise_singleton .., fun i c hc hgap => .inl ?_,
      fun i hi => absurd hi (not_separatesAt_of_pass? h)⟩
    · simp only [Option.map_some, Option.toList_some, List.mem_singleton, forall_eq, hshift,
        Span.behind]
      omega
    · have havoids := hgap _ (List.mem_singleton.2 rfl)
      rw [hshift, Span.avoids_behind] at havoids
      -- A character outside the span stands in the blanks before it or in those behind it.
      rw [hp] at hc
      by_cases hi : i < lead.length
      · rw [List.getElem?_append_left hi] at hc
        exact hlead c (List.mem_of_getElem? hc)
      · rw [List.getElem?_append_right (by omega), List.getElem?_append_right (by omega)] at hc
        exact htrail c (List.mem_of_getElem? hc)

/-- **A part before a list**: its item is the first one. -/
theorem IsSplitting.comma_append {p s : Text} {o : Nat} {first rest : List SettingItem}
    (hp : IsChunk p) (h : IsSplitting o p first) (hs : IsSplitting (o + p.length + 1) s rest) :
    IsSplitting o (p ++ ',' :: s) (first ++ rest) where
  bounds item hitem := by
    rw [List.length_append, List.length_cons]
    rcases List.mem_append.1 hitem with hitem | hitem
    · have := h.bounds item hitem
      omega
    · have := hs.bounds item hitem
      omega
  order := by
    -- Two items of the part would need a comma that separates in it; one of each side have the
    -- comma between them.
    refine List.pairwise_append.2 ⟨?_, ?_, fun a ha b hb => ?_⟩
    · refine h.order.imp fun {a b} ⟨i, hi, _⟩ => absurd hi (not_separatesAt_of_pass? hp)
    · refine hs.order.imp fun {a b} ⟨i, hi, hle, hlt⟩ => ?_
      exact ⟨p.length + 1 + i, hp.separatesAt_comma.2 (.inr ⟨i, rfl, hi⟩), by omega, by omega⟩
    · have hstop := (h.bounds a ha).2
      have hstart := (hs.bounds b hb).1
      exact ⟨p.length, hp.separatesAt s, by omega, by omega⟩
  gap i c hc hgap := by
    -- The character stands in the part, is the comma behind it, or stands in the rest of the list.
    rcases Nat.lt_trichotomy i p.length with hi | rfl | hi
    · rw [List.getElem?_append_left hi] at hc
      refine (h.gap i c hc fun item hitem =>
        hgap item (List.mem_append_left _ hitem)).imp_right fun hsep => ?_
      exact absurd hsep (not_separatesAt_of_pass? hp)
    · exact .inr (hp.separatesAt s)
    · obtain ⟨j, rfl⟩ := Nat.exists_eq_add_of_le hi
      have hj : s[j]? = some c := by
        rwa [List.getElem?_append_right (by omega), Nat.succ_eq_add_one, Nat.add_assoc,
          Nat.add_sub_cancel_left, Nat.add_comm 1, List.getElem?_cons_succ] at hc
      refine (hs.gap j c hj fun item hitem => ?_).imp_right fun hsep =>
        hp.separatesAt_comma.2 (.inr ⟨j, rfl, hsep⟩)
      have havoids := hgap item (List.mem_append_right _ hitem)
      rwa [Nat.succ_eq_add_one, ← Nat.add_assoc, ← Nat.add_assoc] at havoids
  comma i hi item hitem := by
    rcases hp.separatesAt_comma.1 hi with rfl | ⟨j, rfl, hj⟩
    · rcases List.mem_append.1 hitem with hitem | hitem
      · exact .inr (h.bounds item hitem).2
      · exact .inl (by have := (hs.bounds item hitem).1; omega)
    · rcases List.mem_append.1 hitem with hitem | hitem
      · exact .inr (by have := (h.bounds item hitem).2; omega)
      · have havoids := hs.comma j hj item hitem
        rwa [← Nat.add_assoc, ← Nat.add_assoc]

/-- The items of the parts of a text split it. -/
theorem CutsInto.isSplitting {s : Text} {ps : List Text} (h : CutsInto s ps) (o : Nat) :
    IsSplitting o s (itemsFrom o ps) := by
  induction h generalizing o with
  | last h =>
    rw [itemsFrom, itemsFrom, List.append_nil]
    exact isSplitting_part h o
  | comma hp _ ih => exact (isSplitting_part hp o).comma_append hp (ih _)

/-! ## What stands at the spans -/

namespace SettingItem

/-- **A value and its key**, where the value stands at the span: blanks and one colon stand between
them. -/
structure IsKeyed (item : SettingItem) (span : Span) (source : Text) : Prop where
  /-- The value is what stands at its span. -/
  value : item.value = span.slice source
  /-- The key stands in the item. -/
  keyWithin : item.keySpan.Within item.span
  /-- The value stands in the item. -/
  valueWithin : span.Within item.span
  /-- Between them stands the first colon of the item outside quotes, with blanks around it. -/
  between : ∃ before after, AllBlank before ∧ AllBlank after ∧
    (Span.mk item.keySpan.stop span.start).slice source = before ++ ':' :: after ∧
    firstColon? none (item.span.slice source) = some (item.keySpan.length + before.length)

/-- **The spans of an item of a text.** -/
structure IsExact (item : SettingItem) (source : Text) : Prop where
  /-- The item has characters. -/
  nonempty : item.span.start < item.span.stop
  /-- The item stands in the text. -/
  inside : item.span.stop ≤ source.length
  /-- No blank stands at the ends of the item. -/
  trimmed : Trimmed (item.span.slice source)
  /-- The key is what stands at its span, in small letters with single spaces. -/
  key : item.key = normalizeKey (item.keySpan.slice source)
  /-- A flag is its key, and holds no colon outside quotes. -/
  flag : item.valueSpan = none → item.keySpan = item.span ∧ item.value = "true" ∧
    firstColon? none (item.span.slice source) = none
  /-- Any other item is a key and a value. -/
  valued : ∀ span ∈ item.valueSpan, item.IsKeyed span source

/-- A stretch of a text that stands in another one. -/
theorem slice_shift_inside {p : Text} {span : Span} (h : span.stop ≤ p.length) (a b : Text) :
    (span.shift a.length).slice (a ++ (p ++ b)) = span.slice p := by
  rw [Span.slice, Span.shift, Nat.add_comm span.start, Nat.add_comm span.stop]
  exact Text.slice_inside rfl h

variable {item : SettingItem} {p : Text}

/-- A key and its value go with the text. -/
theorem IsKeyed.shift {span : Span} (h : item.IsKeyed span p) (hin : item.span.stop ≤ p.length)
    (a b : Text) :
    (item.shift a.length).IsKeyed (span.shift a.length) (a ++ (p ++ b)) := by
  obtain ⟨before, after, hbefore, hafter, hbetween, hcolon⟩ := h.between
  have hstop := h.valueWithin.2.2.trans hin
  have hstart : (Span.mk item.keySpan.stop span.start).stop ≤ p.length :=
    h.valueWithin.2.1.trans hstop
  refine ⟨?_, h.keyWithin.shift _, h.valueWithin.shift _, before, after, hbefore, hafter, ?_, ?_⟩
  · exact h.value.trans (slice_shift_inside hstop a b).symm
  · -- So is what stands between the key and the value.
    exact (slice_shift_inside hstart a b).trans hbetween
  · -- The colon stands as far behind the start as before.
    have hlen : (item.keySpan.shift a.length).length = item.keySpan.length :=
      Nat.add_sub_add_right ..
    change firstColon? none ((item.span.shift a.length).slice (a ++ (p ++ b)))
      = some ((item.keySpan.shift a.length).length + before.length)
    rw [slice_shift_inside hin, hlen, hcolon]

/-- The key stands in the item. -/
theorem IsExact.keyWithin (h : item.IsExact p) : item.keySpan.Within item.span := by
  cases hvalue : item.valueSpan with
  | none =>
    rw [(h.flag hvalue).1]
    exact ⟨Nat.le_refl _, h.nonempty.le, Nat.le_refl _⟩
  | some span => exact (h.valued span hvalue).keyWithin

/-- **What stands at the spans goes with the text.** -/
theorem IsExact.shift (h : item.IsExact p) (a b : Text) :
    (item.shift a.length).IsExact (a ++ (p ++ b)) := by
  have hspan : (item.span.shift a.length).slice (a ++ (p ++ b)) = item.span.slice p :=
    slice_shift_inside h.inside a b
  have hkey : (item.keySpan.shift a.length).slice (a ++ (p ++ b)) = item.keySpan.slice p :=
    slice_shift_inside (h.keyWithin.2.2.trans h.inside) a b
  refine ⟨Nat.add_lt_add_right h.nonempty _, ?_, hspan ▸ h.trimmed, ?_, fun hnone => ?_,
    fun moved hmoved => ?_⟩
  · have hinside := h.inside
    change item.span.stop + a.length ≤ _
    rw [List.length_append, List.length_append]
    omega
  · exact h.key.trans (congrArg normalizeKey hkey.symm)
  · -- A flag has no colon, here or there.
    obtain ⟨hsame, hvalue, hcolon⟩ := h.flag (Option.map_eq_none_iff.1 hnone)
    exact ⟨congrArg (Span.shift · a.length) hsame, hvalue,
      (congrArg (firstColon? none) hspan).trans hcolon⟩
  · -- A value moves as a keyed item does.
    obtain ⟨span, hvalue, rfl⟩ := Option.map_eq_some_iff.1 hmoved
    exact (h.valued span hvalue).shift h.inside a b

end SettingItem

/-- The item of a flag is exact. -/
theorem isExact_flag {lead core trail : Text} (hc : Trimmed core) (hne : core ≠ [])
    (hcolon : firstColon? none core = none) :
    SettingItem.IsExact ⟨normalizeKey core, "true", .behind lead.length core,
    .behind lead.length core, none⟩
      (lead ++ (core ++ trail)) := by
  have hslice : (Span.behind lead.length core).slice (lead ++ (core ++ trail)) = core :=
    slice_behind rfl rfl
  refine ⟨Nat.lt_add_of_pos_right (List.length_pos_iff.2 hne), ?_, ?_, ?_, fun _ => ⟨rfl, rfl, ?_⟩,
    fun _ hspan => nomatch hspan⟩
  · simp only [Span.behind, List.length_append]
    omega
  · rwa [hslice]
  · rw [hslice]
  · rwa [hslice]

/-- The item of a key and a value is exact. -/
theorem Keyed.isExact {lead key gap value trail : Text} (hk : Keyed lead key gap value trail) :
    SettingItem.IsExact ⟨normalizeKey key.trim, value,
        .behind lead.length (key ++ ':' :: (gap ++ value)), .behind lead.length key.trim,
        some (.behind (lead.length + key.length + 1 + gap.length) value)⟩
      (keyedText lead key gap value trail) := by
  obtain ⟨blanks, hkey, hblanks, -⟩ := hk.exists_key
  have hlen : key.length = key.trim.length + blanks.length := by
    rw [← List.length_append, ← hkey]
  -- What stands at the spans of the item, of its key, of its value, and between the two.
  have hspan :
    (Span.behind lead.length (key ++ ':' :: (gap ++ value))).slice
    (keyedText lead key gap value trail)
      = key ++ ':' :: (gap ++ value) := slice_behind rfl rfl
  have hkeySpan : (Span.behind lead.length key.trim).slice (keyedText lead key gap value trail)
      = key.trim := by
    refine slice_behind (a := lead) (b := blanks ++ (':' :: (gap ++ value) ++ trail)) ?_ rfl
    rw [← List.append_assoc key.trim, ← hkey, keyedText, List.append_assoc key]
  have hvalueSpan : (Span.behind (lead.length + key.length + 1 + gap.length) value).slice
      (keyedText lead key gap value trail) = value := by
    refine slice_behind (a := lead ++ key ++ [':'] ++ gap) (b := trail) ?_ ?_
    · simp [keyedText]
    · simp only [List.length_append, List.length_singleton]
  have hbetween : (Span.behind (lead.length + key.trim.length) (blanks ++ ':' :: gap)).slice
      (keyedText lead key gap value trail) = blanks ++ ':' :: gap := by
    refine slice_behind (a := lead ++ key.trim) (b := value ++ trail) ?_ ?_
    · calc keyedText lead key gap value trail
          = lead ++ ((key.trim ++ blanks) ++ ':' :: (gap ++ value) ++ trail) := by
            rw [← hkey, keyedText]
        _ = lead ++ key.trim ++ ((blanks ++ ':' :: gap) ++ (value ++ trail)) := by simp
    · rw [List.length_append]
  refine ⟨?_, ?_, ?_, ?_, fun hnone => absurd hnone (Option.some_ne_none _),
    fun span hsome => ?_⟩
  · refine Nat.lt_add_of_pos_right ?_
    rw [List.length_append, List.length_cons]
    omega
  · simp only [Span.behind, keyedText, List.length_append]
    omega
  · rw [hspan]
    exact hk.trimmed_core
  · rw [hkeySpan]
  · obtain rfl := Option.some.inj hsome
    refine ⟨hvalueSpan.symm, ?_, ?_, blanks, gap, hblanks, hk.blank_gap, ?_, ?_⟩
    · simp only [Span.Within, Span.behind, List.length_append, List.length_cons]
      omega
    · simp only [Span.Within, Span.behind, List.length_append, List.length_cons]
      omega
    · rw [← hbetween]
      congr 1
      simp only [Span.behind, List.length_append, List.length_cons, Span.mk.injEq, true_and]
      omega
    · rw [hspan, firstColon?_append hk.colon, Span.length_behind, hlen]

/-- **The item of a part is exact.** -/
theorem isExact_of_partItem? {p : Text} {item : SettingItem} (h : item ∈ partItem? p) :
    item.IsExact p := by
  cases Shape.of p with
  | blank hp => rw [partItem?_blank hp] at h; cases h
  | flag hl hc ht hne hcolon =>
    rw [partItem?_flag hl hc ht hne hcolon] at h
    cases h
    exact isExact_flag hc hne hcolon
  | keyed hk =>
    rw [partItem?_keyed hk] at h
    cases h
    exact hk.isExact

/-! ## The items of a list -/

/-- The offset at which the list stands moves the spans of a chunk's item. -/
theorem itemOfChunk?_base (text : Text) (base : Nat) (chunk : Span) :
    itemOfChunk? text base chunk = (itemOfChunk? text 0 chunk).map (SettingItem.shift base) := by
  unfold itemOfChunk?
  dsimp only
  split
  · rfl
  · split <;> rfl

/-- **The offset at which the list stands moves the spans**, and does no more. -/
theorem splitSettings_shift (s : Text) (base : Nat) :
    splitSettings s base = (splitSettings s 0).map (SettingItem.shift base) := by
  rw [splitSettings, splitSettings, List.map_filterMap]
  congr 1
  funext chunk
  exact itemOfChunk?_base s base chunk

/-- Every item is that of a part, moved to where the part stands. -/
theorem CutsInto.exists_part {s : Text} {ps : List Text} (h : CutsInto s ps) {o : Nat}
    {item : SettingItem} (hitem : item ∈ itemsFrom o ps) :
    ∃ a p b, s = a ++ (p ++ b) ∧ ∃ part ∈ partItem? p, item = part.shift (o + a.length) := by
  induction h generalizing o with
  | @last p st _ =>
    obtain ⟨part, hpart, rfl⟩ : ∃ part, partItem? p = some part ∧ part.shift o = item := by
      simpa [itemsFrom] using hitem
    exact ⟨[], p, [], by simp, part, hpart, rfl⟩
  | @comma p s ps _ _ ih =>
    rcases List.mem_append.1 hitem with hitem | hitem
    · obtain ⟨part, hpart, rfl⟩ : ∃ part, partItem? p = some part ∧ part.shift o = item := by
        simpa using hitem
      exact ⟨[], p, ',' :: s, rfl, part, hpart, rfl⟩
    · obtain ⟨a, q, b, rfl, part, hpart, rfl⟩ := ih hitem
      refine ⟨p ++ ',' :: a, q, b, by simp, part, hpart, ?_⟩
      rw [List.length_append, List.length_cons]
      congr 1
      omega

/-- The spans of the items of a text are exact. -/
theorem CutsInto.isExact {s : Text} {ps : List Text} (h : CutsInto s ps) {item : SettingItem}
    (hitem : item ∈ itemsFrom 0 ps) : item.IsExact s := by
  obtain ⟨a, p, b, rfl, part, hpart, rfl⟩ := h.exists_part hitem
  rw [Nat.zero_add]
  exact (isExact_of_partItem? hpart).shift a b

/-- **The items of a list stand where their spans say**, at whatever offset the list stands in
whatever text. -/
theorem splitSettings_exact (s : Text) (base : Nat) :
    splitSettings s base = (splitSettings s 0).map (SettingItem.shift base) ∧
      IsSplitting base s (splitSettings s base) ∧
      ∀ front back : Text, front.length = base → ∀ item ∈ splitSettings s base,
        item.IsExact (front ++ (s ++ back)) := by
  obtain ⟨ps, hps⟩ := exists_cutsInto s
  refine ⟨splitSettings_shift s base, ?_, fun front back hfront item hitem => ?_⟩
  · rw [hps.splitSettings_eq]
    exact hps.isSplitting base
  · rw [splitSettings_shift, hps.splitSettings_eq] at hitem
    obtain ⟨unmoved, hunmoved, rfl⟩ := List.mem_map.1 hitem
    rw [← hfront]
    exact (hps.isExact hunmoved).shift front back

/-- A list with an empty part, a colon in a quote, an empty key, an empty value, and a quote that is
left open before a backslash at the end of the text. -/
def awkwardList : Text := " ,pk, Note  it : 'a, b:c' ,:x,k :,\"open,\\"

/-- The items of this list behind the name of a column and the bracket. -/
theorem splitSettings_exact_awkwardList :
    splitSettings awkwardList 4
      = [⟨"pk", "true", ⟨6, 8⟩, ⟨6, 8⟩, none⟩,
        ⟨"note it", "'a, b:c'", ⟨10, 29⟩, ⟨10, 18⟩, some ⟨21, 29⟩⟩,
        ⟨[], "x", ⟨31, 33⟩, ⟨31, 31⟩, some ⟨32, 33⟩⟩,
        ⟨"k", [], ⟨34, 37⟩, ⟨34, 35⟩, some ⟨37, 37⟩⟩,
        ⟨"\"open,\\", "true", ⟨38, 45⟩, ⟨38, 45⟩, none⟩] ∧
    ∀ item ∈ splitSettings awkwardList 4, item.IsExact ("id [" ++ (awkwardList ++ "]")) :=
  ⟨by decide +kernel, (splitSettings_exact awkwardList 4).2.2 "id [" "]" rfl⟩

end SchemaDiagram
