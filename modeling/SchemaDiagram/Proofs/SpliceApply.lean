import Mathlib.Tactic.Lift
import SchemaDiagram.Edit.Splice

/-! # What a splice does

A splice replaces one stretch of a text and leaves what stands before it and behind it. Minimizing
it leaves out what the stretch and its replacement have in common at the start, and then at the end,
and changes nothing else. Either one of the two is used up, so that nothing is removed or nothing is
written, or what is left of them differs at both ends. No splice of the text does the same with less
in either case, however often the texts repeat themselves.

* **`Splice.apply_replacing`** — the text after a splice.
* **`Splice.exists_minimized`** — the parts of a minimized splice; `apply_minimized` says that it
  does the same.
* **`Splice.minimized_keeping`** — a stretch replaced by itself makes an empty splice.
* **`Splice.Within`** — a splice of a stretch of the text; `Within.minimized` says that minimizing
  keeps it one, and `Within.isEmpty_iff` that a minimized one is empty when it changes nothing.
* **`Splice.length_le_of_apart`** — what differs at both ends is no longer than what another splice
  removes and writes to the same effect.
* **`Splice.minimized_least`** — a minimized splice stands inside the splice, does the same, and
  does it with the fewest characters. -/

namespace SchemaDiagram

namespace Splice

/-! ## Common starts and ends -/

/-- Two texts are what they have in common at the start, and the rest of each; the rests start
differently. -/
theorem exists_commonStart (s t : Text) :
    ∃ lead s' t', s = lead ++ s' ∧ t = lead ++ t' ∧ commonStart s t = lead.length ∧
      ∀ c ∈ s'.head?, c ∉ t'.head? := by
  fun_induction commonStart s t with
  -- The first characters are the same, and the common start goes on.
  | case1 s a t ih =>
    obtain ⟨lead, s', t', rfl, rfl, hlen, hdiff⟩ := ih
    exact ⟨a :: lead, s', t', rfl, rfl, by rw [hlen, List.length_cons], hdiff⟩
  -- They differ, so the rests do.
  | case2 a s b t hne =>
    refine ⟨[], a :: s, b :: t, rfl, rfl, rfl, fun c hc hc' => hne ?_⟩
    exact (Option.some.inj hc).trans (Option.some.inj hc').symm
  -- One of the texts is used up.
  | case3 s t hnot =>
    refine ⟨[], s, t, rfl, rfl, rfl, fun c hc hc' => ?_⟩
    obtain ⟨s, rfl⟩ := List.head?_eq_some_iff.1 hc
    obtain ⟨t, rfl⟩ := List.head?_eq_some_iff.1 hc'
    exact hnot c s c t rfl rfl

/-- Two texts are the rest of each, and what they have in common at the end; the rests end
differently. -/
theorem exists_commonEnd (s t : Text) :
    ∃ s' t' tail, s = s' ++ tail ∧ t = t' ++ tail ∧ commonEnd s t = tail.length ∧
      ∀ c ∈ s'.getLast?, c ∉ t'.getLast? := by
  obtain ⟨lead, s', t', hs, ht, hlen, hdiff⟩ := exists_commonStart s.reverse t.reverse
  refine ⟨s'.reverse, t'.reverse, lead.reverse, ?_, ?_, ?_, ?_⟩
  · rw [← List.reverse_append, ← hs, List.reverse_reverse]
  · rw [← List.reverse_append, ← ht, List.reverse_reverse]
  · rw [commonEnd, hlen, List.length_reverse]
  · rwa [List.getLast?_reverse, List.getLast?_reverse]

/-! ## Splices inside a text -/

/-- The splice that writes `new` in place of `old` behind `ahead`. -/
def replacing (ahead old new : Text) : Splice := ⟨ahead.length, ↑(ahead.length + old.length), new⟩

section

variable {source ahead old behind : Text} (h : source = ahead ++ (old ++ behind)) (new : Text)

include h

/-- The text ahead stops at its place. -/
theorem place_ahead : source.place ahead.length = ahead.length := by
  refine place_natCast ?_
  rw [h, List.length_append]
  omega

/-- The replaced text stops at its place. -/
theorem place_old : source.place ↑(ahead.length + old.length) = ahead.length + old.length := by
  refine place_natCast ?_
  rw [h, List.length_append, List.length_append]
  omega

/-- **The text after a splice.** -/
theorem apply_replacing : (replacing ahead old new).apply source = ahead ++ (new ++ behind) := by
  have htake : source.take ahead.length = ahead := by rw [h, List.take_left]
  have hdrop : source.drop (ahead.length + old.length) = behind := by
    rw [h, ← List.append_assoc, ← List.length_append, List.drop_left]
  rw [replacing, apply, place_ahead h, place_old h, htake, hdrop, List.append_assoc]

/-- **The parts of a minimized splice**: what the stretch and its replacement have in common at
either end is left out, and what is left differs at both ends. -/
theorem exists_minimized :
    ∃ lead old' new' tail, old = lead ++ (old' ++ tail) ∧ new = lead ++ (new' ++ tail) ∧
      (replacing ahead old new).minimized source = replacing (ahead ++ lead) old' new' ∧
      (∀ c ∈ old'.head?, c ∉ new'.head?) ∧ ∀ c ∈ old'.getLast?, c ∉ new'.getLast? := by
  have hold : source.slice (source.place ahead.length) (source.place ↑(ahead.length + old.length))
      = old := by
    rw [place_ahead h, place_old h, Text.slice, Nat.add_sub_cancel_left, h, List.drop_left,
      List.take_left]
  -- First the common start is left out, then the common end of what is left.
  obtain ⟨lead, s, t, hs, ht, hlead, hstart⟩ := exists_commonStart old new
  obtain ⟨old', new', tail, hold', hnew', htail, hdiff⟩ := exists_commonEnd s t
  -- The rests start differently, and what is left starts as they do.
  have hhead : ∀ c ∈ old'.head?, c ∉ new'.head? := by
    intro c hc hc'
    refine hstart c ?_ ?_
    · rw [hold', List.head?_append, Option.mem_def.1 hc, Option.some_or]
      exact Option.mem_some_self c
    · rw [hnew', List.head?_append, Option.mem_def.1 hc', Option.some_or]
      exact Option.mem_some_self c
  refine ⟨lead, old', new', tail, by rw [hs, hold'], by rw [ht, hnew'], ?_, hhead, hdiff⟩
  have hdrop₁ : old.drop lead.length = s := by rw [hs, List.drop_left]
  have hdrop₂ : new.drop lead.length = t := by rw [ht, List.drop_left]
  have hnew : t.take (t.length - tail.length) = new' := by
    rw [hnew', List.length_append, Nat.add_sub_cancel, List.take_left]
  have hlen : old.length = lead.length + old'.length + tail.length := by
    rw [hs, hold', List.length_append, List.length_append, Nat.add_assoc]
  simp only [replacing, minimized, hold, hlead, hdrop₁, hdrop₂, htail, hnew, Splice.mk.injEq,
    List.length_append, and_true]
  omega

/-- **A minimized splice does the same.** -/
theorem apply_minimized :
    ((replacing ahead old new).minimized source).apply source = ahead ++ (new ++ behind) := by
  obtain ⟨lead, old', new', tail, hold, hnew, heq, -⟩ := exists_minimized h new
  have hsource : source = (ahead ++ lead) ++ (old' ++ (tail ++ behind)) := by
    rw [h, hold]
    simp only [List.append_assoc]
  rw [heq, apply_replacing hsource, hnew]
  simp only [List.append_assoc]

omit new

/-- **A stretch replaced by itself** makes an empty splice. -/
theorem minimized_keeping : ((replacing ahead old old).minimized source).isEmpty = true := by
  obtain ⟨lead, old', new', tail, hold, hnew, heq, -, hdiff⟩ := exists_minimized h old
  obtain rfl : old' = new' := by
    rw [hold, List.append_cancel_left_eq] at hnew
    exact List.append_cancel_right hnew
  obtain rfl : old' = [] := by
    cases hlast : old'.getLast? with
    | none => exact List.getLast?_eq_none_iff.1 hlast
    | some c => exact absurd hlast (hdiff c hlast)
  rw [heq, isEmpty, isInsert, replacing]
  simp

/-- Other characters at a stretch make another text. -/
theorem replacing_eq_self_iff {new : Text} : ahead ++ (new ++ behind) = source ↔ new = old := by
  rw [h, List.append_cancel_left_eq, List.append_cancel_right_eq]

end

/-! ## Splices of a stretch of a text -/

/-- The splice replaces a stretch of the text. -/
structure Within (s : Splice) (source : Text) : Prop where
  /-- The stretch starts in the text. -/
  start : 0 ≤ s.start
  /-- It does not end before it starts. -/
  order : s.start ≤ s.stop
  /-- It ends in the text. -/
  stop : s.stop ≤ source.length

namespace Within

variable {s : Splice} {source : Text}

/-- A splice of a stretch writes something in place of what stands there. -/
theorem exists_replacing (h : s.Within source) :
    ∃ ahead old behind, source = ahead ++ (old ++ behind) ∧ s = replacing ahead old s.text := by
  have hstart := h.start
  have horder := h.order
  have hstop := h.stop
  obtain ⟨start, stop, text⟩ := s
  dsimp only at *
  lift start to Nat using hstart
  lift stop to Nat using by omega
  refine ⟨source.take start, (source.drop start).take (stop - start), source.drop stop, ?_, ?_⟩
  · -- The text falls into what is ahead of the stretch, the stretch and what is behind.
    have hdrop : source.drop stop = (source.drop start).drop (stop - start) := by
      rw [List.drop_drop]
      congr 1
      omega
    rw [hdrop, List.take_append_drop, List.take_append_drop]
  · have hold : ((source.drop start).take (stop - start)).length = stop - start := by
      rw [List.length_take, List.length_drop]
      omega
    have hahead : (source.take start).length = start := by
      rw [List.length_take]
      omega
    simp only [replacing, hold, hahead, Splice.mk.injEq, and_true, true_and]
    omega

/-- A splice that replaces a part of a text stays within the text. -/
theorem of_replacing {ahead old behind : Text} (h : source = ahead ++ (old ++ behind))
    (new : Text) :
    (replacing ahead old new).Within source := by
  have hlen := congrArg List.length h
  simp only [List.length_append] at hlen
  refine ⟨?_, ?_, ?_⟩ <;> simp only [replacing] <;> omega

/-- Minimizing a splice of a stretch makes one of a stretch inside it. -/
theorem minimized (h : s.Within source) : (s.minimized source).Within source := by
  obtain ⟨ahead, old, behind, hsource, hs⟩ := h.exists_replacing
  obtain ⟨lead, old', new', tail, hold, -, heq, -⟩ := exists_minimized hsource s.text
  rw [hs, heq]
  have hsource' : source = (ahead ++ lead) ++ (old' ++ (tail ++ behind)) := by
    rw [hsource, hold]
    simp only [List.append_assoc]
  exact of_replacing hsource' new'

/-- The text after a minimized splice is the one after the splice. -/
theorem apply_minimized (h : s.Within source) :
    (s.minimized source).apply source = s.apply source := by
  obtain ⟨ahead, old, behind, hsource, hs⟩ := h.exists_replacing
  rw [hs, Splice.apply_minimized hsource, apply_replacing hsource]

/-- **A minimized splice is empty** when it changes nothing, and only then. -/
theorem isEmpty_iff (h : s.Within source) :
    (s.minimized source).isEmpty = true ↔ (s.minimized source).apply source = source := by
  obtain ⟨ahead, old, behind, hsource, hs⟩ := h.exists_replacing
  rw [hs, Splice.apply_minimized hsource, replacing_eq_self_iff hsource]
  constructor
  · -- An empty splice leaves nothing of either text, so they are the same.
    intro hempty
    obtain ⟨lead, old', new', tail, hold, hnew, heq, -⟩ := exists_minimized hsource s.text
    rw [heq, isEmpty, isInsert, replacing, Bool.and_eq_true, decide_eq_true_eq] at hempty
    obtain ⟨hlen, hnil⟩ := hempty
    dsimp only at hlen hnil
    have hold' : old' = [] := List.length_eq_zero_iff.1 (by omega)
    rw [hold, hnew, hold', List.isEmpty_iff.1 hnil]
  · intro hsame
    rw [hsame]
    exact minimized_keeping hsource

end Within

/-! ## What a splice takes out -/

/-- How many characters of the text the splice takes out. -/
def removed (s : Splice) (source : Text) : Nat := source.place s.stop - source.place s.start

/-- A splice takes away as many characters as it replaces. -/
theorem removed_replacing {source ahead old behind : Text} (h : source = ahead ++ (old ++ behind))
    (new : Text) : (replacing ahead old new).removed source = old.length := by
  rw [removed, replacing, place_ahead h, place_old h, Nat.add_sub_cancel_left]

/-- A splice that does not end before it starts keeps a start and an end of the text. -/
theorem exists_kept {s : Splice} {source : Text} (h : source.place s.start ≤ source.place s.stop) :
    ∃ ahead old behind, source = ahead ++ (old ++ behind) ∧
      s.apply source = ahead ++ (s.text ++ behind) ∧ old.length = s.removed source := by
  have hend : source.place s.start + s.removed source = source.place s.stop := by
    rw [removed]
    omega
  refine ⟨source.take (source.place s.start),
    (source.drop (source.place s.start)).take (s.removed source),
    source.drop (source.place s.stop), ?_, by rw [apply, List.append_assoc], ?_⟩
  · rw [← hend, ← List.drop_drop, List.take_append_drop, List.take_append_drop]
  · have hstop := place_le source s.stop
    rw [List.length_take, List.length_drop]
    omega

/-! ## Where two texts differ -/

/-- What two texts have in common at the start does not go past the place where they differ. -/
theorem length_le_of_head {common p q ahead s t : Text} (hs : common ++ p = ahead ++ s)
    (ht : common ++ q = ahead ++ t) (hdiff : ∀ c ∈ s.head?, c ∉ t.head?) :
    common.length ≤ ahead.length := by
  refine Nat.le_of_not_lt fun hlt => ?_
  have hat : ∀ {r u : Text}, common ++ r = ahead ++ u → u.head? = some common[ahead.length] := by
    intro r u heq
    have hget := congrArg (·[ahead.length]?) heq
    rw [List.getElem?_append_left hlt, List.getElem?_append_right (Nat.le_refl _), Nat.sub_self,
      ← List.head?_eq_getElem?, List.getElem?_eq_getElem hlt] at hget
    exact hget.symm
  exact hdiff _ (hat hs) (hat ht)

/-- What two texts have in common at the end does not go past the place where they differ. -/
theorem length_le_of_last {common p q behind s t : Text} (hs : p ++ common = s ++ behind)
    (ht : q ++ common = t ++ behind) (hdiff : ∀ c ∈ s.getLast?, c ∉ t.getLast?) :
    common.length ≤ behind.length := by
  have hflip : ∀ {r u : Text}, r ++ common = u ++ behind →
      common.reverse ++ r.reverse = behind.reverse ++ u.reverse := by
    intro r u heq
    rw [← List.reverse_append, heq, List.reverse_append]
  have hle :=
    length_le_of_head (hflip hs) (hflip ht) (by rwa [List.head?_reverse, List.head?_reverse])
  rwa [List.length_reverse, List.length_reverse] at hle

/-- **What differs at both ends is minimal**: where a text has `old` and another one `new`, and the
two start and end differently, no stretch and replacement that make the one text from the other are
shorter. -/
theorem length_le_of_apart {ahead old new behind ahead' old' new' behind' : Text}
    (hold : ahead' ++ (old' ++ behind') = ahead ++ (old ++ behind))
    (hnew : ahead' ++ (new' ++ behind') = ahead ++ (new ++ behind))
    (hhead : ∀ c ∈ old.head?, c ∉ new.head?) (hlast : ∀ c ∈ old.getLast?, c ∉ new.getLast?) :
    old.length ≤ old'.length ∧ new.length ≤ new'.length := by
  have hkept : old = [] ∨ new = [] ∨
      ahead'.length ≤ ahead.length ∧ behind'.length ≤ behind.length := by
    by_cases hold_nil : old = []
    · exact .inl hold_nil
    by_cases hnew_nil : new = []
    · exact .inr (.inl hnew_nil)
    refine .inr (.inr ⟨length_le_of_head hold hnew ?_, ?_⟩)
    · rwa [List.head?_append, List.head?_append, Option.or_of_isSome (by simpa using hold_nil),
        Option.or_of_isSome (by simpa using hnew_nil)]
    · simp only [← List.append_assoc] at hold hnew
      refine length_le_of_last hold hnew ?_
      rwa [List.getLast?_append, List.getLast?_append,
        Option.or_of_isSome (by simpa using hold_nil),
        Option.or_of_isSome (by simpa using hnew_nil)]
  -- Any two splices to the same effect differ as much in what they remove as in what they write.
  have hold_len := congrArg List.length hold
  have hnew_len := congrArg List.length hnew
  simp only [List.length_append] at hold_len hnew_len
  rcases hkept with rfl | rfl | ⟨hahead, hbehind⟩
  · rw [List.length_nil] at hold_len ⊢
    omega
  · rw [List.length_nil] at hnew_len ⊢
    omega
  · omega

/-! ## Minimized splices -/

variable {s : Splice} {source : Text}

/-- The range of a minimized splice stands inside the range of the splice. -/
theorem Within.minimized_range (h : s.Within source) :
    s.start ≤ (s.minimized source).start ∧
      (s.minimized source).start ≤ (s.minimized source).stop ∧
      (s.minimized source).stop ≤ s.stop := by
  refine ⟨?_, h.minimized.order, ?_⟩
  · exact Int.le_add_of_nonneg_right (Int.natCast_nonneg _)
  · exact Int.sub_le_self _ (Int.natCast_nonneg _)

/-- No splice does the same as a minimized one and removes or writes less. -/
theorem Within.minimized_le (h : s.Within source) {u : Splice}
    (hu : source.place u.start ≤ source.place u.stop) (hsame : u.apply source = s.apply source) :
    (s.minimized source).removed source ≤ u.removed source ∧
      (s.minimized source).text.length ≤ u.text.length := by
  obtain ⟨ahead, old, behind, hsource, hs⟩ := h.exists_replacing
  obtain ⟨lead, old', new', tail, hold, hnew, heq, hhead, hlast⟩ := exists_minimized hsource s.text
  obtain ⟨a, p, b, hkept, happly, hp⟩ := exists_kept hu
  have hsource' : source = (ahead ++ lead) ++ (old' ++ (tail ++ behind)) := by
    rw [hsource, hold]
    simp only [List.append_assoc]
  have htarget : s.apply source = (ahead ++ lead) ++ (new' ++ (tail ++ behind)) := by
    rw [hs, apply_replacing hsource, hnew]
    simp only [List.append_assoc]
  rw [hs, heq, removed_replacing hsource', ← hp]
  -- What minimizing leaves differs at both ends, and `u` makes the same text from the same one.
  exact length_le_of_apart (hkept.symm.trans hsource') ((happly.symm.trans hsame).trans htarget)
    hhead hlast

/-- **A minimized splice is minimal**: its range stands inside the range of the splice, it does the
same, every splice that does the same (and does not end before it starts) removes and writes at
least as many characters, and it is empty exactly when the text does not change. -/
theorem minimized_least (h : s.Within source) :
    (s.start ≤ (s.minimized source).start ∧
        (s.minimized source).start ≤ (s.minimized source).stop ∧
        (s.minimized source).stop ≤ s.stop) ∧
      (s.minimized source).apply source = s.apply source ∧
      (∀ u : Splice, source.place u.start ≤ source.place u.stop →
        u.apply source = s.apply source →
          (s.minimized source).removed source ≤ u.removed source ∧
            (s.minimized source).text.length ≤ u.text.length) ∧
      ((s.minimized source).isEmpty = true ↔ s.apply source = source) := by
  refine ⟨h.minimized_range, h.apply_minimized, fun u hu hsame => h.minimized_le hu hsame, ?_⟩
  rw [h.isEmpty_iff, h.apply_minimized]

/-- A text that repeats itself. -/
def repetition : Text := "abab"

/-- A splice that makes the repetition longer, and writes over what it could keep. -/
def prolonging : Splice := ⟨1, 3, "baba"⟩

/-- The new `ab` can stand in several places, and every splice writes two characters for it. -/
theorem minimized_least_prolonging :
    prolonging.Within repetition ∧
      repetition.place (-2) ≤ repetition.place (-1) ∧
      apply ⟨-2, -1, "aba"⟩ repetition = prolonging.apply repetition ∧
      prolonging.minimized repetition = ⟨3, 3, "ba"⟩ ∧
      (prolonging.minimized repetition).removed repetition ≤ removed ⟨-2, -1, "aba"⟩ repetition ∧
      (prolonging.minimized repetition).text.length ≤ "aba".toList.length := by
  have hwithin : prolonging.Within repetition := ⟨by decide, by decide, by decide⟩
  have hplace : repetition.place (-2) ≤ repetition.place (-1) := by decide
  have hsame : apply ⟨-2, -1, "aba"⟩ repetition = prolonging.apply repetition := by decide
  obtain ⟨hremoved, hwritten⟩ := (minimized_least hwithin).2.2.1 ⟨-2, -1, "aba"⟩ hplace hsame
  exact ⟨hwithin, hplace, hsame, by decide, hremoved, hwritten⟩

end Splice

end SchemaDiagram
