import SchemaDiagram.Declaration.Index
import SchemaDiagram.Proofs.Injections
import SchemaDiagram.Proofs.NameLists

/-! # Keys of indexes

Indexes are merged under keys: the columns in small letters, sorted, with bars between them. Neither
the order of the columns nor their case counts. Columns without bars are told by the key, so that
merging keeps an index over them. An expression may hold a bar, and then its key may be that of
other columns, whose index takes its place.

* **`Text.sort_eq_sort_iff`** — sorting tells the texts, but not their order.
* **`IndexEntry.SameColumns`** — two indexes over the same columns; `key_eq_key_iff` says that their
  keys agree and that, without bars, no others do.
* **`mergeTable_keepsIndexes`** — no index is lost to one over other columns. -/

namespace SchemaDiagram

namespace Text

/-! ## Sorted texts -/

/-- Texts are compared by their first characters, and behind the same ones by the rest. -/
theorem precedes_cons_cons {c d : Char} {s t : Text} :
    precedes (c :: s) (d :: t) = true ↔ c.toNat < d.toNat ∨ c = d ∧ precedes s t = true := by
  simp [precedes]

/-- The order of texts is transitive. -/
theorem precedes_trans {s t u : Text} (hst : precedes s t = true) (htu : precedes t u = true) :
    precedes s u = true := by
  induction s generalizing t u with
  | nil => rfl
  | cons c s ih =>
    cases t with
    | nil => cases hst
    | cons d t =>
      cases u with
      | nil => cases htu
      | cons e u =>
        rw [precedes_cons_cons] at hst htu ⊢
        -- The first characters differ in one of the two steps, or they are all the same.
        obtain hcd | ⟨rfl, hst⟩ := hst
        · obtain hde | ⟨rfl, -⟩ := htu
          · exact .inl (Nat.lt_trans hcd hde)
          · exact .inl hcd
        · exact htu.imp_right fun ⟨hce, htu⟩ => ⟨hce, ih hst htu⟩

/-- The order of texts is total. -/
theorem precedes_total (s t : Text) : precedes s t = true ∨ precedes t s = true := by
  induction s generalizing t with
  | nil => exact .inl rfl
  | cons c s ih =>
    cases t with
    | nil => exact .inr rfl
    | cons d t =>
      rw [precedes_cons_cons, precedes_cons_cons]
      obtain hlt | heq | hlt := Nat.lt_trichotomy c.toNat d.toNat
      · exact .inl (.inl hlt)
      · obtain rfl := Char.toNat_inj.1 heq
        exact (ih t).imp (fun h => .inr ⟨rfl, h⟩) fun h => .inr ⟨rfl, h⟩
      · exact .inr (.inl hlt)

/-- Texts that precede one another are the same. -/
theorem precedes_antisymm {s t : Text} (hst : precedes s t = true) (hts : precedes t s = true) :
    s = t := by
  induction s generalizing t with
  | nil =>
    cases t with
    | nil => rfl
    | cons d t => cases hts
  | cons c s ih =>
    cases t with
    | nil => cases hst
    | cons d t =>
      rw [precedes_cons_cons] at hst hts
      -- The first characters cannot be smaller both ways.
      obtain hlt | ⟨rfl, hst⟩ := hst
      · obtain hgt | ⟨rfl, -⟩ := hts
        · exact absurd hgt (Nat.lt_asymm hlt)
        · exact absurd hlt (Nat.lt_irrefl _)
      · obtain hgt | ⟨-, hts⟩ := hts
        · exact absurd hgt (Nat.lt_irrefl _)
        · rw [ih hst hts]

/-- Sorted texts are in order. -/
theorem pairwise_sort (texts : List Text) : (sort texts).Pairwise (precedes · · = true) := by
  have htrans : ∀ s t u, precedes s t = true → precedes t u = true → precedes s u = true :=
    fun _ _ _ => precedes_trans
  have htotal : ∀ s t, (precedes s t || precedes t s) = true := fun s t =>
    Bool.or_eq_true_iff.2 (precedes_total s t)
  exact List.pairwise_mergeSort htrans htotal texts

/-- **Sorting tells the texts**, but not their order. -/
theorem sort_eq_sort_iff {texts texts' : List Text} :
    sort texts = sort texts' ↔ texts.Perm texts' := by
  have hperm : ∀ l : List Text, (sort l).Perm l := fun l => List.mergeSort_perm l precedes
  refine ⟨fun h => (hperm texts).symm.trans (h ▸ hperm texts'), fun h => ?_⟩
  exact List.Perm.eq_of_pairwise (fun _ _ _ _ hst hts => precedes_antisymm hst hts)
    (pairwise_sort texts) (pairwise_sort texts') (((hperm texts).trans h).trans (hperm texts').symm)

/-- Parts without the separator are found again. -/
theorem splitOn_join {sep : Char} {parts : List Text} (hne : parts ≠ [])
    (h : ∀ p ∈ parts, sep ∉ p) :
    splitOn sep (join [sep] parts) = parts := by
  induction parts with
  | nil => exact absurd rfl hne
  | cons p ps ih =>
    obtain ⟨hp, hps⟩ := List.forall_mem_cons.1 h
    cases ps with
    | nil => exact splitOn_of_not_mem hp
    | cons q ps =>
      rw [join_cons_cons, List.append_assoc, List.singleton_append, splitOn_append,
        splitOn_of_not_mem hp, ih (List.cons_ne_nil _ _) hps]
      rfl

/-! ## Bars in small letters -/

/-- The images of a run of letters lie behind the bar, but for those of single letters. -/
theorem ne_bar_of_image? {r : CaseRun} (hr : r ∈ lowerRuns) {n m : Nat} (h : r.image? n = some m) :
    m ≠ 124 := by
  have hruns : ∀ r ∈ lowerRuns, 124 < r.image ∨ r.first = r.last ∧ r.image < 124 := by
    decide +kernel
  rw [CaseRun.image?] at h
  split at h
  next hrange =>
    obtain rfl := Option.some.inj h
    have := hruns r hr
    omega
  next => cases h

/-- The character of any other number is not the bar. -/
theorem ofNat_ne_bar {n : Nat} (hn : n ≠ 124) : Char.ofNat n ≠ '|' := by
  intro h
  by_cases hvalid : n.isValidChar
  · have hnat := congrArg Char.toNat h
    rw [Char.ofNat, dif_pos hvalid] at hnat
    exact hn hnat
  · rw [Char.ofNat, dif_neg hvalid] at h
    cases h

/-- No character but a bar has a bar as its small form. -/
theorem eq_bar_of_lowerChar {c : Char} (h : lowerChar c = '|') : c = '|' := by
  -- The ASCII characters are tried one by one, and the others are looked up in the table.
  by_cases hc : c.toNat < 128
  · rw [lowerChar_of_ascii hc] at h
    have hall : ∀ n < 128, (Char.ofNat n).toLower = '|' → Char.ofNat n = '|' := by
      decide +kernel
    have hself := hall c.toNat hc
    rw [Char.ofNat_toNat] at hself
    exact hself h
  · -- No run of the table has the bar as an image.
    rw [lowerChar, if_neg hc] at h
    cases hfound : lowerRuns.findSome? (·.image? c.toNat) with
    | none => simpa only [hfound] using h
    | some n =>
      simp only [hfound] at h
      obtain ⟨r, hr, himage⟩ := List.exists_of_findSome?_eq_some hfound
      exact absurd h (ofNat_ne_bar (ne_bar_of_image? hr himage))

/-- Small letters hold a bar only where the text does. -/
theorem bar_notMem_lower {s : Text} (h : '|' ∉ s) : '|' ∉ s.lower := by
  have hfrom : ∀ afterCased, '|' ∉ lowerFrom afterCased s := by
    induction s with
    | nil => exact fun _ => List.not_mem_nil
    | cons c s ih =>
      intro afterCased
      obtain ⟨hc, hs⟩ := not_or.1 (mt List.mem_cons.2 h)
      have hrest := ih hs
      have hlower : '|' ≠ lowerChar c := fun heq => hc (eq_bar_of_lowerChar heq.symm).symm
      rw [lowerFrom]
      split_ifs <;> simp [hrest, hlower]
  exact hfrom false

end Text

/-! ## Columns and keys -/

namespace IndexEntry

/-- **Two indexes over the same columns**, in any order and in any case. -/
def SameColumns (i j : IndexEntry) : Prop :=
  (i.columns.map Text.lower).Perm (j.columns.map Text.lower)

instance (i j : IndexEntry) : Decidable (i.SameColumns j) :=
  inferInstanceAs (Decidable (List.Perm _ _))

/-- **An index whose key tells its columns.** -/
structure IsPlain (i : IndexEntry) : Prop where
  /-- It has columns. -/
  ne_nil : i.columns ≠ []
  /-- No column holds a bar. -/
  bar_notMem : ∀ c ∈ i.columns, '|' ∉ c

variable {i j : IndexEntry}

/-- The same columns make the same key. -/
theorem SameColumns.key_eq (h : i.SameColumns j) : i.key = j.key :=
  congrArg (Text.join ['|']) (Text.sort_eq_sort_iff.2 h)

/-- The columns of a plain index are cut out of its key. -/
theorem IsPlain.splitOn_key (h : i.IsPlain) :
    Text.splitOn '|' i.key = Text.sort (i.columns.map Text.lower) := by
  have hmem : ∀ c, c ∈ Text.sort (i.columns.map Text.lower) ↔ c ∈ i.columns.map Text.lower :=
    fun c => List.mem_mergeSort
  refine Text.splitOn_join (fun hnil => h.ne_nil ?_) fun c hc => ?_
  · rw [← List.map_eq_nil_iff (f := Text.lower), List.eq_nil_iff_forall_not_mem]
    intro c hc
    rw [← hmem, hnil] at hc
    exact List.not_mem_nil hc
  · obtain ⟨d, hd, rfl⟩ := List.mem_map.1 ((hmem c).1 hc)
    exact Text.bar_notMem_lower (h.bar_notMem d hd)

/-- **The key of a plain index tells its columns.** -/
theorem key_eq_key_iff (hi : i.IsPlain) (hj : j.IsPlain) : i.key = j.key ↔ i.SameColumns j := by
  refine ⟨fun h => Text.sort_eq_sort_iff.1 ?_, SameColumns.key_eq⟩
  -- Both lists of columns are cut out of the one key.
  rw [← hi.splitOn_key, h, hj.splitOn_key]

end IndexEntry

/-! ## Merged indexes -/

/-- Of each key something is kept. -/
theorem Latest.exists_of_mem {β : Type} {key : β → Text} {items kept : List β}
    (h : Latest key items kept) {x : β} (hx : x ∈ items) :
    ∃ y ∈ kept, y ∈ items ∧ key y = key x := by
  have hkey : key x ∈ kept.map key := by
    rw [h.order, List.mem_eraseDups]
    exact List.mem_map_of_mem hx
  obtain ⟨y, hy, heq⟩ := List.mem_map.1 hkey
  exact ⟨y, hy, List.mem_reverse.1 (List.mem_of_find?_eq_some (h.last y hy)), heq⟩

/-- **Indexes over the same columns have one key**, and indexes whose columns hold no bar have one
key only then. So where no column of the partials or the table holds a bar, no index is lost to one
over other columns: for each of them the merged table has one over the same columns. -/
theorem mergeTable_keepsIndexes (entries : List TableEntry) (partials : OrderedMap TablePartial)
    (header : OrderedMap Text) (own : List IndexEntry) :
    (∀ i j : IndexEntry, i.SameColumns j → i.key = j.key) ∧
    (∀ i j : IndexEntry, i.IsPlain → j.IsPlain → (i.key = j.key ↔ i.SameColumns j)) ∧
    ((∀ i ∈ (injectedPartials partials entries).flatMap (·.indexes) ++ own, i.IsPlain) →
      ∀ i ∈ (injectedPartials partials entries).flatMap (·.indexes) ++ own,
        ∃ kept ∈ (mergeTable entries partials header own).indexes.values,
          kept ∈ (injectedPartials partials entries).flatMap (·.indexes) ++ own ∧
            kept.SameColumns i) := by
  -- The index that is kept under the key of a lost one has the same columns, if no column holds a
  -- bar.
  refine ⟨fun _ _ => IndexEntry.SameColumns.key_eq, fun _ _ => IndexEntry.key_eq_key_iff, ?_⟩
  intro hplain i hi
  have hmerged := MergedTable.resolves_mergeTable entries partials header own
  obtain ⟨kept, hkept, hmem, hkey⟩ := hmerged.indexes.exists_of_mem hi
  exact ⟨kept, hkept, hmem, (IndexEntry.key_eq_key_iff (hplain kept hmem) (hplain i hi)).1 hkey⟩

/-- The index of the line `(b, A)`. -/
def swappedIndex : IndexEntry := ⟨["b", "A"], [], "(b, A)"⟩

/-- The index of the line `(a, b)`. -/
def pairIndex : IndexEntry := ⟨["a", "b"], [], "(a, b)"⟩

/-- A partial with an index over two columns and one over an expression. -/
def trackedPartial : TablePartial :=
  ⟨"tracked", [], [], [swappedIndex, ⟨["lower(a, b)"], [], "\x60lower(a, b)\x60"⟩], none⟩

/-- A table with an index over the same two columns has that one and the one over the expression. -/
theorem mergeTable_keepsIndexes_tracked :
    swappedIndex.SameColumns pairIndex ∧ swappedIndex.key = pairIndex.key ∧
    (∀ i ∈ trackedPartial.indexes ++ [pairIndex], i.IsPlain) ∧
    ∀ i ∈ trackedPartial.indexes ++ [pairIndex],
      ∃ kept ∈ (mergeTable [.inject "tracked" none] [("tracked", trackedPartial)] []
          [pairIndex]).indexes.values,
        kept ∈ trackedPartial.indexes ++ [pairIndex] ∧ kept.SameColumns i := by
  have hsame : swappedIndex.SameColumns pairIndex := by decide
  have hall : ∀ i ∈ trackedPartial.indexes ++ [pairIndex],
      i.columns ≠ [] ∧ ∀ c ∈ i.columns, '|' ∉ c := by decide
  have hplain : ∀ i ∈ trackedPartial.indexes ++ [pairIndex], i.IsPlain := fun i hi =>
    ⟨(hall i hi).1, (hall i hi).2⟩
  obtain ⟨hkeys, -, hkept⟩ := mergeTable_keepsIndexes [.inject "tracked" none]
    [("tracked", trackedPartial)] [] [pairIndex]
  exact ⟨hsame, hkeys _ _ hsame, hplain, hkept hplain⟩

/-- The index of a line with one expression. -/
def barIndex : IndexEntry := ⟨["a|b"], [], "\x60a|b\x60"⟩

/-- **An index over an expression with a bar may be lost**: it has the key of an index over two
other columns, which takes its place. -/
theorem exists_lost_index :
    (readIndex barIndex.raw none).1 = some barIndex ∧
    (readIndex pairIndex.raw none).1 = some pairIndex ∧
      barIndex.key = pairIndex.key ∧ ¬ barIndex.SameColumns pairIndex ∧
      (mergeTable [] [] [] [barIndex, pairIndex]).indexes.values = [pairIndex] := by
  -- Two columns have the same text between bars as one column with a bar in it.
  have hbar : Text.sort (barIndex.columns.map Text.lower) = barIndex.columns :=
    List.mergeSort_of_pairwise (by decide)
  have hpair : Text.sort (pairIndex.columns.map Text.lower) = pairIndex.columns :=
    List.mergeSort_of_pairwise (by decide)
  have hkey : barIndex.key = pairIndex.key := by
    rw [IndexEntry.key, IndexEntry.key, hbar, hpair]
    decide
  refine ⟨by decide +kernel, by decide +kernel, hkey, by decide, ?_⟩
  simp [mergeTable, MergedTable.addIndexes, MergedTable.empty, OrderedMap.update, OrderedMap.insert,
    OrderedMap.values, hkey]

end SchemaDiagram
