import Mathlib.Data.Prod.Lex
import SchemaDiagram.Proofs.Merging

/-! # Arranging sorts

A list whose comparison tells the order of any two of its elements is arranged in that order. The
runs that the list is cut into are in order, and stay in order and in their old succession through
all merges.

Elements that carry their places in a list are told apart by them, so each has one index among the
arranged elements: the indexes are those of a list of that length, each once. Where the comparison
goes by a key, an element comes before another one if its key is smaller, or if the keys are the
same and its place is.

* **`TellsRuns below R runs`** — runs in order, one after the other.
* **`arrange_pairwise`** — the arranged list is in order.
* **`placeAmong m place`** — the index of the element with the given place.
* **`perm_placeAmong`** — the indexes among arranged elements, whatever the comparison is.
* **`placeAmong_lt_iff`** — the order of two indexes, where the comparison goes by a key.
* **`arrange_elements_eq`** — elements with different keys are arranged in one way only, whatever
  their places are. -/

namespace SchemaDiagram

section Runs

variable {α : Type} {below : α → α → Bool} {R : α → α → Prop}

/-! ## Runs in order -/

/-- **Runs in order, one after the other**: of elements of different runs the comparison tells the
order. -/
structure TellsRuns (below : α → α → Bool) (R : α → α → Prop) (runs : List (List α)) : Prop where
  /-- Every run is in order. -/
  ordered : ∀ run ∈ runs, run.Pairwise R
  /-- A run stands before the runs behind it. -/
  across : runs.Pairwise (TellsAcross below R)

namespace TellsRuns

variable {front back : List (List α)} {a b merged : List α}

/-- Two neighbouring runs may be made one. -/
theorem merge (h : TellsRuns below R (front ++ a :: b :: back)) (hperm : merged.Perm (a ++ b))
    (hmerged : merged.Pairwise R) : TellsRuns below R (front ++ merged :: back) := by
  obtain ⟨hfront, hback, hacross⟩ := List.pairwise_append.1 h.across
  obtain ⟨ha, hback⟩ := List.pairwise_cons.1 hback
  obtain ⟨hb, hback⟩ := List.pairwise_cons.1 hback
  refine ⟨fun run hrun => ?_, List.pairwise_append.2 ⟨hfront, List.pairwise_cons.2
    ⟨fun run hrun x hx => ?_, hback⟩, fun r hr run hrun => ?_⟩⟩
  · -- Each run is in order: only the merged one is new.
    obtain hrun | hrun | hrun : run ∈ front ∨ run = merged ∨ run ∈ back := by simpa using hrun
    · exact h.ordered run (by simp [hrun])
    · exact hrun ▸ hmerged
    · exact h.ordered run (by simp [hrun])
  · -- The merged run comes before the later ones, since both of its parts do.
    obtain hx | hx := List.mem_append.1 (hperm.subset hx)
    · exact ha run (List.mem_cons_of_mem _ hrun) x hx
    · exact hb run hrun x hx
  · -- What comes before both parts comes before the merged run.
    obtain rfl | hrun := List.mem_cons.1 hrun
    · intro x hx y hy
      obtain hy | hy := List.mem_append.1 (hperm.subset hy)
      · exact hacross r hr a (by simp) x hx y hy
      · exact hacross r hr b (by simp) x hx y hy
    · exact hacross r hr run (by simp [hrun])

end TellsRuns

section Sorting

variable [IsStrictOrder α R]

/-! ## Cutting into runs -/

/-- An element is put into a run at its place. -/
theorem binaryInsert_pairwise {sorted : List α} {x : α} (hsorted : sorted.Pairwise R)
    (h : ∀ y ∈ sorted, Tells below R y x) : (binaryInsert below sorted x).Pairwise R := by
  obtain ⟨front, back, rfl, hfront, hback, hbefore, hbehind⟩ := exists_cut_of_iff hsorted
    (fun y hy => (h y hy).asksEarlier.true_iff) fun y hy => (h y hy).asksEarlier.false_iff
  unfold binaryInsert
  dsimp only
  rw [bisect_cut hfront hback, List.take_left, List.drop_left]
  obtain ⟨hpre, hpost, hacross⟩ := List.pairwise_append.1 hsorted
  refine List.pairwise_append.2 ⟨hpre, List.pairwise_cons.2 ⟨hbehind, hpost⟩, fun y hy z hz => ?_⟩
  obtain rfl | hz := List.mem_cons.1 hz
  · exact hbefore y hy
  · exact hacross y hy z hz

/-- Elements that are put at their places one by one leave the list in order. -/
theorem foldl_binaryInsert_pairwise {sorted more : List α} (hsorted : sorted.Pairwise R)
    (hmore : more.Pairwise (Tells below R)) (h : TellsAcross below R sorted more) :
    (more.foldl (binaryInsert below) sorted).Pairwise R := by
  induction more generalizing sorted with
  | nil => exact hsorted
  | cons x more ih =>
    obtain ⟨hx, hmore⟩ := List.pairwise_cons.1 hmore
    refine ih (binaryInsert_pairwise hsorted fun y hy => h y hy x List.mem_cons_self) hmore
      fun y hy z hz => ?_
    obtain rfl | hy := List.mem_cons.1 ((binaryInsert_perm below sorted x).subset hy)
    · exact hx z hz
    · exact h y hy z (List.mem_cons_of_mem _ hz)

omit [IsStrictOrder α R] in
/-- The start that a run takes is in the order of its direction. -/
theorem pairwise_runLength {S : α → α → Prop} [IsTrans α S] {descending : Bool} {x : α} {l : List α}
    (hS : ∀ x y, Tells below R x y → below y x = descending → S x y)
    (h : (x :: l).Pairwise (Tells below R)) :
    (x :: l.take (runLength below descending x l)).Pairwise S := by
  induction l generalizing x with
  | nil => simp
  | cons y l ih =>
    obtain ⟨hx, hl⟩ := List.pairwise_cons.1 h
    rw [runLength]
    split
    next hbelow =>
      have hxy := hS x y (hx y List.mem_cons_self) hbelow
      have hrest := ih hl
      rw [List.take_succ_cons]
      refine List.pairwise_cons.2 ⟨List.forall_mem_cons.2 ⟨hxy, fun z hz => ?_⟩, hrest⟩
      -- The head stands before the next element, and that one before the rest that is taken.
      exact trans_of S hxy ((List.pairwise_cons.1 hrest).1 z hz)
    next => simp

/-- The start of a list of at least two elements that a run takes is in order, turned round if it is
descending. -/
theorem pairwise_start {x y : α} {rest : List α} (h : (x :: y :: rest).Pairwise (Tells below R)) :
    (if below y x then (x :: y :: rest.take (runLength below (below y x) y rest)).reverse
      else x :: y :: rest.take (runLength below (below y x) y rest)).Pairwise R := by
  -- The direction is that of the first two elements, so the first step is always taken.
  have hstep : (x :: (y :: rest).take (runLength below (below y x) x (y :: rest)))
      = x :: y :: rest.take (runLength below (below y x) y rest) := by
    rw [runLength, if_pos rfl, List.take_succ_cons]
  rw [← hstep]
  split
  -- A descending start is turned round.
  next hbelow =>
    rw [hbelow]
    have htells : ∀ u v, Tells below R u v → below v u = true → flip R u v := fun u v huv =>
      huv.below_iff.1
    exact pairwise_reverse_of_flip (pairwise_runLength htells h)
  next hbelow =>
    rw [Bool.eq_false_iff.2 hbelow]
    exact pairwise_runLength (fun u v huv => huv.not_below_iff.1) h

omit [IsStrictOrder α R] in
/-- The first run holds the elements that stand before the rest. -/
theorem exists_firstRun_perm (below : α → α → Bool) (least : Nat) (x : α) (l : List α) :
    ∃ taken, x :: l = taken ++ (firstRun below least x l).2 ∧
      (firstRun below least x l).1.Perm taken := by
  cases l with
  | nil => exact ⟨[x], rfl, List.Perm.refl _⟩
  | cons y rest =>
    rw [firstRun]
    -- The length of the start and the least length of a run do not matter to what is taken.
    dsimp only
    generalize runLength below (below y x) y rest = n
    generalize least - (x :: y :: rest.take n).length = k
    refine ⟨(x :: y :: rest.take n) ++ (rest.drop n).take k, ?_, ?_⟩
    · rw [List.append_assoc, List.take_append_drop, List.cons_append, List.cons_append,
        List.take_append_drop]
    · refine (foldl_binaryInsert_perm below _ _).trans (List.Perm.append_right _ ?_)
      split
      · exact List.reverse_perm _
      · exact List.Perm.refl _

/-- The first run of a list is in order. -/
theorem firstRun_pairwise {least : Nat} {x : α} {l : List α}
    (h : (x :: l).Pairwise (Tells below R)) :
    (firstRun below least x l).1.Pairwise R := by
  cases l with
  | nil => simp [firstRun]
  | cons y rest =>
    have hstart := pairwise_start h
    rw [firstRun]
    dsimp only
    generalize hn : runLength below (below y x) y rest = n at *
    have hsplit : x :: y :: rest = (x :: y :: rest.take n) ++ rest.drop n := by simp
    rw [hsplit] at h
    -- What the start does not take is put in one by one, and each tells the start from itself.
    obtain ⟨-, hmore, hacross⟩ := List.pairwise_append.1 h
    refine foldl_binaryInsert_pairwise hstart
      (hmore.sublist (List.take_sublist ..)) fun u hu v hv => ?_
    refine hacross u ?_ v (List.mem_of_mem_take hv)
    split at hu
    · exact List.mem_reverse.1 hu
    · exact hu

/-- The runs of a list are in order, one after the other. -/
theorem tellsRuns_runsOf {least : Nat} {l : List α} (h : l.Pairwise (Tells below R)) :
    TellsRuns below R (runsOf below least l) := by
  fun_induction runsOf below least l with
  | case1 => exact ⟨by simp, List.Pairwise.nil⟩
  | case2 x rest _ ih =>
    have hfirst : (firstRun below least x rest).1.Pairwise R := firstRun_pairwise h
    obtain ⟨taken, hsplit, hperm⟩ := exists_firstRun_perm below least x rest
    rw [hsplit] at h
    obtain ⟨-, hlater, hacross⟩ := List.pairwise_append.1 h
    have hruns := ih hlater
    refine ⟨List.forall_mem_cons.2 ⟨hfirst, hruns.ordered⟩,
      List.pairwise_cons.2 ⟨fun run hrun u hu v hv => ?_, hruns.across⟩⟩
    -- The run holds elements of its part of the list, and so do the later runs.
    exact hacross u (hperm.subset hu) v
      ((flatten_runsOf_perm below least _).subset (List.mem_flatten_of_mem hrun hv))

/-! ## Merging all runs -/

namespace MergeState

variable {s : MergeState α} {power fuel size : Nat}

/-- The runs that wait, in the order of the list. -/
def runs (s : MergeState α) : List (List α) := s.pending.reverse.map (·.elements)

/-- Two runs that are merged on the stack are one run in order. -/
theorem runs_mergeTop {last before : PendingRun α} {rest : List (PendingRun α)}
    {more : List (List α)}
    (h : TellsRuns below R ((rest.reverse.map (·.elements))
      ++ before.elements :: last.elements :: more)) :
    TellsRuns below R ((s.mergeTop below last before rest).runs ++ more) := by
  have hmerged : (mergeRuns below s.threshold before.elements last.elements).1.Pairwise R := by
    refine mergeRuns_pairwise (h.ordered _ (by simp)) (h.ordered _ (by simp)) ?_
    obtain ⟨-, hback, -⟩ := List.pairwise_append.1 h.across
    exact (List.pairwise_cons.1 hback).1 _ List.mem_cons_self
  simpa [runs, mergeTop] using h.merge (mergeRuns_perm ..) hmerged

/-- The runs on the stack stay in order while it is settled. -/
theorem tellsRuns_settle {more : List (List α)} (h : TellsRuns below R (s.runs ++ more)) :
    TellsRuns below R ((s.settle below power fuel).runs ++ more) := by
  induction fuel generalizing s with
  | zero => exact h
  | succ fuel ih =>
    rw [settle]
    split
    · next last before rest hpending =>
      split
      · refine ih (runs_mergeTop ?_)
        simpa [runs, hpending] using h
      · exact h
    · exact h

/-- A run is pushed behind the runs that it follows. -/
theorem tellsRuns_push {run : List α} {more : List (List α)}
    (h : TellsRuns below R (s.runs ++ run :: more)) :
    TellsRuns below R ((s.push below size run).runs ++ more) := by
  unfold push
  split
  · next hpending => simpa [runs, hpending] using h
  · -- The stack is settled first: its last run may be merged, and it is pushed behind that one.
    next last rest hpending =>
    dsimp only
    generalize commonPower _ _ _ _ = power
    have hsettled :
        TellsRuns below R ((s.settle below power s.pending.length).runs ++ run :: more) :=
      tellsRuns_settle h
    split
    · next hpending' => simpa [runs, hpending'] using hsettled
    · next last' rest' hpending' => simpa [runs, hpending'] using hsettled

/-- Runs that follow one another are pushed one by one. -/
theorem tellsRuns_foldl_push {runs : List (List α)} (h : TellsRuns below R (s.runs ++ runs)) :
    TellsRuns below R (runs.foldl (push below size) s).runs := by
  induction runs generalizing s with
  | nil => simpa using h
  | cons run runs ih => exact ih (tellsRuns_push h)

omit [IsStrictOrder α R] in
/-- Settling leaves no more runs than there were. -/
theorem length_settle_le : (s.settle below power fuel).pending.length ≤ s.pending.length := by
  induction fuel generalizing s with
  | zero => exact Nat.le_refl _
  | succ fuel ih =>
    rw [settle]
    split
    · next last before rest hpending =>
      split
      · refine Nat.le_trans ih ?_
        simp [mergeTop, hpending]
      · exact Nat.le_refl _
    · exact Nat.le_refl _

omit [IsStrictOrder α R] in
/-- A push adds at most one run. -/
theorem length_push_le {run : List α} :
    (s.push below size run).pending.length ≤ s.pending.length + 1 := by
  unfold push
  split
  · simp
  · dsimp only
    generalize commonPower _ _ _ _ = power
    have hle : (s.settle below power s.pending.length).pending.length ≤ s.pending.length :=
      length_settle_le
    split
    · simp
    · next hpending' =>
      rw [hpending'] at hle
      simpa using hle

omit [IsStrictOrder α R] in
/-- The stack holds at most one run for each one pushed. -/
theorem length_foldl_push_le {runs : List (List α)} :
    (runs.foldl (push below size) s).pending.length ≤ s.pending.length + runs.length := by
  induction runs generalizing s with
  | nil => exact Nat.le_refl _
  | cons run runs ih =>
    refine Nat.le_trans ih ?_
    have hle : (s.push below size run).pending.length ≤ s.pending.length + 1 := length_push_le
    rw [List.length_cons]
    omega

/-- The last merges leave one run in order. -/
theorem finish_pairwise (hfuel : s.pending.length ≤ fuel) (h : TellsRuns below R s.runs) :
    (s.finish below fuel).Pairwise R := by
  induction fuel generalizing s with
  | zero =>
    obtain hnil := List.eq_nil_of_length_eq_zero (Nat.le_zero.1 hfuel)
    simp [finish, elements, hnil]
  | succ fuel ih =>
    rw [finish]
    split
    · next last middle first rest hpending =>
      dsimp only
      rw [hpending, List.length_cons, List.length_cons, List.length_cons] at hfuel
      split
      · refine ih (by simp [mergeTop]; omega) ?_
        have hmerged :
            TellsRuns below R ((s.mergeTop below middle first rest).runs ++ [last.elements]) :=
          runs_mergeTop (by simpa [runs, hpending] using h)
        simpa [runs] using hmerged
      · refine ih (by simp [mergeTop]; omega) ?_
        have hmerged :
            TellsRuns below R ((s.mergeTop below last middle (first :: rest)).runs ++ []) :=
          runs_mergeTop (by simpa [runs, hpending] using h)
        simpa using hmerged
    · next last first hpending =>
      have hmerged : TellsRuns below R ((s.mergeTop below last first []).runs ++ []) :=
        runs_mergeTop (by simpa [runs, hpending] using h)
      simpa [elements, runs, mergeTop] using hmerged.ordered _ (by simp [runs, mergeTop])
    · next hmany htwo =>
      -- At most one run is left.
      cases hpending : s.pending with
      | nil => simp [elements, hpending]
      | cons last rest =>
      cases rest with
      | nil => simpa [elements, hpending] using h.ordered last.elements (by simp [runs, hpending])
      | cons middle rest =>
        cases rest with
        | nil => exact (htwo last middle hpending).elim
        | cons first rest => exact (hmany last middle first rest hpending).elim

end MergeState

/-- **A list is arranged in the order that the comparison tells.** -/
theorem arrange_pairwise {l : List α} (h : l.Pairwise (Tells below R)) :
    (arrange below l).Pairwise R := by
  refine MergeState.finish_pairwise ?_ (MergeState.tellsRuns_foldl_push ?_)
  · refine Nat.le_trans MergeState.length_foldl_push_le ?_
    simp [MergeState.empty]
  · simpa [MergeState.empty, MergeState.runs] using tellsRuns_runsOf h

end Sorting

end Runs

section Places

variable {α β : Type}

/-! ## Indexes -/

/-- The index of the element with the given place. -/
abbrev placeAmong (m : List (α × Nat)) (place : Nat) : Nat := m.findIdx (·.2 = place)

/-- The places of a list grow. -/
abbrev Placed (l : List (α × Nat)) : Prop := l.Pairwise (·.2 < ·.2)

/-- The indexes of a list grow. -/
theorem placed_zipIdx (l : List α) (n : Nat) : Placed (l.zipIdx n) := by
  induction l generalizing n with
  | nil => exact List.Pairwise.nil
  | cons x l ih => exact List.pairwise_cons.2 ⟨fun y hy => List.le_snd_of_mem_zipIdx hy, ih (n + 1)⟩

section Indexes

variable {m : List (α × Nat)}

/-- An element stands at its index. -/
theorem placeAmong_getElem (h : m.Pairwise (·.2 ≠ ·.2)) {i : Nat} (hi : i < m.length) :
    placeAmong m m[i].2 = i := by
  refine (List.findIdx_eq hi).2 ⟨by simp, fun j hj => ?_⟩
  simpa using List.pairwise_iff_getElem.1 h j i (by omega) hi hj

/-- An element stands at the index of its place. -/
theorem exists_getElem_placeAmong (h : m.Pairwise (·.2 ≠ ·.2)) {x : α × Nat} (hx : x ∈ m) :
    ∃ hi : placeAmong m x.2 < m.length, m[placeAmong m x.2] = x := by
  obtain ⟨i, hi, rfl⟩ := List.getElem_of_mem hx
  simp only [placeAmong_getElem h hi]
  exact ⟨hi, trivial⟩

/-- Every index is that of one element. -/
theorem map_placeAmong (h : m.Pairwise (·.2 ≠ ·.2)) :
    (m.map fun x => placeAmong m x.2) = List.range m.length := by
  refine List.ext_getElem (by simp) fun i hi _ => ?_
  rw [List.getElem_map, List.getElem_range]
  exact placeAmong_getElem h (by simpa using hi)

/-- Two indexes are in the order of their elements. -/
theorem placeAmong_lt_of_pairwise {R : α × Nat → α × Nat → Prop} [IsStrictOrder _ R]
    (hm : m.Pairwise R)
    (hplaces : m.Pairwise (·.2 ≠ ·.2)) {x y : α × Nat} (hx : x ∈ m) (hy : y ∈ m) :
    placeAmong m x.2 < placeAmong m y.2 ↔ R x y := by
  obtain ⟨hi, hxi⟩ := exists_getElem_placeAmong hplaces hx
  obtain ⟨hj, hyj⟩ := exists_getElem_placeAmong hplaces hy
  have horder := List.pairwise_iff_getElem.1 hm
  constructor
  · -- The list is in order, so an earlier element stands before a later one.
    intro hlt
    simpa only [hxi, hyj] using horder _ _ hi hj hlt
  · -- Against the order of the elements, the indexes would be in the opposite order or the same.
    intro hxy
    by_contra hle
    obtain hlt | heq := Nat.lt_or_eq_of_le (Nat.le_of_not_lt hle)
    · have hyx := horder _ _ hj hi hlt
      rw [hxi, hyj] at hyx
      exact asymm_of R hxy hyx
    · have : x = y := by rw [← hxi, ← hyj]; simp only [heq]
      exact irrefl_of R x (this ▸ hxy)

end Indexes

/-- The places of arranged elements are different. -/
theorem places_arrange {below : α × Nat → α × Nat → Bool} {l : List (α × Nat)} (h : Placed l) :
    (arrange below l).Pairwise (·.2 ≠ ·.2) :=
  ((arrange_perm below l).pairwise_iff fun {_ _} hne => hne.symm).2 (h.imp Nat.ne_of_lt)

/-- **The indexes among arranged elements** are those of a list of that length, each once. -/
theorem perm_placeAmong (below : α × Nat → α × Nat → Bool) {l : List (α × Nat)} (h : Placed l) :
    (l.map fun x => placeAmong (arrange below l) x.2).Perm (List.range l.length) := by
  rw [← length_arrange below l, ← map_placeAmong (places_arrange h)]
  exact ((arrange_perm below l).map _).symm

/-! ## Comparisons that go by a key -/

section Keys

variable [LinearOrder β] {key : α → β}

/-- The comparison of the elements of a list goes by their keys, whatever their places are. -/
def GoesBy (below : α × Nat → α × Nat → Bool) (key : α → β) (l : List (α × Nat)) : Prop :=
  ∀ x ∈ l, ∀ y ∈ l, below x y = true ↔ key x.1 < key y.1

/-- **One element stands before another one**: its key is smaller, or the keys are the same and its
place is. -/
def StandsBefore (key : α → β) (x y : α × Nat) : Prop := toLex (key x.1, x.2) < toLex (key y.1, y.2)

instance : IsStrictOrder (α × Nat) (StandsBefore key) where
  irrefl _ := lt_irrefl (α := β ×ₗ Nat) _
  trans _ _ _ := lt_trans (α := β ×ₗ Nat)

/-- An earlier element stands before a later one when its key is not larger. -/
theorem standsBefore_iff_of_lt {x y : α × Nat} (h : x.2 < y.2) :
    StandsBefore key x y ↔ key x.1 ≤ key y.1 := by
  unfold StandsBefore
  rw [Prod.Lex.toLex_lt_toLex, le_iff_lt_or_eq]
  simp [h]

/-- A later element stands before an earlier one only when its key is smaller. -/
theorem standsBefore_iff_of_gt {x y : α × Nat} (h : x.2 < y.2) :
    StandsBefore key y x ↔ key y.1 < key x.1 := by
  unfold StandsBefore
  rw [Prod.Lex.toLex_lt_toLex]
  simp [Nat.lt_asymm h]

variable {below : α × Nat → α × Nat → Bool} {l : List (α × Nat)}

/-- Elements are arranged by their keys, and by their places where the keys are the same. -/
theorem arrange_standsBefore (hplaces : Placed l) (hbelow : GoesBy below key l) :
    (arrange below l).Pairwise (StandsBefore key) := by
  refine arrange_pairwise (hplaces.imp_of_mem fun {x y} hx hy hlt => ?_)
  -- The comparison is asked whether `y`, the later of the two, has the smaller key.
  unfold Tells
  split
  next hyx => exact (standsBefore_iff_of_gt hlt).2 ((hbelow y hy x hx).1 hyx)
  next hyx =>
    have hle : key x.1 ≤ key y.1 := le_of_not_gt fun hlt' => hyx ((hbelow y hy x hx).2 hlt')
    exact (standsBefore_iff_of_lt hlt).2 hle

/-- **The order of two indexes among elements that are arranged by a key.** -/
theorem placeAmong_lt_iff (hplaces : Placed l) (hbelow : GoesBy below key l) {x y : α × Nat}
    (hx : x ∈ l) (hy : y ∈ l) :
    placeAmong (arrange below l) x.2 < placeAmong (arrange below l) y.2 ↔ StandsBefore key x y :=
  placeAmong_lt_of_pairwise (arrange_standsBefore hplaces hbelow) (places_arrange hplaces)
    ((arrange_perm below l).mem_iff.2 hx) ((arrange_perm below l).mem_iff.2 hy)

/-! ## Different keys -/

variable {l' : List (α × Nat)}

/-- The keys of arranged elements grow where they are different. -/
theorem arrange_key_lt (hplaces : Placed l) (hbelow : GoesBy below key l)
    (hkeys : (l.map (·.1)).Pairwise (key · ≠ key ·)) :
    ((arrange below l).map (·.1)).Pairwise (key · < key ·) := by
  have hne : ((arrange below l).map (·.1)).Pairwise (key · ≠ key ·) :=
    (((arrange_perm below l).map _).pairwise_iff fun {_ _} hne => hne.symm).2 hkeys
  rw [List.pairwise_map] at hne ⊢
  refine (List.pairwise_and_iff.2 ⟨arrange_standsBefore hplaces hbelow, hne⟩).imp fun {x y} ⟨hxy,
    hne⟩ => ?_
  rw [StandsBefore, Prod.Lex.toLex_lt_toLex] at hxy
  exact hxy.resolve_right fun h => hne h.1

/-- **Elements with different keys are arranged in one way only**, whatever their places are. -/
theorem arrange_elements_eq (hplaces : Placed l) (hplaces' : Placed l')
    (hbelow : GoesBy below key l) (hbelow' : GoesBy below key l')
    (hperm : (l'.map (·.1)).Perm (l.map (·.1))) (hkeys : (l.map (·.1)).Pairwise (key · ≠ key ·)) :
    (arrange below l').map (·.1) = (arrange below l).map (·.1) := by
  have hkeys' := (hperm.pairwise_iff fun {_ _} hne => Ne.symm hne).2 hkeys
  refine List.Perm.eq_of_pairwise (fun x y _ _ hxy hyx => (lt_asymm hxy hyx).elim)
    (arrange_key_lt hplaces' hbelow' hkeys') (arrange_key_lt hplaces hbelow hkeys) ?_
  exact (((arrange_perm below l').map _).trans hperm).trans ((arrange_perm below l).map _).symm

/-- An element has the same index wherever elements with the same different keys are arranged. -/
theorem placeAmong_eq (hplaces : Placed l) (hplaces' : Placed l')
    (hbelow : GoesBy below key l) (hbelow' : GoesBy below key l')
    (hperm : (l'.map (·.1)).Perm (l.map (·.1))) (hkeys : (l.map (·.1)).Pairwise (key · ≠ key ·))
    {x x' : α × Nat} (hx : x ∈ l) (hx' : x' ∈ l') (heq : x'.1 = x.1) :
    placeAmong (arrange below l') x'.2 = placeAmong (arrange below l) x.2 := by
  have hsame := arrange_elements_eq hplaces hplaces' hbelow hbelow' hperm hkeys
  have hnodup : ((arrange below l).map (·.1)).Nodup :=
    (arrange_key_lt hplaces hbelow hkeys).imp fun {x y} hlt => fun h => lt_irrefl _ (h ▸ hlt)
  obtain ⟨hi, hxi⟩ :=
    exists_getElem_placeAmong (places_arrange hplaces) ((arrange_perm below l).mem_iff.2 hx)
  obtain ⟨hj, hxj⟩ :=
    exists_getElem_placeAmong (places_arrange hplaces') ((arrange_perm below l').mem_iff.2 hx')
  -- Both indexes are that of the element in the same list.
  have hplace : ((arrange below l).map (·.1))[placeAmong (arrange below l) x.2]? = some x.1 := by
    rw [List.getElem?_map, List.getElem?_eq_getElem hi, hxi]
    rfl
  have hplace' : ((arrange below l).map (·.1))[placeAmong (arrange below l') x'.2]? = some x.1 := by
    rw [← hsame, List.getElem?_map, List.getElem?_eq_getElem hj, hxj, ← heq]
    rfl
  exact ((List.getElem?_inj (by simpa using hi) hnodup).1 (hplace.trans hplace'.symm)).symm

end Keys

end Places

end SchemaDiagram
