import Mathlib.Order.Basic
import SchemaDiagram.Order.Arrange
import SchemaDiagram.Order.Search

/-! # Merging puts runs in order

A comparison asks whether a later element of a list belongs below an earlier one. Where each answer
tells the order of the two elements, which has to decide every such pair, merging two runs that are
in order gives one run in order. Elements that neither stands below the other are told apart by
their places, so a strict order that puts the earlier one first makes the merge keep them as they
stand.

The merges look for places with two searches. Both ask of single elements whether they stand before
the place, and every search that keeps the place between its bounds ends at it.

* **`bisect_eq`**, **`gallop_eq`** — both searches find the place, however far the hint is from it.
* **`bisect_cut`**, **`gallop_cut`**, **`gallop_cut_reverse`** — they find where to cut a list whose
  elements answer with yes up to there and with no from there on.
* **`Tells below R x y`** — the comparison tells the order `R` of `x` and a later `y`.
* **`Merging R done kept other`** — what holds while two runs are merged. Merging from the back is
  merging from the front in the reverse order, with the runs exchanged.
* **`mergesForward`**, **`mergesBackward`** — both merges put in order what they are given.
* **`mergeRuns_pairwise`** — two runs as one run in order. -/

namespace SchemaDiagram

section Searches

/-! ## Places among numbers -/

/-- Halving finds the place that it has between its bounds. -/
theorem bisect_eq {isBefore : Nat → Bool} {fuel low high place : Nat} (hlow : low ≤ place)
    (hhigh : place ≤ high) (hfuel : high - low ≤ fuel)
    (h : ∀ n, low ≤ n → n < high → (isBefore n = true ↔ n < place)) :
    bisect isBefore fuel low high = place := by
  induction fuel generalizing low high with
  | zero =>
    rw [bisect]
    omega
  | succ fuel ih =>
    rw [bisect]
    by_cases hlt : low < high
    · rw [if_pos hlt]
      -- The middle is answered, so one of the two halves still holds the place.
      have hmiddle := h (low + (high - low) / 2) (by omega) (by omega)
      by_cases hbefore : isBefore (low + (high - low) / 2) = true
      · have hplace := hmiddle.1 hbefore
        rw [if_pos hbefore]
        exact ih (by omega) hhigh (by omega) fun n hn hn' => h n (by omega) hn'
      · have hplace : ¬low + (high - low) / 2 < place := fun hlt' => hbefore (hmiddle.2 hlt')
        rw [if_neg hbefore]
        exact ih hlow (by omega) (by omega) fun n hn hn' => h n hn (by omega)
    · rw [if_neg hlt]
      omega

/-- Growing steps that begin before the place `count` end around it. -/
theorem strides_spec {isPassed : Nat → Bool} {limit fuel last step count : Nat}
    (hcount : count ≤ limit) (hlast : last < count) (hfuel : limit ≤ fuel + step)
    (h : ∀ n < limit, isPassed n = true ↔ n < count) :
    (strides isPassed limit fuel last step).1 < count ∧
      count ≤ (strides isPassed limit fuel last step).2 ∧
      (strides isPassed limit fuel last step).2 ≤ limit := by
  induction fuel generalizing last step with
  | zero =>
    rw [strides]
    exact ⟨hlast, Nat.le_min.2 ⟨by omega, hcount⟩, Nat.min_le_right ..⟩
  | succ fuel ih =>
    rw [strides]
    split
    next hgo =>
      obtain ⟨hlt, hpassed⟩ := Bool.and_eq_true_iff.1 hgo
      exact ih ((h step (of_decide_eq_true hlt)).1 hpassed) (by omega)
    next hstop =>
      refine ⟨hlast, Nat.le_min.2 ⟨Nat.le_of_not_lt fun hlt => hstop ?_, hcount⟩,
        Nat.min_le_right ..⟩
      -- A step before the place would have been taken.
      exact Bool.and_eq_true_iff.2 ⟨decide_eq_true (by omega), (h step (by omega)).2 hlt⟩

/-- Galloping finds the place from every hint. -/
theorem gallop_eq {isBefore : Nat → Bool} {size hint place : Nat} (hplace : place ≤ size)
    (hhint : hint < size) (h : ∀ n < size, isBefore n = true ↔ n < place) :
    gallop isBefore size hint = place := by
  unfold gallop
  by_cases hbefore : isBefore hint = true
  · have hlt := (h hint hhint).1 hbefore
    rw [if_pos hbefore]
    have hpassed : ∀ n < size - hint, isBefore (hint + n) = true ↔ n < place - hint := fun n hn =>
      (h (hint + n) (by omega)).trans (by omega)
    obtain ⟨hlast, hstep, hlimit⟩ :=
      strides_spec (Nat.sub_le_sub_right hplace hint) (Nat.sub_pos_of_lt hlt)
      (show size - hint ≤ size + 1 by omega) hpassed
    exact bisect_eq (by omega) (by omega) (by omega) fun n _ hn => h n (by omega)
  · have hle : place ≤ hint := Nat.le_of_not_lt fun hlt => hbefore ((h hint hhint).2 hlt)
    rw [if_neg hbefore]
    -- Backwards a step is passed as long as it does not come before the place.
    have hpassed : ∀ n < hint + 1, (!isBefore (hint - n)) = true ↔ n < hint + 1 - place := by
      intro n hn
      rw [Bool.not_eq_true', Bool.eq_false_iff, Ne, h (hint - n) (by omega)]
      omega
    obtain ⟨hlast, hstep, hlimit⟩ := strides_spec (Nat.sub_le (hint + 1) place)
      (show 0 < hint + 1 - place by omega) (show hint + 1 ≤ size + 1 by omega) hpassed
    exact bisect_eq (by omega) (by omega) (by omega) fun n _ hn => h n (by omega)

/-! ## Places in lists -/

variable {α : Type} {p : α → Bool} {l front back : List α}

/-- A list is cut behind the elements for which a question is answered with yes, if every element
before such a one is such a one. -/
theorem exists_cut_of_pairwise (h : l.Pairwise fun x y => p y = true → p x = true) :
    ∃ front back, l = front ++ back ∧ (∀ x ∈ front, p x = true) ∧ ∀ x ∈ back, p x = false := by
  induction l with
  | nil => exact ⟨[], [], rfl, by simp, by simp⟩
  | cons x l ih =>
    obtain ⟨hx, hl⟩ := List.pairwise_cons.1 h
    cases hp : p x with
    | true =>
      obtain ⟨front, back, rfl, hfront, hback⟩ := ih hl
      exact ⟨x :: front, back, rfl, List.forall_mem_cons.2 ⟨hp, hfront⟩, hback⟩
    | false =>
      -- Behind the first element that is answered with no, all others are as well.
      refine ⟨[], x :: l, rfl, by simp, List.forall_mem_cons.2 ⟨hp, fun y hy => ?_⟩⟩
      rw [Bool.eq_false_iff]
      intro hpy
      rw [hx y hy hpy] at hp
      exact Bool.noConfusion hp

/-- The elements that satisfy a condition are told by their indexes when they stand in front. -/
theorem any_getElem?_cut (hfront : ∀ x ∈ front, p x = true) (hback : ∀ x ∈ back, p x = false)
    (n : Nat) :
    ((front ++ back)[n]?).any p = true ↔ n < front.length := by
  by_cases hn : n < front.length
  · rw [List.getElem?_append_left hn, List.getElem?_eq_getElem hn]
    exact iff_of_true (hfront _ (List.getElem_mem hn)) hn
  · rw [List.getElem?_append_right (Nat.le_of_not_lt hn)]
    refine iff_of_false ?_ hn
    cases hx : back[n - front.length]? with
    | none => exact Bool.false_ne_true
    | some x =>
      rw [Option.any_some, hback x (List.mem_of_getElem? hx)]
      exact Bool.false_ne_true

/-- Halving finds the cut. -/
theorem bisect_cut (hfront : ∀ x ∈ front, p x = true) (hback : ∀ x ∈ back, p x = false) :
    bisect (fun n => ((front ++ back)[n]?).any p) (front ++ back).length 0 (front ++ back).length
      = front.length :=
  bisect_eq (Nat.zero_le _) (by rw [List.length_append]; omega) (Nat.sub_le ..)
    fun n _ _ => any_getElem?_cut hfront hback n

/-- Galloping finds the cut. -/
theorem gallop_cut (hfront : ∀ x ∈ front, p x = true) (hback : ∀ x ∈ back, p x = false) {hint : Nat}
    (hhint : hint < (front ++ back).length) :
    gallop (fun n => ((front ++ back)[n]?).any p) (front ++ back).length hint = front.length :=
  gallop_eq (by rw [List.length_append]; omega) hhint fun n _ => any_getElem?_cut hfront hback n

/-- Galloping finds the cut from the other end of the list. -/
theorem gallop_cut_reverse (hfront : ∀ x ∈ front, p x = false) (hback : ∀ x ∈ back, p x = true)
    {hint : Nat} (hhint : hint < (front ++ back).length) :
    gallop (fun n => ((front ++ back)[(front ++ back).length - 1 - n]?).any p)
      (front ++ back).length hint
      = back.length := by
  refine gallop_eq (by rw [List.length_append]; omega) hhint fun n hn => ?_
  rw [← List.getElem?_reverse hn, List.reverse_append, ← @List.length_reverse _ back]
  exact any_getElem?_cut (fun x hx => hback x (List.mem_reverse.1 hx))
    (fun x hx => hfront x (List.mem_reverse.1 hx)) n

end Searches

variable {α : Type} {below : α → α → Bool} {R : α → α → Prop}

/-! ## Comparisons that tell an order -/

/-- **The comparison tells the order of an element and a later one**: it says that the later one
stands below the earlier one exactly if the order does. -/
def Tells (below : α → α → Bool) (R : α → α → Prop) (x y : α) : Prop :=
  if below y x then R y x else R x y

/-- The comparison tells the order of the elements of two lists, where those of the first are
earlier. -/
def TellsAcross (below : α → α → Bool) (R : α → α → Prop) (a b : List α) : Prop :=
  ∀ x ∈ a, ∀ y ∈ b, Tells below R x y

/-- Elements of parts of two runs can be told apart as well. -/
theorem TellsAcross.mono {a a' b b' : List α} (h : TellsAcross below R a b) (ha : a' ⊆ a)
    (hb : b' ⊆ b) :
    TellsAcross below R a' b' := fun x hx y hy => h x (ha hx) y (hb hy)

/-- The question asks whether an element stands before `y`, which it does or else stands behind
it. -/
def AsksBefore (p : α → Bool) (R : α → α → Prop) (y z : α) : Prop :=
  if p z then R z y else R y z

namespace AsksBefore

variable [IsStrictOrder α R] {p : α → Bool} {y z : α}

/-- An element that is asked for before another one stands before it. -/
theorem true_iff (h : AsksBefore p R y z) : p z = true ↔ R z y := by
  unfold AsksBefore at h
  split at h
  next hp => exact iff_of_true hp h
  next hp => exact iff_of_false hp (asymm_of R h)

/-- An element that is not asked for before another one stands behind it. -/
theorem false_iff (h : AsksBefore p R y z) : p z = false ↔ R y z := by
  unfold AsksBefore at h
  split at h
  next hp => exact iff_of_false (by simp [hp]) (asymm_of R h)
  next hp => exact iff_of_true (Bool.eq_false_iff.2 hp) h

end AsksBefore

namespace Tells

variable {x y : α}

/-- Asked of later elements, the comparison asks which of them stand before an earlier one. -/
theorem asksLater (h : Tells below R x y) : AsksBefore (fun z => below z x) R x y := h

/-- Denied of earlier elements, the comparison asks which of them stand before a later one. -/
theorem asksEarlier (h : Tells below R x y) : AsksBefore (fun z => !below y z) R y x := by
  unfold Tells at h
  unfold AsksBefore
  cases hbelow : below y x <;> simpa [hbelow] using h

variable [IsStrictOrder α R]

/-- A comparison that tells the order holds when the second element stands first. -/
theorem below_iff (h : Tells below R x y) : below y x = true ↔ R y x := h.asksLater.true_iff

/-- A comparison that tells the order fails when the first element stands first. -/
theorem not_below_iff (h : Tells below R x y) : below y x = false ↔ R x y := h.asksLater.false_iff

end Tells

/-! ## Merging -/

/-- **The state of a merge**: what is done stands before the rest of both runs, and the last element
of the run that keeps one stands behind the whole rest of the other run. -/
structure Merging (R : α → α → Prop) (done kept other : List α) : Prop where
  /-- What is done, with the rest of the run that keeps its last element, is in order. -/
  keptOrder : (done.reverse ++ kept).Pairwise R
  /-- What is done, with the rest of the other run, is in order. -/
  otherOrder : (done.reverse ++ other).Pairwise R
  /-- The kept element belongs behind the other run. -/
  lastBehind : ∀ x ∈ kept.getLast?, ∀ y ∈ other, R y x

namespace Merging

variable {done kept other front : List α} {x y : α}

/-- Elements that stand before the other run may be taken over. -/
theorem takeKept (h : Merging R done (front ++ kept) other)
    (hfront : ∀ x ∈ front, ∀ y ∈ other, R x y) :
    Merging R (front.reverse ++ done) kept other := by
  -- The elements that are taken stand before the rest of their own run.
  have hkept := h.keptOrder
  rw [← List.append_assoc] at hkept
  refine ⟨?_, ?_, fun x hx => h.lastBehind x ?_⟩
  · rwa [List.reverse_append, List.reverse_reverse]
  · rw [List.reverse_append, List.reverse_reverse, List.pairwise_append]
    -- They stand before all of the other run, which is the new condition.
    obtain ⟨-, hother, hdone⟩ := List.pairwise_append.1 h.otherOrder
    refine ⟨(List.pairwise_append.1 hkept).1, hother, fun x hx y hy => ?_⟩
    obtain hx | hx := List.mem_append.1 hx
    · exact hdone x hx y hy
    · exact hfront x hx y hy
  · rw [List.getLast?_append, Option.mem_def.1 hx]
    rfl

/-- Elements of the other run that stand before the kept run may be taken over. -/
theorem takeOther (h : Merging R done kept (front ++ other))
    (hfront : ∀ y ∈ front, ∀ x ∈ kept, R y x) :
    Merging R (front.reverse ++ done) kept other := by
  have hother := h.otherOrder
  rw [← List.append_assoc] at hother
  refine ⟨?_, ?_, fun x hx y hy => h.lastBehind x hx y (List.mem_append_right _ hy)⟩
  · rw [List.reverse_append, List.reverse_reverse, List.pairwise_append]
    obtain ⟨-, hkept, hdone⟩ := List.pairwise_append.1 h.keptOrder
    refine ⟨(List.pairwise_append.1 hother).1, hkept, fun y hy x hx => ?_⟩
    obtain hy | hy := List.mem_append.1 hy
    · exact hdone y hy x hx
    · exact hfront y hy x hx
  · rwa [List.reverse_append, List.reverse_reverse]

/-- The head of the kept run is taken when it stands before the whole other run. -/
theorem takeKeptHead (h : Merging R done (x :: kept) other) (hx : ∀ y ∈ other, R x y) :
    Merging R (x :: done) kept other := by
  have hsplit : Merging R done ([x] ++ kept) other := h
  exact hsplit.takeKept (List.forall_mem_singleton.2 hx)

/-- The head of the other run is taken when it stands before the whole kept run. -/
theorem takeOtherHead (h : Merging R done kept (y :: other)) (hy : ∀ x ∈ kept, R y x) :
    Merging R (y :: done) kept other := by
  have hsplit : Merging R done kept ([y] ++ other) := h
  exact hsplit.takeOther (List.forall_mem_singleton.2 hy)

/-- The kept element goes behind everything else. -/
theorem finish (h : Merging R done [x] other) : (done.reverse ++ other ++ [x]).Pairwise R := by
  refine List.pairwise_append.2 ⟨h.otherOrder, List.pairwise_singleton .., fun y hy z hz => ?_⟩
  obtain rfl := List.mem_singleton.1 hz
  obtain hy | hy := List.mem_append.1 hy
  · exact (List.pairwise_append.1 h.keptOrder).2.2 y hy z hz
  · exact h.lastBehind z rfl y hy

/-- What stands before the next element of a run stands before the whole run. -/
theorem before_kept [IsTrans α R] {z : α} (h : Merging R done (x :: kept) other) (hz : R z x) :
    ∀ w ∈ x :: kept, R z w :=
  have hx := (List.pairwise_cons.1 (List.pairwise_append.1 h.keptOrder).2.1).1
  List.forall_mem_cons.2 ⟨hz, fun w hw => trans_of R hz (hx w hw)⟩

/-- What stands before the head of the other run stands before all of it. -/
theorem before_other [IsTrans α R] {z : α} (h : Merging R done kept (y :: other)) (hz : R z y) :
    ∀ w ∈ y :: other, R z w :=
  have hy := (List.pairwise_cons.1 (List.pairwise_append.1 h.otherOrder).2.1).1
  List.forall_mem_cons.2 ⟨hz, fun w hw => trans_of R hz (hy w hw)⟩

end Merging

/-! ## Stretches -/

/-- A list in the opposite order is in order when it is reversed. -/
theorem pairwise_reverse_of_flip {l : List α} (h : l.Pairwise (flip R)) : l.reverse.Pairwise R :=
  List.pairwise_reverse.2 h

instance isTrans_flip [IsTrans α R] : IsTrans α (flip R) := ⟨fun _ _ _ h₁ h₂ => trans_of R h₂ h₁⟩

section Stretches

variable {p : α → Bool} {l : List α} {y : α} {hint : Nat}

/-- A run is cut where an element belongs. -/
theorem exists_cut_of_iff [IsTrans α R] (hl : l.Pairwise R) (hbefore : ∀ z ∈ l, p z = true ↔ R z y)
    (hbehind : ∀ z ∈ l, p z = false ↔ R y z) :
    ∃ front back, l = front ++ back ∧ (∀ z ∈ front, p z = true) ∧ (∀ z ∈ back, p z = false) ∧
      (∀ z ∈ front, R z y) ∧ ∀ z ∈ back, R y z := by
  have hcut : l.Pairwise fun z w => p w = true → p z = true :=
    hl.imp_of_mem fun hz hw hzw hwy => (hbefore _ hz).2 (trans_of R hzw ((hbefore _ hw).1 hwy))
  obtain ⟨front, back, rfl, hfront, hback⟩ := exists_cut_of_pairwise hcut
  exact ⟨front, back, rfl, hfront, hback,
    fun z hz => (hbefore z (List.mem_append_left _ hz)).1 (hfront z hz),
    fun z hz => (hbehind z (List.mem_append_right _ hz)).1 (hback z hz)⟩

variable [IsStrictOrder α R]

/-- The stretch of a run that stands before an element. -/
theorem exists_stretch (hl : l.Pairwise R) (h : ∀ z ∈ l, AsksBefore p R y z)
    (hhint : hint < l.length) :
    ∃ front back, l = front ++ back ∧ gallop (fun n => (l[n]?).any p) l.length hint = front.length ∧
      (∀ z ∈ front, R z y) ∧ ∀ z ∈ back, R y z := by
  obtain ⟨front, back, rfl, hfront, hback, hbefore, hbehind⟩ :=
    exists_cut_of_iff hl (fun z hz => (h z hz).true_iff) fun z hz => (h z hz).false_iff
  exact ⟨front, back, rfl, gallop_cut hfront hback hhint, hbefore, hbehind⟩

/-- The stretch of a run that stands behind an element, looked for from the back. -/
theorem exists_stretch_back (hl : l.Pairwise (flip R)) (h : ∀ z ∈ l, AsksBefore p R y z)
    (hhint : hint < l.length) :
    ∃ front back, l = front ++ back ∧
      l.length - gallop (fun n => (l[l.length - 1 - n]?).any p) l.length hint = front.length ∧
      (∀ z ∈ front, R y z) ∧ ∀ z ∈ back, R z y := by
  -- In the reverse order the elements in front are those for which the question is denied.
  obtain ⟨front, back, rfl, hfront, hback, hbehind, hbefore⟩ :=
    exists_cut_of_iff (p := fun z => !p z) (y := y) hl
      (fun z hz => by simpa [flip] using (h z hz).false_iff)
      fun z hz => by simpa [flip] using (h z hz).true_iff
  refine ⟨front, back, rfl, ?_, hbehind, hbefore⟩
  rw [gallop_cut_reverse (fun z hz => by simpa using hfront z hz)
    (fun z hz => by simpa using hback z hz) hhint, List.length_append, Nat.add_sub_cancel]

end Stretches

/-! ## Merging two runs -/

section Runs

variable [IsStrictOrder α R]

/-- A merge from the front with the given fuel puts what it is given in order. -/
def MergesForward (below : α → α → Bool) (R : α → α → Prop) (fuel : Nat) : Prop :=
  ∀ {threshold : Nat} {pace : MergePace} {done a b : List α}, a.length + b.length ≤ fuel →
    Merging R done a b → TellsAcross below R a b →
    (mergeForward below fuel threshold pace done a b).1.Pairwise R

/-- A merge from the back with the given fuel puts what it is given in order. -/
def MergesBackward (below : α → α → Bool) (R : α → α → Prop) (fuel : Nat) : Prop :=
  ∀ {threshold : Nat} {pace : MergePace} {a b done : List α}, a.length + b.length ≤ fuel →
    Merging (flip R) done b a → TellsAcross below R a b →
    (mergeBackward below fuel threshold pace a b done).1.Pairwise R

variable {fuel threshold wins₁ wins₂ : Nat} {done a b : List α} {x y : α}

/-- One step of a merge from the front takes the smaller head. -/
theorem MergesForward.stepping (hmerges : MergesForward below R fuel) (ha : a ≠ [])
    (hfuel : a.length + b.length + 1 ≤ fuel) (h : Merging R done (x :: a) (y :: b))
    (htells : TellsAcross below R (x :: a) (y :: b)) :
    (mergeForward below (fuel + 1) threshold (.stepping wins₁ wins₂) done (x :: a)
      (y :: b)).1.Pairwise
      R := by
  have hxy := htells x List.mem_cons_self y List.mem_cons_self
  rw [mergeForward]
  · -- The comparison tells which head stands first, and that one stands before all of the other
    -- run.
    cases hbelow : below y x with
    | true =>
      have hnext : Merging R (y :: done) (x :: a) b :=
        h.takeOtherHead (h.before_kept (hxy.below_iff.1 hbelow))
      have hrest := htells.mono (List.Subset.refl _) (List.subset_cons_self y b)
      simp only [Bool.not_true, Bool.false_eq_true, if_false]
      split <;> exact hmerges (by rw [List.length_cons]; omega) hnext hrest
    | false =>
      have hnext : Merging R (x :: done) a (y :: b) :=
        h.takeKeptHead (h.before_other (hxy.not_below_iff.1 hbelow))
      have hrest := htells.mono (List.subset_cons_self x a) (List.Subset.refl _)
      simp only [Bool.not_false, if_true]
      split <;> exact hmerges (by rw [List.length_cons]; omega) hnext hrest
  · exact ha

/-- A gallop of a merge from the front takes all that stands before a head. -/
theorem MergesForward.galloping (hmerges : MergesForward below R fuel) (ha : a ≠ [])
    (hfuel : a.length + b.length + 1 ≤ fuel) (h : Merging R done (x :: a) (y :: b))
    (htells : TellsAcross below R (x :: a) (y :: b)) :
    (mergeForward below (fuel + 1) threshold .galloping done (x :: a) (y :: b)).1.Pairwise R := by
  -- First what of the first run stands before `y`, then `y` itself.
  obtain ⟨front, back, hcut, hplace, hfront, hback⟩ := exists_stretch
    (List.pairwise_append.1 h.keptOrder).2.1 (fun z hz =>
      (htells z hz y List.mem_cons_self).asksEarlier)
    (List.length_pos_of_mem List.mem_cons_self)
  have hlength := congrArg List.length hcut
  rw [List.length_append, List.length_cons] at hlength
  rw [mergeForward]
  · dsimp only
    rw [hplace, hcut, List.drop_left, List.take_left]
    rw [hcut] at h htells
    have h₁ := h.takeKept fun z hz => h.before_other (hfront z hz)
    cases back with
    | nil => exact h₁.otherOrder
    | cons z a =>
      have h₂ := h₁.takeOtherHead hback
      dsimp only
      split
      · next hlast =>
        obtain rfl : a = [] := List.isEmpty_iff.1 hlast.2
        exact h₁.finish
      split
      · next hnil =>
        obtain rfl : b = [] := List.isEmpty_iff.1 hnil
        simpa using h₂.keptOrder
      next hb =>
      -- Then what of the second run stands before `z`, then `z` itself.
      obtain ⟨front₂, back₂, rfl, hplace₂, hfront₂, hback₂⟩ := exists_stretch
        (List.pairwise_append.1 h₂.otherOrder).2.1
        (fun w hw => (htells z (by simp) w (List.mem_cons_of_mem _ hw)).asksLater)
        (List.length_pos_iff.2 fun hnil => hb (List.isEmpty_iff.2 hnil))
      rw [hplace₂, List.drop_left, List.take_left]
      have h₃ := h₂.takeOther fun w hw => h₂.before_kept (hfront₂ w hw)
      split
      · next hnil =>
        obtain rfl : back₂ = [] := List.isEmpty_iff.1 hnil
        exact h₃.keptOrder
      have h₄ := h₃.takeKeptHead hback₂
      have hrest : TellsAcross below R a back₂ :=
        htells.mono (fun w hw => by simp [hw]) (fun w hw => by simp [hw])
      rw [List.length_cons] at hlength
      rw [List.length_append] at hfuel
      split <;> exact hmerges (by omega) h₄ hrest
  · exact ha

/-- Merging from the front puts two runs in order. -/
theorem mergesForward (fuel : Nat) : MergesForward below R fuel := by
  induction fuel with
  | zero =>
    intro threshold pace done a b hfuel h htells
    obtain rfl : a = [] := List.eq_nil_of_length_eq_zero (by omega)
    simpa [mergeForward] using h.otherOrder
  | succ fuel ih =>
    -- The run that is kept in place needs two elements for a step: its last one is put behind
    -- everything at the end.
    intro threshold pace done a b hfuel h htells
    cases a with
    | nil => simpa [mergeForward] using h.otherOrder
    | cons x a =>
    cases b with
    | nil => simpa [mergeForward] using h.keptOrder
    | cons y b =>
    cases a with
    | nil => exact h.finish
    | cons x' a =>
    simp only [List.length_cons] at hfuel
    cases pace with
    | stepping wins₁ wins₂ => exact ih.stepping (by simp) (by rw [List.length_cons]; omega) h htells
    | galloping => exact ih.galloping (by simp) (by rw [List.length_cons]; omega) h htells

/-- One step of a merge from the back takes the larger last element. -/
theorem MergesBackward.stepping (hmerges : MergesBackward below R fuel) (hb : b ≠ [])
    (hfuel : a.length + b.length + 1 ≤ fuel) (h : Merging (flip R) done (y :: b) (x :: a))
    (htells : TellsAcross below R (x :: a) (y :: b)) :
    (mergeBackward below (fuel + 1) threshold (.stepping wins₁ wins₂) (x :: a)
      (y :: b) done).1.Pairwise
      R := by
  have hxy := htells x List.mem_cons_self y List.mem_cons_self
  rw [mergeBackward]
  · -- Here the last elements are compared, and the larger one is taken.
    cases hbelow : below y x with
    | true =>
      have hnext : Merging (flip R) (x :: done) (y :: b) a :=
        h.takeOtherHead (h.before_kept (hxy.below_iff.1 hbelow))
      have hrest := htells.mono (List.subset_cons_self x a) (List.Subset.refl _)
      simp only [if_true]
      split <;> exact hmerges (by rw [List.length_cons]; omega) hnext hrest
    | false =>
      have hnext : Merging (flip R) (y :: done) b (x :: a) :=
        h.takeKeptHead (h.before_other (hxy.not_below_iff.1 hbelow))
      have hrest := htells.mono (List.Subset.refl _) (List.subset_cons_self y b)
      simp only [Bool.false_eq_true, if_false]
      split <;> exact hmerges (by rw [List.length_cons]; omega) hnext hrest
  · exact hb

/-- A gallop of a merge from the back takes all that stands behind a last element. -/
theorem MergesBackward.galloping (hmerges : MergesBackward below R fuel) (hb : b ≠ [])
    (hfuel : a.length + b.length + 1 ≤ fuel) (h : Merging (flip R) done (y :: b) (x :: a))
    (htells : TellsAcross below R (x :: a) (y :: b)) :
    (mergeBackward below (fuel + 1) threshold .galloping (x :: a) (y :: b) done).1.Pairwise R := by
  -- First what of the first run stands behind `y`, then `y` itself.
  obtain ⟨front, back, hcut, hplace, hfront, hback⟩ := exists_stretch_back
    (List.pairwise_append.1 h.otherOrder).2.1 (fun z hz =>
      (htells z hz y List.mem_cons_self).asksEarlier)
    (Nat.sub_one_lt_of_lt (List.length_pos_of_mem List.mem_cons_self))
  have hlength := congrArg List.length hcut
  rw [List.length_append, List.length_cons] at hlength
  rw [mergeBackward]
  · dsimp only
    rw [hplace, hcut, List.drop_left, List.take_left]
    rw [hcut] at h htells
    have h₁ := h.takeOther fun z hz => h.before_kept (hfront z hz)
    cases back with
    | nil => simpa using pairwise_reverse_of_flip h₁.keptOrder
    | cons z a =>
      have h₂ := h₁.takeKeptHead hback
      have hpos : 0 < b.length := List.length_pos_iff.2 hb
      dsimp only
      split
      · next hone =>
        obtain ⟨w, rfl⟩ := List.length_eq_one_iff.1 (Nat.le_antisymm hone hpos)
        simpa using pairwise_reverse_of_flip h₂.finish
      -- Then what of the second run stands behind `z`, then `z` itself.
      obtain ⟨front₂, back₂, rfl, hplace₂, hfront₂, hback₂⟩ := exists_stretch_back
        (List.pairwise_append.1 h₂.keptOrder).2.1
        (fun w hw =>
          (htells z (by simp) w (List.mem_cons_of_mem _ hw)).asksLater) (Nat.sub_one_lt_of_lt hpos)
      rw [hplace₂, List.drop_left, List.take_left]
      have h₃ := h₂.takeKept fun w hw => h₂.before_other (hfront₂ w hw)
      have h₄ := h₃.takeOtherHead hback₂
      split
      · next hone =>
        obtain hnil | hsingle := Nat.le_one_iff_eq_zero_or_eq_one.1 hone
        · obtain rfl := List.eq_nil_of_length_eq_zero hnil
          simpa using pairwise_reverse_of_flip h₃.otherOrder
        · obtain ⟨w, rfl⟩ := List.length_eq_one_iff.1 hsingle
          simpa using pairwise_reverse_of_flip h₃.finish
      split
      · next hnil =>
        obtain rfl : a = [] := List.isEmpty_iff.1 hnil
        simpa using pairwise_reverse_of_flip h₄.keptOrder
      have hrest : TellsAcross below R a back₂ :=
        htells.mono (fun w hw => by simp [hw]) (fun w hw => by simp [hw])
      rw [List.length_cons] at hlength
      rw [List.length_append] at hfuel
      exact hmerges (by omega) h₄ hrest
  · exact hb

/-- Merging from the back puts two runs in order. -/
theorem mergesBackward (fuel : Nat) : MergesBackward below R fuel := by
  induction fuel with
  | zero =>
    intro threshold pace a b done hfuel h htells
    obtain rfl : a = [] := List.eq_nil_of_length_eq_zero (by omega)
    simpa [mergeBackward] using pairwise_reverse_of_flip h.keptOrder
  | succ fuel ih =>
    -- The runs change their parts: now the second one is kept until its last element.
    intro threshold pace a b done hfuel h htells
    cases a with
    | nil => simpa [mergeBackward] using pairwise_reverse_of_flip h.keptOrder
    | cons x a =>
    cases b with
    | nil => simpa [mergeBackward] using pairwise_reverse_of_flip h.otherOrder
    | cons y b =>
    cases b with
    | nil => simpa [mergeBackward] using pairwise_reverse_of_flip h.finish
    | cons y' b =>
    simp only [List.length_cons] at hfuel
    cases pace with
    | stepping wins₁ wins₂ => exact ih.stepping (by simp) (by rw [List.length_cons]; omega) h htells
    | galloping => exact ih.galloping (by simp) (by rw [List.length_cons]; omega) h htells

omit [IsStrictOrder α R] in
/-- What is merged stands between what stays out of the merge. -/
theorem pairwise_around {front back merged : List α} (ha : (front ++ a).Pairwise R)
    (hb : (b ++ back).Pairwise R) (hfront : ∀ x ∈ front, ∀ y ∈ b ++ back, R x y)
    (hback : ∀ y ∈ back, ∀ x ∈ front ++ a, R x y) (hperm : merged.Perm (a ++ b))
    (hmerged : merged.Pairwise R) : (front ++ merged ++ back).Pairwise R := by
  obtain ⟨hpre, -, hacross⟩ := List.pairwise_append.1 ha
  obtain ⟨-, hpost, hacross'⟩ := List.pairwise_append.1 hb
  refine List.pairwise_append.2 ⟨List.pairwise_append.2 ⟨hpre, hmerged, fun x hx z hz => ?_⟩, hpost,
    fun z hz y hy => ?_⟩
  · -- What comes before both runs comes before each element of either.
    obtain hz | hz := List.mem_append.1 (hperm.subset hz)
    · exact hacross x hx z hz
    · exact hfront x hx z (List.mem_append_left _ hz)
  · -- What comes behind both runs comes behind everything before it.
    obtain hz | hz := List.mem_append.1 hz
    · exact hfront z hz y (List.mem_append_right _ hy)
    · obtain hz | hz := List.mem_append.1 (hperm.subset hz)
      · exact hback y hy z (List.mem_append_right _ hz)
      · exact hacross' z hz y hy

/-- In a list in order every element stands before what the last one stands before. -/
theorem before_of_last {l : List α} (hl : l.Pairwise R) (hx : l.getLast? = some x) (hy : R x y) :
    ∀ z ∈ l, R z y := by
  obtain ⟨init, rfl⟩ := List.getLast?_eq_some_iff.1 hx
  intro z hz
  obtain hz | hz := List.mem_append.1 hz
  · exact trans_of R ((List.pairwise_append.1 hl).2.2 z hz x List.mem_cons_self) hy
  · exact List.mem_singleton.1 hz ▸ hy

/-- In a list in order every element stands behind what the first one stands behind. -/
theorem behind_of_head {l : List α} (hl : l.Pairwise R) (hy : l.head? = some y) (hx : R x y) :
    ∀ z ∈ l, R x z := by
  obtain ⟨rest, rfl⟩ := List.head?_eq_some_iff.1 hy
  exact List.forall_mem_cons.2 ⟨hx, fun z hz => trans_of R hx ((List.pairwise_cons.1 hl).1 z hz)⟩

/-- What is left of two runs, the first element of the second one before all of the first, is merged
from the front. -/
theorem pairwise_mergedForward (ha : (x :: a).Pairwise R) (hb : (y :: b).Pairwise R)
    (htells : TellsAcross below R (x :: a) (y :: b)) (hfirst : ∀ z ∈ x :: a, R y z)
    (hlast : ∀ w ∈ (x :: a).getLast?, ∀ z ∈ y :: b, R z w)
      (hfuel : a.length + b.length + 1 ≤ fuel) :
    (mergeForward below fuel threshold (.stepping 0 0) [y] (x :: a) b).1.Pairwise R := by
  refine mergesForward fuel (by rw [List.length_cons]; omega) ⟨?_, hb, fun w hw z hz => ?_⟩
    (htells.mono (List.Subset.refl _) (List.subset_cons_self y b))
  · exact List.pairwise_cons.2 ⟨hfirst, ha⟩
  · exact hlast w hw z (List.mem_cons_of_mem _ hz)

omit [IsStrictOrder α R] in
/-- Merging from the back loses nothing. -/
theorem mergedBackward_perm {pace : MergePace} :
    (mergeBackward below fuel threshold pace a.reverse b.reverse [x]).1.Perm (a ++ [x] ++ b) := by
  refine (mergeBackward_perm ..).trans ?_
  refine ((List.reverse_perm a).append (List.reverse_perm b)).append_right [x] |>.trans ?_
  rw [List.append_assoc, List.append_assoc]
  exact List.perm_append_comm.append_left _

/-- What is left of two runs, the last element of the first one behind all of the second, is merged
from the back. -/
theorem pairwise_mergedBackward (ha : (a ++ [x]).Pairwise R) (hb : (y :: b).Pairwise R)
    (htells : TellsAcross below R (a ++ [x]) (y :: b)) (hfirst : ∀ z ∈ a ++ [x], R y z)
    (hlast : ∀ z ∈ y :: b, R z x) (hfuel : a.length + b.length + 1 ≤ fuel) :
    (mergeBackward below fuel threshold (.stepping 0 0) a.reverse
      (y :: b).reverse [x]).1.Pairwise R := by
  -- Merging from the back works on reversed runs, whose order is the opposite one.
  refine mergesBackward fuel ?_ ⟨?_, ?_, fun w hw v hv => ?_⟩
    (htells.mono (fun v hv => ?_) fun v hv => List.mem_reverse.1 hv)
  · rw [List.length_reverse, List.length_reverse, List.length_cons]
    omega
  · -- The last element of the first run has been taken, and it stands behind the second one.
    exact List.pairwise_cons.2 ⟨fun w hw => hlast w (List.mem_reverse.1 hw),
      List.pairwise_reverse.2 hb⟩
  · rw [← List.reverse_append]
    exact List.pairwise_reverse.2 ha
  · -- The first element of the second run stands before all of the first one.
    rw [List.getLast?_reverse, List.head?_cons, Option.mem_some_iff] at hw
    exact hw ▸ hfirst v (List.mem_append_left _ (List.mem_reverse.1 hv))
  · exact List.mem_append_left _ (List.mem_reverse.1 hv)

/-- **Merging puts two runs in order.** -/
theorem mergeRuns_pairwise (ha : a.Pairwise R) (hb : b.Pairwise R)
    (htells : TellsAcross below R a b) :
    (mergeRuns below threshold a b).1.Pairwise R := by
  cases hx : a.getLast? with
  | none =>
    obtain rfl : a = [] := List.getLast?_eq_none_iff.1 hx
    simpa [mergeRuns] using hb
  | some x =>
  cases hy : b.head? with
  | none =>
    obtain rfl : b = [] := List.head?_eq_none_iff.1 hy
    simpa [mergeRuns] using ha
  | some y =>
    have hxa := List.mem_of_getLast? hx
    have hyb := List.mem_of_head? hy
    -- What stays out of the merge: the start of the first run and the end of the second.
    obtain ⟨front, a', rfl, hplace, hfront, ha'⟩ := exists_stretch ha
      (fun z hz => (htells z hz y hyb).asksEarlier) (List.length_pos_of_mem hxa)
    obtain ⟨b', back, rfl, hplace₂, hb', hback⟩ := exists_stretch hb
      (fun z hz =>
        (htells x hxa z hz).asksLater) (Nat.sub_one_lt_of_lt (List.length_pos_of_mem hyb))
    have hout : ∀ merged : List α, merged.Perm (a' ++ b') → merged.Pairwise R →
        (front ++ merged ++ back).Pairwise R := fun merged =>
      pairwise_around ha hb (fun z hz => behind_of_head hb hy (hfront z hz))
        fun z hz => before_of_last ha hx (hback z hz)
    obtain ⟨-, ha'', -⟩ := List.pairwise_append.1 ha
    obtain ⟨hb'', -, -⟩ := List.pairwise_append.1 hb
    have htells' :=
      htells.mono (List.subset_append_right front a') (List.subset_append_left b' back)
    unfold mergeRuns
    simp only [hx, hy, Option.any_some]
    rw [hplace, hplace₂, List.drop_left, List.take_left, List.take_left, List.drop_left]
    split
    · next z a w b =>
      obtain rfl : w = y := by simpa using hy
      have hlast : ∀ v ∈ (z :: a).getLast?, v = x := by
        intro v hv
        rw [List.getLast?_append, Option.mem_def.1 hv] at hx
        simpa using hx
      split
      · refine hout _ ((mergeForward_perm ..).trans List.perm_middle.symm) ?_
        refine pairwise_mergedForward ha'' hb'' htells' ha' (fun v hv => hlast v hv ▸ hb') ?_
        simp only [List.length_append, List.length_cons]
        omega
      · split
        · next hnil => simp at hnil
        · next v rest hrest =>
          obtain ⟨init, rfl⟩ : ∃ init : List α, rest = init.reverse :=
            ⟨_, (List.reverse_reverse rest).symm⟩
          have hrun : z :: a = init ++ [v] := by
            rw [← List.reverse_reverse (z :: a), hrest, List.reverse_cons, List.reverse_reverse]
          obtain rfl : v = x := hlast v (by rw [hrun, List.getLast?_concat]; rfl)
          rw [hrun] at ha'' htells' ha' hout
          have hlength := congrArg List.length hrun
          refine hout _ mergedBackward_perm (pairwise_mergedBackward ha'' hb'' htells' ha' hb' ?_)
          simp only [List.length_append, List.length_cons] at hlength ⊢
          omega
    · next hne =>
      rw [← List.append_assoc, List.append_assoc front]
      refine hout _ (List.Perm.refl _) ?_
      cases a' with
      | nil => exact hb''
      | cons z a =>
        cases b' with
        | nil => simpa using ha''
        | cons w b => exact (hne z a w b rfl rfl).elim

end Runs

end SchemaDiagram
