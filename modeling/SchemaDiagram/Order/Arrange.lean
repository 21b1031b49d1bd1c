import SchemaDiagram.Order.Merge
import SchemaDiagram.Order.Run

/-! # Arranging a list

A list is arranged by cutting it into runs and merging the runs. A list of fewer than 64 elements
is a single run. The order of the merges follows the *power* of the border between two runs: the
number of binary digits up to which the middles of both, as fractions of the whole list, are the
same, and one more. Borders of greater power are merged first.

For a consistent order this is *the* stable sort; for a comparison that is not transitive it still
gives one definite arrangement.

* **`arrange`** — the elements of a list in order.
* **`arrange_perm`** — the result is a rearrangement of the list. -/

namespace SchemaDiagram

variable {α : Type}

/-- The least size of a run of a list of `size` elements: the first six binary digits of the size,
rounded up. -/
def leastRun (size : Nat) : Nat :=
  let shift := size.log2 - 5
  if size < 64 then size else (size + (Nat.pow 2 shift - 1)) / Nat.pow 2 shift

/-- One more than the number of binary digits that `a / size` and `b / size` have in common. -/
def commonPower (size : Nat) : (fuel a b : Nat) → Nat
  | 0, _, _ => 1
  | fuel + 1, a, b =>
    if size ≤ a then 1 + commonPower size fuel (2 * (a - size)) (2 * (b - size))
    else if size ≤ b then 1
    else 1 + commonPower size fuel (2 * a) (2 * b)

/-- A run that waits for its merge. -/
structure PendingRun (α : Type) where
  /-- Its elements. -/
  elements : List α
  /-- Where it starts in the whole list. -/
  start : Nat
  /-- The power of the border behind it. -/
  power : Nat

/-- The runs that wait, the last one first, and the threshold for galloping. -/
structure MergeState (α : Type) where
  /-- The runs. -/
  pending : List (PendingRun α)
  /-- The threshold. -/
  threshold : Nat

namespace MergeState

/-- No run waits. -/
def empty : MergeState α := ⟨[], longStretch⟩

/-- The elements of all runs in the order of the list. -/
def elements (s : MergeState α) : List α := (s.pending.reverse.map (·.elements)).flatten

/-- The last two of some runs as one. -/
def mergeTop (below : α → α → Bool) (s : MergeState α) (last before : PendingRun α)
    (rest : List (PendingRun α)) : MergeState α :=
  let (merged, threshold) := mergeRuns below s.threshold before.elements last.elements
  ⟨⟨merged, before.start, before.power⟩ :: rest, threshold⟩

/-- Merges the runs at the borders of greater power. -/
def settle (below : α → α → Bool) (power : Nat) : (fuel : Nat) → MergeState α → MergeState α
  | 0, s => s
  | fuel + 1, s =>
    match s.pending with
    | last :: before :: rest =>
      if power < before.power then settle below power fuel (s.mergeTop below last before rest)
      else s
    | _ => s

/-- A further run behind the others. -/
def push (below : α → α → Bool) (size : Nat) (s : MergeState α) (run : List α) : MergeState α :=
  match s.pending with
  | [] => ⟨[⟨run, 0, 0⟩], s.threshold⟩
  | last :: _ =>
    let stop := last.start + last.elements.length
    -- Twice the middles of both runs.
    let power := commonPower size size (last.start + stop) (2 * stop + run.length)
    let s := s.settle below power s.pending.length
    match s.pending with
    | [] => ⟨[⟨run, stop, 0⟩], s.threshold⟩
    | last :: rest => ⟨⟨run, stop, 0⟩ :: { last with power } :: rest, s.threshold⟩

/-- Merges all runs, of three the two shorter neighbours first. -/
def finish (below : α → α → Bool) : (fuel : Nat) → MergeState α → List α
  | 0, s => s.elements
  | fuel + 1, s =>
    match s.pending with
    | last :: middle :: first :: rest =>
      if first.elements.length < last.elements.length then
        let t := s.mergeTop below middle first rest
        finish below fuel ⟨last :: t.pending, t.threshold⟩
      else finish below fuel (s.mergeTop below last middle (first :: rest))
    | [last, first] => (s.mergeTop below last first []).elements
    | _ => s.elements

/-- Two merged runs hold the elements of both, and the rest is kept. -/
theorem elements_mergeTop_perm (below : α → α → Bool) (s : MergeState α)
    (last before : PendingRun α) (rest : List (PendingRun α)) :
    (s.mergeTop below last before rest).elements.Perm
      ((rest.reverse.map (·.elements)).flatten ++ before.elements ++ last.elements) := by
  simp only [elements, mergeTop, List.reverse_cons, List.map_append, List.map_cons, List.map_nil,
    List.flatten_append, List.flatten_cons, List.flatten_nil, List.append_nil, List.append_assoc]
  exact (mergeRuns_perm below _ _ _).append_left _

/-- No element is lost or added while waiting runs are merged. -/
theorem elements_settle_perm (below : α → α → Bool) (power fuel : Nat) (s : MergeState α) :
    (s.settle below power fuel).elements.Perm s.elements := by
  induction fuel generalizing s with
  | zero => exact List.Perm.refl _
  | succ fuel ih =>
    rw [settle]
    split
    · next last before rest h =>
      split
      · refine (ih _).trans ((elements_mergeTop_perm below s last before rest).trans ?_)
        simp [elements, h]
      · exact List.Perm.refl _
    · exact List.Perm.refl _

/-- A further run adds its elements behind those that wait. -/
theorem elements_push_perm (below : α → α → Bool) (size : Nat) (s : MergeState α) (run : List α) :
    (s.push below size run).elements.Perm (s.elements ++ run) := by
  unfold push
  split
  · next h => simp [elements, h]
  · next last rest h =>
    dsimp only
    have hperm := elements_settle_perm below
      (commonPower size size (last.start + (last.start + last.elements.length))
        (2 * (last.start + last.elements.length) + run.length)) s.pending.length s
    split
    · next h' =>
      have hs : s.elements = [] := List.nil_perm.1 (by simpa [elements, h'] using hperm)
      rw [hs]
      simp [elements]
    · next last' rest' h' =>
      simp only [elements, List.reverse_cons, List.map_append, List.map_cons, List.map_nil,
        List.flatten_append, List.flatten_cons, List.flatten_nil, List.append_nil]
      simp only [elements, h', List.reverse_cons, List.map_append, List.map_cons, List.map_nil,
        List.flatten_append, List.flatten_cons, List.flatten_nil, List.append_nil] at hperm
      exact hperm.append_right run

/-- Further runs add their elements behind those that wait. -/
theorem elements_foldl_push_perm (below : α → α → Bool) (size : Nat) (s : MergeState α)
    (runs : List (List α)) :
    (runs.foldl (push below size) s).elements.Perm (s.elements ++ runs.flatten) := by
  induction runs generalizing s with
  | nil => simp
  | cons run runs ih =>
    refine (ih _).trans ?_
    rw [List.flatten_cons, ← List.append_assoc]
    exact (elements_push_perm below size s run).append_right _

/-- No element is lost or added by the last merges. -/
theorem finish_perm (below : α → α → Bool) (fuel : Nat) (s : MergeState α) :
    (s.finish below fuel).Perm s.elements := by
  induction fuel generalizing s with
  | zero => exact List.Perm.refl _
  | succ fuel ih =>
    rw [finish]
    split
    · next last middle first rest h =>
      dsimp only
      have hs : s.elements = (rest.reverse.map (·.elements)).flatten ++ first.elements ++
          middle.elements ++ last.elements := by simp [elements, h]
      split
      · refine (ih _).trans ?_
        have := (elements_mergeTop_perm below s middle first rest).append_right last.elements
        rw [hs]
        refine List.Perm.trans ?_ this
        simp [elements]
      · refine (ih _).trans ((elements_mergeTop_perm below s last middle (first :: rest)).trans ?_)
        rw [hs]
        simp
    · next last first h =>
      refine (elements_mergeTop_perm below s last first []).trans ?_
      simp [elements, h]
    · exact List.Perm.refl _

end MergeState

/-- The elements of a list in order, where `below x y` says that `x` has to stand before `y`. -/
def arrange (below : α → α → Bool) (l : List α) : List α :=
  let runs := runsOf below (leastRun l.length) l
  (runs.foldl (MergeState.push below l.length) .empty).finish below runs.length

/-- Arranging rearranges the list. -/
theorem arrange_perm (below : α → α → Bool) (l : List α) : (arrange below l).Perm l := by
  refine (MergeState.finish_perm below _ _).trans ?_
  refine (MergeState.elements_foldl_push_perm below _ _ _).trans ?_
  simpa [MergeState.elements, MergeState.empty] using flatten_runsOf_perm below _ l

/-- A list keeps its length when it is arranged. -/
@[simp] theorem length_arrange (below : α → α → Bool) (l : List α) :
    (arrange below l).length = l.length := (arrange_perm below l).length_eq

@[simp] theorem arrange_nil (below : α → α → Bool) : arrange below [] = [] :=
  List.eq_nil_of_length_eq_zero (by simp)

end SchemaDiagram
