import SchemaDiagram.Order.Search

/-! # Runs of a list

A run is a sorted stretch of a list: its longest ascending start, or its longest strictly
descending one turned round. A run that is too short is filled up with the elements after it, one
after another, at the place that a search by halves finds behind all elements that are not larger.

* **`firstRun`** — the first run of a list, with the elements after it.
* **`runsOf`** — a list as runs of at least a certain size. -/

namespace SchemaDiagram

variable {α : Type}

/-- The sorted list with `x` behind every element that it is not below. -/
def binaryInsert (below : α → α → Bool) (sorted : List α) (x : α) : List α :=
  let isBefore (n : Nat) : Bool := (sorted[n]?).any fun y => !below x y
  let place := bisect isBefore sorted.length 0 sorted.length
  sorted.take place ++ x :: sorted.drop place

/-- How many of the next elements continue a descending (`true`) or ascending (`false`) run after
`last`. -/
def runLength (below : α → α → Bool) (descending : Bool) (last : α) : List α → Nat
  | [] => 0
  | x :: rest => if below x last = descending then runLength below descending x rest + 1 else 0

/-- The first run of a list that starts with `x`, filled up to `least` elements, and the rest. -/
def firstRun (below : α → α → Bool) (least : Nat) (x : α) : List α → List α × List α
  | [] => ([x], [])
  | y :: rest =>
    let descending := below y x
    let n := runLength below descending y rest
    let run := x :: y :: rest.take n
    let more := (rest.drop n).take (least - run.length)
    (more.foldl (binaryInsert below) (if descending then run.reverse else run),
      (rest.drop n).drop (least - run.length))

/-- An element that is put at its place is the only one added. -/
theorem binaryInsert_perm (below : α → α → Bool) (sorted : List α) (x : α) :
    (binaryInsert below sorted x).Perm (x :: sorted) := by
  unfold binaryInsert
  refine List.perm_middle.trans (List.Perm.cons x ?_)
  rw [List.take_append_drop]

/-- Elements that are put at their places are the only ones added. -/
theorem foldl_binaryInsert_perm (below : α → α → Bool) (sorted rest : List α) :
    (rest.foldl (binaryInsert below) sorted).Perm (sorted ++ rest) := by
  induction rest generalizing sorted with
  | nil => simp
  | cons x rest ih =>
    refine (ih _).trans ?_
    refine ((binaryInsert_perm below sorted x).append_right rest).trans ?_
    exact List.perm_middle.symm

/-- The run and the rest make up the list. -/
theorem firstRun_perm (below : α → α → Bool) (least : Nat) (x : α) (l : List α) :
    ((firstRun below least x l).1 ++ (firstRun below least x l).2).Perm (x :: l) := by
  cases l with
  | nil => exact List.Perm.refl _
  | cons y rest =>
    simp only [firstRun]
    generalize runLength below (below y x) y rest = n
    -- Turning the run round is a rearrangement of it.
    have hrun : (if below y x then (x :: y :: rest.take n).reverse else x :: y :: rest.take n).Perm
        (x :: y :: rest.take n) := by
      split
      · exact List.reverse_perm _
      · exact List.Perm.refl _
    refine ((foldl_binaryInsert_perm below _ _).append_right _).trans ?_
    rw [List.append_assoc, List.take_append_drop]
    refine (hrun.append_right (rest.drop n)).trans ?_
    rw [List.cons_append, List.cons_append, List.take_append_drop]

/-- The rest is shorter than the list. -/
theorem length_firstRun_snd_le (below : α → α → Bool) (least : Nat) (x : α) (l : List α) :
    (firstRun below least x l).2.length ≤ l.length := by
  cases l with
  | nil => exact Nat.le_refl _
  | cons y rest =>
    simp only [firstRun, List.length_drop, List.length_cons]
    omega

/-- The runs of a list, each of at least `least` elements as long as there are that many. -/
def runsOf (below : α → α → Bool) (least : Nat) : List α → List (List α)
  | [] => []
  | x :: rest =>
    have := length_firstRun_snd_le below least x rest
    (firstRun below least x rest).1 :: runsOf below least (firstRun below least x rest).2
termination_by l => l.length
decreasing_by simp only [List.length_cons]; omega

/-- The runs make up the list. -/
theorem flatten_runsOf_perm (below : α → α → Bool) (least : Nat) (l : List α) :
    (runsOf below least l).flatten.Perm l := by
  fun_induction runsOf below least l with
  | case1 => exact List.Perm.refl _
  | case2 x rest _ ih =>
    rw [List.flatten_cons]
    exact (ih.append_left _).trans (firstRun_perm below least x rest)

end SchemaDiagram
