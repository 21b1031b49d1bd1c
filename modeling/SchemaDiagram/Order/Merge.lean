import SchemaDiagram.Order.Search

/-! # Merging two runs

Two neighbouring runs are merged element by element, the smaller one first and of two equal ones
that of the first run. Where one run has won several times in a row, the merge *gallops*: it takes
over whole stretches, found by `gallop`, as long as they are long enough. How many wins it takes
to gallop is a *threshold* that falls while galloping pays and rises when it does not.

The merge works from the front if the first run is the shorter one, else from the back. For a
consistent order this makes no difference; for any other comparison it decides which
arrangement comes out.

* **`mergeForward`**, **`mergeBackward`** — the merge in both directions.
* **`mergeRuns`** — two runs as one; `mergeRuns_perm` says that nothing is lost. -/

namespace SchemaDiagram

variable {α : Type}

/-- How a merge goes on. -/
inductive MergePace where
  /-- Element by element; each run has won as often in a row. -/
  | stepping (first second : Nat)
  /-- Stretch by stretch. -/
  | galloping

/-- How long a stretch has to be for a merge to keep galloping. -/
def longStretch : Nat := 7

/-- How a merge goes on after one element of the first (`true`) or second run: with more than a
certain number of wins it begins to gallop. -/
def MergePace.afterWin (first : Bool) (threshold wins₁ wins₂ : Nat) : MergePace × Nat :=
  let (w₁, w₂) := if first then (wins₁ + 1, 0) else (0, wins₂ + 1)
  if threshold ≤ max w₁ w₂ then (galloping, threshold + 1) else (stepping w₁ w₂, threshold)

/-- The threshold while a merge gallops. -/
def lowered (threshold : Nat) : Nat := if 1 < threshold then threshold - 1 else threshold

/-- How a merge goes on after two stretches of the given lengths. -/
def MergePace.afterStretches (threshold n₁ n₂ : Nat) : MergePace × Nat :=
  if longStretch ≤ n₁ ∨ longStretch ≤ n₂ then (galloping, threshold)
  else (stepping 0 0, threshold + 1)

/-- Merges from the front: the result so far, turned round, is `done`. The first run keeps its last
element for the end. -/
def mergeForward (below : α → α → Bool) : (fuel threshold : Nat) → MergePace → (done a b : List α) →
    List α × Nat
  | 0, threshold, _, done, a, b => (done.reverse ++ a ++ b, threshold)
  | fuel + 1, threshold, pace, done, a, b =>
    match a, b with
    | [], _ | _, [] => (done.reverse ++ a ++ b, threshold)
    | [x], _ => (done.reverse ++ b ++ [x], threshold)
    | x :: a', y :: b' =>
      match pace with
      | .stepping wins₁ wins₂ =>
        let firstWins := !below y x
        let (pace, threshold') := MergePace.afterWin firstWins threshold wins₁ wins₂
        let (done, a, b) := if firstWins then (x :: done, a', b) else (y :: done, a, b')
        -- A merge that ends here has not begun to gallop.
        if a.length ≤ 1 ∨ b.isEmpty then mergeForward below fuel threshold (.stepping 0 0) done a b
        else mergeForward below fuel threshold' pace done a b
      | .galloping =>
        let threshold := lowered threshold
        let n₁ := gallop (fun n => (a[n]?).any fun z => !below y z) a.length 0
        let done := (a.take n₁).reverse ++ done
        match a.drop n₁ with
        | [] => (done.reverse ++ b, threshold)
        | x :: a' =>
          if n₁ ≠ 0 ∧ a'.isEmpty then (done.reverse ++ b ++ [x], threshold)
          else if b'.isEmpty then (done.reverse ++ [y] ++ x :: a', threshold)
          else
            let n₂ := gallop (fun n => (b'[n]?).any fun z => below z x) b'.length 0
            let done := (b'.take n₂).reverse ++ y :: done
            let b := b'.drop n₂
            if b.isEmpty then (done.reverse ++ x :: a', threshold)
            else
              let (pace, threshold') := MergePace.afterStretches threshold n₁ n₂
              if a'.length ≤ 1 then
                mergeForward below fuel threshold (.stepping 0 0) (x :: done) a' b
              else mergeForward below fuel threshold' pace (x :: done) a' b

/-- Merges from the back two runs that are turned round; the result so far is `done`. The second run
keeps its first element for the end. -/
def mergeBackward (below : α → α → Bool) : (fuel threshold : Nat) → MergePace →
    (a b done : List α) → List α × Nat
  | 0, threshold, _, a, b, done => (a.reverse ++ b.reverse ++ done, threshold)
  | fuel + 1, threshold, pace, a, b, done =>
    match a, b with
    | [], _ | _, [] => (a.reverse ++ b.reverse ++ done, threshold)
    | _, [y] => (y :: (a.reverse ++ done), threshold)
    | x :: a', y :: b' =>
      match pace with
      | .stepping wins₁ wins₂ =>
        let firstWins := below y x
        let (pace, threshold') := MergePace.afterWin firstWins threshold wins₁ wins₂
        let (a, b, done) := if firstWins then (a', b, x :: done) else (a, b', y :: done)
        -- A merge that ends here has not begun to gallop.
        if a.isEmpty ∨ b.length ≤ 1 then mergeBackward below fuel threshold (.stepping 0 0) a b done
        else mergeBackward below fuel threshold' pace a b done
      | .galloping =>
        let threshold := lowered threshold
        let n₁ := a.length - gallop
          (fun n => (a[a.length - 1 - n]?).any fun z => !below y z) a.length (a.length - 1)
        let done := (a.take n₁).reverse ++ done
        match a.drop n₁ with
        | [] => (b.reverse ++ done, threshold)
        | x :: a' =>
          if b'.length ≤ 1 then (b'.reverse ++ a'.reverse ++ x :: y :: done, threshold)
          else
            let n₂ := b'.length - gallop
              (fun n => (b'[b'.length - 1 - n]?).any fun z => below z x) b'.length (b'.length - 1)
            let done := (b'.take n₂).reverse ++ y :: done
            let b := b'.drop n₂
            -- The second run has come to its end, or to its first element.
            if b.length ≤ 1 then (b ++ a'.reverse ++ x :: done, threshold)
            else
              let (pace, threshold') := MergePace.afterStretches threshold n₁ n₂
              if a'.isEmpty then (b.reverse ++ x :: done, threshold)
              else mergeBackward below fuel threshold' pace a' b (x :: done)

/-- Two neighbouring runs as one, with the threshold after it. What stands well at the start of the
first and at the end of the second run stays out of the merge. -/
def mergeRuns (below : α → α → Bool) (threshold : Nat) (a b : List α) : List α × Nat :=
  let n := gallop (fun n => (a[n]?).any fun z => b.head?.any fun y => !below y z) a.length 0
  let m := gallop (fun n => (b[n]?).any fun z => a.getLast?.any fun x => below z x) b.length
    (b.length - 1)
  let fuel := a.length + b.length
  match a.drop n, b.take m with
  | x :: a', y :: b' =>
    let (merged, threshold) :=
      if (x :: a').length ≤ (y :: b').length then
        mergeForward below fuel threshold (.stepping 0 0) [y] (x :: a') b'
      else match (x :: a').reverse with
        | [] => (y :: b', threshold)
        | z :: rest => mergeBackward below fuel threshold (.stepping 0 0) rest (y :: b').reverse [z]
    (a.take n ++ merged ++ b.drop m, threshold)
  | _, _ => (a ++ b, threshold)

/-! ## Nothing is lost -/

open Classical in
/-- A list is a rearrangement of another one if it holds every element as often. -/
theorem perm_of_forall_count {l m : List α} (h : ∀ c, l.count c = m.count c) : l.Perm m :=
  List.perm_iff_count.2 h

open Classical in
/-- A cut of a list loses nothing. -/
theorem count_take_add_count_drop (n : Nat) (l : List α) (c : α) :
    (l.take n).count c + (l.drop n).count c = l.count c := by
  rw [← List.count_append, List.take_append_drop]

/-- A merge from the front takes every element of both runs once. -/
theorem mergeForward_perm (below : α → α → Bool) (fuel threshold : Nat) (pace : MergePace)
    (done a b : List α) :
    (mergeForward below fuel threshold pace done a b).1.Perm (done ++ a ++ b) := by
  classical
  refine perm_of_forall_count fun c => ?_
  induction fuel generalizing threshold pace done a b with
  | zero => simp [mergeForward]
  | succ fuel ih =>
    unfold mergeForward
    split
    · simp
    · simp
    · simp [List.count_cons]
    · next x a' y b' _ =>
      split
      · dsimp only
        split <;> split <;> simp_all [List.count_cons] <;> omega
      · dsimp only
        generalize gallop _ (x :: a').length 0 = n₁
        have hcut := count_take_add_count_drop n₁ (x :: a') c
        split
        · next h =>
          rw [h] at hcut
          simp_all [List.count_cons]
          omega
        · next z a'' h =>
          rw [h] at hcut
          split
          · simp_all [List.count_cons]
            omega
          · split
            · simp_all [List.count_cons]
              omega
            · generalize gallop _ b'.length 0 = n₂
              have hcut₂ := count_take_add_count_drop n₂ b' c
              split
              · next hb =>
                rw [List.isEmpty_iff.1 hb] at hcut₂
                simp only [List.count_append, List.count_reverse, List.count_cons, List.count_nil]
                  at hcut hcut₂ ⊢
                omega
              · split <;> simp_all [List.count_cons] <;> omega

/-- A merge from the back takes every element of both runs once. -/
theorem mergeBackward_perm (below : α → α → Bool) (fuel threshold : Nat) (pace : MergePace)
    (a b done : List α) :
    (mergeBackward below fuel threshold pace a b done).1.Perm (a ++ b ++ done) := by
  classical
  refine perm_of_forall_count fun c => ?_
  induction fuel generalizing threshold pace a b done with
  | zero => simp [mergeBackward]
  | succ fuel ih =>
    unfold mergeBackward
    split
    · simp
    · simp
    · simp [List.count_cons]
      omega
    · next x a' y b' _ =>
      split
      · dsimp only
        split <;> split <;> simp_all [List.count_cons] <;> omega
      · dsimp only
        generalize (x :: a').length - gallop _ (x :: a').length ((x :: a').length - 1) = n₁
        have hcut := count_take_add_count_drop n₁ (x :: a') c
        split
        · next h =>
          rw [h] at hcut
          simp_all [List.count_cons]
          omega
        · next z a'' h =>
          rw [h] at hcut
          split
          · simp_all [List.count_cons]
            omega
          · generalize b'.length - gallop _ b'.length (b'.length - 1) = n₂
            have hcut₂ := count_take_add_count_drop n₂ b' c
            split
            · simp_all [List.count_cons]
              omega
            · split <;> simp_all [List.count_cons] <;> omega

/-- Merging rearranges the two runs. -/
theorem mergeRuns_perm (below : α → α → Bool) (threshold : Nat) (a b : List α) :
    (mergeRuns below threshold a b).1.Perm (a ++ b) := by
  classical
  unfold mergeRuns
  dsimp only
  generalize gallop _ a.length 0 = n
  generalize gallop _ b.length (b.length - 1) = m
  split
  · next x a' y b' ha hb =>
    have key : ∀ merged : List α, merged.Perm (x :: a' ++ y :: b') →
        (a.take n ++ merged ++ b.drop m).Perm (a ++ b) := by
      intro merged h
      rw [← ha, ← hb] at h
      refine perm_of_forall_count fun c => ?_
      have h₁ := count_take_add_count_drop n a c
      have h₂ := count_take_add_count_drop m b c
      have h₃ := h.count_eq c
      simp only [List.count_append] at h₃ ⊢
      omega
    refine key _ ?_
    split
    · refine (mergeForward_perm below _ _ _ _ _ _).trans ?_
      simp only [List.singleton_append]
      exact List.perm_middle.symm
    · split
      · next h => simp at h
      · next z rest h =>
        refine (mergeBackward_perm below _ _ _ _ _ _).trans ?_
        have hz : (z :: rest).Perm (x :: a') := h ▸ List.reverse_perm _
        refine perm_of_forall_count fun c => ?_
        have := hz.count_eq c
        simp only [List.count_append, List.count_cons, List.count_nil, List.count_reverse] at this ⊢
        omega
  · exact List.Perm.refl _

end SchemaDiagram
