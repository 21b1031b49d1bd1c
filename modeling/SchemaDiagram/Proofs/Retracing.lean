import Mathlib.Algebra.Order.Field.Basic
import SchemaDiagram.Geometry.Path

/-! # Paths run through backwards

A path may be run through from its last point to its first one. Every line style treats the two ends
of a path alike: the path between exchanged ends is the path run through backwards. In exact
arithmetic the distances that a path is made of do not depend on the order of the ends either.

* **`retraced`** — the commands of a path in the order from its last point.
* **`points_retraced`** — it has the points of the path in the reverse order.
* **`buildPath_exchange`** — the path between exchanged ends. -/

namespace SchemaDiagram

/-! ## Commands in the reverse order -/

section Commands

variable {K : Type}

/-- The command that draws the way of a command back to where the one before it ends. -/
def PathCommand.back (before c : PathCommand K) : PathCommand K :=
  ⟨c.op, c.controls.reverse, before.target⟩

/-- **A path run through backwards**: a move to its last point, and every command drawn back to
where the command before it ends. The move at its start is not a way and is left out. -/
def retraced (commands : List (PathCommand K)) : List (PathCommand K) :=
  match commands.getLast? with
  | none => []
  | some last => .moveTo last.target :: (commands.zipWith .back commands.tail).reverse

/-- A command that is retraced takes its control points backwards. -/
theorem points_back (before c : PathCommand K) :
    (before.back c).points = c.controls.reverse ++ [before.target] := rfl

/-- **The points of a path run through backwards** are those of the path in the reverse order. -/
theorem points_retraced (start : Point K) (rest : List (PathCommand K)) :
    (retraced (.moveTo start :: rest)).flatMap (·.points)
      = ((PathCommand.moveTo start :: rest).flatMap (·.points)).reverse := by
  -- Behind any first command only its target counts.
  suffices ∀ first : PathCommand K, (retraced (first :: rest)).flatMap (·.points)
      = (first.target :: rest.flatMap (·.points)).reverse from this (.moveTo start)
  induction rest with
  | nil => exact fun first => rfl
  | cons next rest ih =>
    intro first
    have hsplit : retraced (first :: next :: rest)
        = retraced (next :: rest) ++ [first.back next] := by
      simp [retraced, List.getLast?_cons]
    rw [hsplit, List.flatMap_append, ih next, List.flatMap_singleton, points_back,
      List.flatMap_cons]
    simp [PathCommand.points]

end Commands

/-! ## Distances -/

section Distances

variable {K : Type} [LinearOrder K]

/-- The larger one of two numbers is their maximum. -/
theorem larger_eq_max (a b : K) : larger a b = max a b := by
  unfold larger
  split
  next hlt => exact (max_eq_right hlt.le).symm
  next hlt => exact (max_eq_left (not_lt.1 hlt)).symm

/-- The smaller one of two numbers is their minimum. -/
theorem smaller_eq_min (a b : K) : smaller a b = min a b := by
  unfold smaller
  split
  next hlt => exact (min_eq_right hlt.le).symm
  next hlt => exact (min_eq_left (not_lt.1 hlt)).symm

variable [DivisionRing K] [IsStrictOrderedRing K]

/-- The magnitude of a number is its absolute value. -/
theorem magnitude_eq_abs (a : K) : magnitude a = |a| := by
  unfold magnitude
  rw [Nat.cast_zero, zero_sub]
  split
  next hneg => exact (abs_of_neg hneg).symm
  next hneg => exact (abs_of_nonneg (not_lt.1 hneg)).symm

end Distances

/-! ## Paths between exchanged ends -/

section Styles

variable {K : Type} [DivisionRing K] [LinearOrder K]

omit [LinearOrder K] in
/-- The midpoint of two points is the same one in both directions. -/
theorem midpoint_exchange (p q : Point K) : p.midpoint q = q.midpoint p := by
  rw [Point.midpoint, Point.midpoint, add_comm p.x, add_comm p.y]

omit [LinearOrder K] in
/-- The corners of a path are exchanged when it is turned round. -/
theorem corners_exchange (start p₁ p₂ stop : Point K) :
    corners stop p₂ p₁ start = (corners start p₁ p₂ stop).swap := by
  rw [corners, corners, add_comm p₂.x]
  rfl

variable [IsStrictOrderedRing K]

/-- The radius of the fillets is the least one of the radius that is asked for and the halves of
the runs. -/
theorem filletRadius_eq (radius : K) (start c₁ c₂ stop : Point K) :
    filletRadius radius start c₁ c₂ stop
      = min (min (min radius (|c₂.y - c₁.y| / 2)) (|c₁.x - start.x| / 2))
        (|stop.x - c₂.x| / 2) := by
  simp only [filletRadius, smaller_eq_min, magnitude_eq_abs, Nat.cast_ofNat]

/-- The radius of the fillets is the same one when the path is turned round. -/
theorem filletRadius_exchange (radius : K) (start c₁ c₂ stop : Point K) :
    filletRadius radius stop c₂ c₁ start = filletRadius radius start c₁ c₂ stop := by
  rw [filletRadius_eq, filletRadius_eq, abs_sub_comm c₁.y, abs_sub_comm c₂.x, abs_sub_comm start.x,
    min_right_comm]

/-- The radius of the fillets is not negative. -/
theorem filletRadius_nonneg {radius : K} (hradius : 0 ≤ radius) (start c₁ c₂ stop : Point K) :
    0 ≤ filletRadius radius start c₁ c₂ stop := by
  have hhalf : ∀ a b : K, 0 ≤ |a - b| / 2 := fun a b => div_nonneg (abs_nonneg _) zero_le_two
  rw [filletRadius_eq]
  exact le_min (le_min (le_min hradius (hhalf _ _)) (hhalf _ _)) (hhalf _ _)

/-- A path with a run of no length has no fillets. -/
theorem filletRadius_eq_zero {radius : K} (hradius : 0 ≤ radius) {start c₁ c₂ stop : Point K}
    (h : c₂.y = c₁.y ∨ c₁.x = start.x ∨ stop.x = c₂.x) :
      filletRadius radius start c₁ c₂ stop = 0 := by
  refine le_antisymm ?_ (filletRadius_nonneg hradius start c₁ c₂ stop)
  rw [filletRadius_eq]
  obtain h | h | h := h
  · exact (min_le_left _ _).trans ((min_le_left _ _).trans ((min_le_right _ _).trans (by simp [h])))
  · exact (min_le_left _ _).trans ((min_le_right _ _).trans (by simp [h]))
  · exact (min_le_right _ _).trans (by simp [h])

omit [IsStrictOrderedRing K] in
/-- A fillet towards `b` from `a` is one away from `a` as seen from `b`; where there is no way
between the two, the fillet has no radius. -/
theorem along_exchange {a b x r : K} (h : a = b → r = 0) :
    along (!decide (b < a)) x r = along (decide (a < b)) x r := by
  obtain hlt | heq | hgt := lt_trichotomy a b
  · simp [hlt, hlt.not_gt]
  · simp [h heq, along]
  · simp [hgt, hgt.not_gt]

/-- The rounded path between exchanged points is the same one, retraced. -/
theorem roundRectilinearPath_exchange {radius : K} (hradius : 0 ≤ radius)
    (start p₁ p₂ stop : Point K) :
    roundRectilinearPath radius stop p₂ p₁ start
      = retraced (roundRectilinearPath radius start p₁ p₂ stop) := by
  obtain ⟨⟨c₁, c₂⟩, hcorners⟩ : ∃ c, corners start p₁ p₂ stop = c := ⟨_, rfl⟩
  -- The corners are on the heights of the ends.
  have hy₁ : c₁.y = start.y := by rw [← (Prod.mk.inj hcorners).1]
  have hy₂ : c₂.y = stop.y := by rw [← (Prod.mk.inj hcorners).2]
  unfold roundRectilinearPath
  rw [corners_exchange, hcorners]
  dsimp only [Prod.swap]
  rw [filletRadius_exchange]
  -- Where two of the points coincide, there is no room for a radius.
  have hzero : c₂.y = c₁.y ∨ c₁.x = start.x ∨ stop.x = c₂.x →
      filletRadius radius start c₁ c₂ stop = 0 :=
    filletRadius_eq_zero hradius
  generalize filletRadius radius start c₁ c₂ stop = r at hzero
  -- Steps go the other way, which matters only where the points differ.
  have hright : along (!decide (stop.x < c₂.x)) c₂.x r = along (decide (c₂.x < stop.x)) c₂.x r :=
    along_exchange fun heq => hzero (.inr (.inr heq.symm))
  have hleft : along (!decide (start.x < c₁.x)) c₁.x r = along (decide (c₁.x < start.x)) c₁.x r :=
    along_exchange fun heq => hzero (.inr (.inl heq))
  have hdown : along (!decide (stop.y < start.y)) c₁.y r
      = along (decide (start.y < stop.y)) c₁.y r :=
    along_exchange fun heq => hzero (.inl (by rw [hy₁, hy₂, heq]))
  have hup : along (!decide (start.y < stop.y)) c₂.y r = along (decide (stop.y < start.y)) c₂.y r :=
    along_exchange fun heq => hzero (.inl (by rw [hy₁, hy₂, heq]))
  rw [hright, hleft, hdown, hup]
  rfl

/-- **The path between exchanged ends is the path run through backwards**, in every line style. -/
theorem buildPath_exchange (style : LineStyle) {radius : K}
    (hradius : style = .roundRectilinear → 0 ≤ radius) (start p₁ p₂ stop : Point K) :
    buildPath style radius stop p₂ p₁ start
      = retraced (buildPath style radius start p₁ p₂ stop) := by
  cases style with
  | curve => rfl
  | rectilinear =>
    simp only [buildPath, rectilinearPath, corners_exchange start]
    rfl
  | roundRectilinear => exact roundRectilinearPath_exchange (hradius rfl) start p₁ p₂ stop
  | oblique => rfl
  | roundOblique =>
    simp only [buildPath, roundObliquePath, midpoint_exchange p₂]
    rfl

end Styles

end SchemaDiagram
