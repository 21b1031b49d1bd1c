import Mathlib.Algebra.Order.Ring.Rat
import Mathlib.Analysis.Convex.Basic
import Mathlib.Tactic.NoncommRing
import SchemaDiagram.Proofs.Retracing

/-! # Fillets

A path along the axes with rounded corners has the runs of the path without: each of its two corners
is cut off by a fillet, a curve that leaves one of the runs at the corner and joins the other one at
the same distance from it. This distance is at most half of every run, so that no fillet reaches
past the middle of a run, and where a run has no length the fillets have none either. In exact
arithmetic the straight pieces of the path then lie on the runs, whichever way these point.

* **`Point.wayTo`** — the points of the straight line between two points.
* **`Fillet.Fits`** — a fillet begins and ends on the runs at its corner, at its radius from it.
* **`FollowsRuns`** — the straight pieces lie on the runs, and the fillets do not overlap.
* **`roundRectilinearPath_follows`** — a path with rounded corners follows the one without. -/

namespace SchemaDiagram

variable {K : Type} [DivisionRing K] [LinearOrder K]

/-! ## Halves -/

section Halves

variable [IsStrictOrderedRing K]

/-- The middle is as far from the one end as from the other. -/
theorem middle_sub (a b : K) : (a + b) / 2 - a = (b - a) / 2 := by
  calc (a + b) / 2 - a = (a + b) / 2 - (a + a) / 2 := by rw [add_self_div_two]
    _ = (b - a) / 2 := by rw [← sub_div, add_sub_add_left_eq_sub]

/-- The second half of an interval is as long as half of it. -/
theorem sub_middle (a b : K) : b - (a + b) / 2 = (b - a) / 2 := by
  calc b - (a + b) / 2 = (b + b) / 2 - (a + b) / 2 := by rw [add_self_div_two]
    _ = (b - a) / 2 := by rw [← sub_div, add_sub_add_right_eq_sub]

/-- What is in both halves is the middle: the halves lie one behind the other, or both have no
length. -/
theorem eq_middle {a b v s t : K} (hs : s ≤ 1) (ht : 0 ≤ t) (hleft : v = a + s * ((a + b) / 2 - a))
    (hright : v = (a + b) / 2 + t * (b - (a + b) / 2)) : v = (a + b) / 2 := by
  have hmiddle : (a + b) / 2 = a + (b - a) / 2 := sub_eq_iff_eq_add'.1 (middle_sub a b)
  rw [middle_sub] at hleft
  rw [sub_middle, hmiddle] at hright
  rw [hmiddle]
  generalize (b - a) / 2 = half at *
  -- The two ways to say where the point is differ by a multiple of the half.
  have hprod : (1 - s + t) * half = 0 := by
    calc (1 - s + t) * half = (a + half + t * half) - (a + s * half) := by noncomm_ring
      _ = 0 := by rw [← hleft, ← hright, sub_self]
  obtain hzero | rfl := mul_eq_zero.1 hprod
  · -- The first half is gone through to its end.
    have hone : s = 1 :=
      le_antisymm hs (by rwa [eq_neg_of_add_eq_zero_right hzero, neg_sub, sub_nonneg] at ht)
    rw [hleft, hone, one_mul]
  · -- The halves have no length.
    rw [hleft, mul_zero]

end Halves

/-! ## Ways -/

namespace Point

/-- **The way from `a` to `b`**: the points of the straight line between the two. -/
def wayTo (a b : Point K) : Set (Point K) :=
  {p | ∃ t ∈ Set.Icc (0 : K) 1, p = ⟨a.x + t * (b.x - a.x), a.y + t * (b.y - a.y)⟩}

/-- The point `p` lies at the distance `r` from `c`. -/
def IsAway (r : K) (c p : Point K) : Prop := 0 ≤ r ∧ (p.x - c.x) ^ 2 + (p.y - c.y) ^ 2 = r ^ 2

/-- **A step of the length `r` from `c` ends at `p`**, in the half of the way to `far` that is next
to `c`. -/
def IsStep (r : K) (c far p : Point K) : Prop := p ∈ c.wayTo (c.midpoint far) ∧ IsAway r c p

variable [IsStrictOrderedRing K]

/-- A way starts at its first end. -/
theorem left_mem_wayTo (a b : Point K) : a ∈ a.wayTo b :=
  ⟨0, ⟨le_rfl, zero_le_one⟩, by simp⟩

/-- A way is the same one in both directions. -/
theorem wayTo_comm (a b : Point K) : a.wayTo b = b.wayTo a := by
  suffices ∀ a b : Point K, a.wayTo b ⊆ b.wayTo a from (this a b).antisymm (this b a)
  rintro a b _ ⟨t, ⟨hpos, hle⟩, rfl⟩
  refine ⟨1 - t, ⟨sub_nonneg.2 hle, sub_le_self 1 hpos⟩, ?_⟩
  congr 1 <;> noncomm_ring

/-- A way stops at its second end. -/
theorem right_mem_wayTo (a b : Point K) : b ∈ a.wayTo b := wayTo_comm b a ▸ left_mem_wayTo b a

/-- The midpoint stands on the way. -/
theorem midpoint_mem_wayTo (a b : Point K) : a.midpoint b ∈ a.wayTo b := by
  have hhalf : ∀ a b : K, (a + b) / 2 = a + 1 / 2 * (b - a) := by
    intro a b
    rw [← sub_eq_iff_eq_add', middle_sub, one_div, div_eq_mul_inv,
      (Commute.ofNat_right (b - a) 2).inv_right₀.eq]
  refine ⟨1 / 2, ⟨div_nonneg zero_le_one zero_le_two, div_le_one_of_le₀ one_le_two zero_le_two⟩, ?_⟩
  rw [midpoint, Nat.cast_ofNat, hhalf, hhalf]

/-- The way between two points of a way is a part of it. -/
theorem wayTo_subset {a b p q : Point K} (hp : p ∈ a.wayTo b) (hq : q ∈ a.wayTo b) :
    p.wayTo q ⊆ a.wayTo b := by
  obtain ⟨s, hs, rfl⟩ := hp
  obtain ⟨t, ht, rfl⟩ := hq
  rintro _ ⟨u, ⟨hpos, hle⟩, rfl⟩
  have hbetween : (1 - u) • s + u • t ∈ Set.Icc (0 : K) 1 :=
    convex_Icc 0 1 hs ht (sub_nonneg.2 hle) hpos (sub_add_cancel 1 u)
  refine ⟨_, hbetween, ?_⟩
  simp only [smul_eq_mul]
  congr 1 <;> noncomm_ring

/-- The first half of a way is part of it. -/
theorem firstHalf_subset (a b : Point K) : a.wayTo (a.midpoint b) ⊆ a.wayTo b :=
  wayTo_subset (left_mem_wayTo a b) (midpoint_mem_wayTo a b)

/-- The halves of a way have only its middle in common. -/
theorem halves_inter_subset (a b : Point K) :
    a.wayTo (a.midpoint b) ∩ (a.midpoint b).wayTo b ⊆ {a.midpoint b} := by
  rintro p ⟨⟨s, ⟨-, hs⟩, hleft⟩, t, ⟨ht, -⟩, hright⟩
  rw [midpoint, Nat.cast_ofNat] at hleft hright
  rw [Set.mem_singleton_iff, midpoint, Nat.cast_ofNat]
  obtain ⟨hx, hy⟩ := (mk.injEq ..).mp hleft
  obtain ⟨hx', hy'⟩ := (mk.injEq ..).mp hright
  exact (mk.injEq ..).mpr ⟨eq_middle hs ht hx hx', eq_middle hs ht hy hy'⟩

end Point

/-! ## Steps along the axes -/

section Steps

variable [IsStrictOrderedRing K] {r : K}

omit [LinearOrder K] [IsStrictOrderedRing K] in
/-- A step along an axis is as long as it is told, in either direction. -/
theorem along_sub_sq (forward : Bool) (a r : K) : (along forward a r - a) ^ 2 = r ^ 2 := by
  cases forward <;> simp [along]

/-- A step towards `b` that is at most half as long as the way there ends in the first half of
it. -/
theorem exists_along_eq {a b : K} (hr : 0 ≤ r) (hle : r ≤ |b - a| / 2) :
    ∃ t ∈ Set.Icc (0 : K) 1, along (decide (a < b)) a r = a + t * ((a + b) / 2 - a) := by
  have hlength : 0 ≤ |b - a| / 2 := div_nonneg (abs_nonneg _) zero_le_two
  obtain ⟨t, ht, rfl⟩ : ∃ t ∈ Set.Icc (0 : K) 1, r = t * (|b - a| / 2) := by
    refine ⟨r / (|b - a| / 2), ⟨div_nonneg hr hlength, div_le_one_of_le₀ hle hlength⟩, ?_⟩
    exact (div_mul_cancel_of_imp fun hzero => le_antisymm (hle.trans_eq hzero) hr).symm
  refine ⟨t, ht, ?_⟩
  rw [middle_sub]
  by_cases hlt : a < b
  · rw [abs_of_pos (sub_pos.2 hlt)]
    simp only [hlt, decide_true, along, if_true]
  · -- Between equal ends the comparison chooses this direction too, and the step has no length.
    rw [abs_of_nonpos (sub_nonpos.2 (not_lt.1 hlt)), neg_div, mul_neg]
    simp only [hlt, decide_false, along, Bool.false_eq_true, if_false, sub_neg_eq_add]

/-- A step along a horizontal run. -/
theorem horizontal_step {c far : Point K} (hy : far.y = c.y) (hr : 0 ≤ r)
    (hle : r ≤ |far.x - c.x| / 2) :
    Point.IsStep r c far ⟨along (decide (c.x < far.x)) c.x r, c.y⟩ := by
  obtain ⟨t, ht, hx⟩ := exists_along_eq hr hle
  refine ⟨⟨t, ht, ?_⟩, hr, ?_⟩
  · simp [hx, Point.midpoint, hy, add_self_div_two]
  · simp [along_sub_sq]

/-- A step along a vertical run. -/
theorem vertical_step {c far : Point K} (hx : far.x = c.x) (hr : 0 ≤ r)
    (hle : r ≤ |far.y - c.y| / 2) :
    Point.IsStep r c far ⟨c.x, along (decide (c.y < far.y)) c.y r⟩ := by
  obtain ⟨t, ht, hy⟩ := exists_along_eq hr hle
  refine ⟨⟨t, ht, ?_⟩, hr, ?_⟩
  · simp [hy, Point.midpoint, hx, add_self_div_two]
  · simp [along_sub_sq]

end Steps

/-! ## Rounded corners -/

/-- A curve around a corner. -/
structure Fillet (K : Type) where
  /-- Where it begins. -/
  first : Point K
  /-- The corner, its control point. -/
  corner : Point K
  /-- Where it ends. -/
  last : Point K
deriving DecidableEq, Repr

/-- **A fillet of the radius `r` fits between the runs from `before` to its corner and from there to
`after`**: it begins on the one and ends on the other, at the radius from the corner. -/
structure Fillet.Fits (f : Fillet K) (r : K) (before after : Point K) : Prop where
  first_mem : f.first ∈ before.wayTo f.corner
  first_away : Point.IsAway r f.corner f.first
  last_mem : f.last ∈ f.corner.wayTo after
  last_away : Point.IsAway r f.corner f.last

/-- **A path between `start` and `stop` with the fillets `f` and `g` follows the runs over their
corners.** -/
structure FollowsRuns (r : K) (start stop : Point K) (f g : Fillet K) : Prop where
  /-- The fillets fit at their corners. -/
  fits : f.Fits r start g.corner ∧ g.Fits r f.corner stop
  /-- The piece before the fillets lies on the run to the first corner. -/
  first_run : start.wayTo f.first ⊆ start.wayTo f.corner
  /-- The piece between the fillets lies on the vertical run. -/
  vertical_run : f.last.wayTo g.first ⊆ f.corner.wayTo g.corner
  /-- The piece behind the fillets lies on the run from the second corner. -/
  last_run : g.last.wayTo stop ⊆ g.corner.wayTo stop
  /-- Of the vertical run the fillets have at most the middle in common. -/
  apart : f.corner.wayTo f.last ∩ g.first.wayTo g.corner ⊆ {f.corner.midpoint g.corner}

/-- **Fillets of the radius `r` fit the runs** over the corners `c₁` and `c₂` between `start` and
`stop`. -/
structure FitsRuns (radius : K) (start c₁ c₂ stop : Point K) (r : K) : Prop where
  /-- They are not rounder than wanted. -/
  wanted : r ≤ radius
  /-- Both fillets have half of the vertical run. -/
  vertical : r ≤ |c₂.y - c₁.y| / 2
  /-- The first one has half of the run from `start`. -/
  first : r ≤ |c₁.x - start.x| / 2
  /-- The second one has half of the run to `stop`. -/
  last : r ≤ |stop.x - c₂.x| / 2

variable [IsStrictOrderedRing K] {radius r : K} {start stop : Point K}

/-- The radius of the fillets is the largest one that fits the runs. -/
theorem isGreatest_filletRadius (radius : K) (start c₁ c₂ stop : Point K) :
    IsGreatest {r | FitsRuns radius start c₁ c₂ stop r} (filletRadius radius start c₁ c₂ stop) := by
  have hiff : ∀ r, r ≤ filletRadius radius start c₁ c₂ stop ↔
      FitsRuns radius start c₁ c₂ stop r := by
    intro r
    rw [filletRadius_eq, le_min_iff, le_min_iff, le_min_iff]
    exact ⟨fun ⟨⟨⟨hwanted, hvertical⟩, hfirst⟩, hlast⟩ => ⟨hwanted, hvertical, hfirst, hlast⟩,
      fun h => ⟨⟨⟨h.wanted, h.vertical⟩, h.first⟩, h.last⟩⟩
  exact ⟨(hiff _).1 le_rfl, fun r hr => (hiff r).2 hr⟩

/-- Fillets that take steps into the runs at their corners leave the rest of these. -/
theorem followsRuns_of_isStep {f g : Fillet K} (hfirst : Point.IsStep r f.corner start f.first)
    (hdown : Point.IsStep r f.corner g.corner f.last)
      (hup : Point.IsStep r g.corner f.corner g.first)
    (hlast : Point.IsStep r g.corner stop g.last) : FollowsRuns r start stop f g := by
  -- A step from a corner stays in the half of the run that starts there.
  have hf : f.first ∈ start.wayTo f.corner :=
    Point.wayTo_comm start f.corner ▸ Point.firstHalf_subset _ _ hfirst.1
  have hf' : f.last ∈ f.corner.wayTo g.corner := Point.firstHalf_subset _ _ hdown.1
  have hg : g.first ∈ f.corner.wayTo g.corner :=
    Point.wayTo_comm f.corner g.corner ▸ Point.firstHalf_subset _ _ hup.1
  have hg' : g.last ∈ g.corner.wayTo stop := Point.firstHalf_subset _ _ hlast.1
  have hlower : g.first ∈ (f.corner.midpoint g.corner).wayTo g.corner := by
    rw [Point.wayTo_comm, midpoint_exchange]
    exact hup.1
  refine ⟨⟨⟨hf, hfirst.2, hf', hdown.2⟩, ⟨hg, hup.2, hg', hlast.2⟩⟩, ?_, ?_, ?_, ?_⟩
  · exact Point.wayTo_subset (Point.left_mem_wayTo _ _) hf
  · exact Point.wayTo_subset hf' hg
  · exact Point.wayTo_subset hg' (Point.right_mem_wayTo _ _)
  · -- The two fillets of the middle run share its middle at most.
    refine subset_trans (Set.inter_subset_inter ?_ ?_) (Point.halves_inter_subset f.corner g.corner)
    · exact Point.wayTo_subset (Point.left_mem_wayTo _ _) hdown.1
    · exact Point.wayTo_subset hlower (Point.right_mem_wayTo _ _)

/-- **A path with rounded corners follows the path without**: it leads from `start` to `stop` over
the same runs, and cuts off both corners by a fillet of the largest radius that is not above the
given one and not above half of a run. -/
theorem roundRectilinearPath_follows (hradius : 0 ≤ radius) (start p₁ p₂ stop : Point K) :
    ∃ (f g : Fillet K) (r : K),
      rectilinearPath start p₁ p₂ stop
        = [.moveTo start, .lineTo f.corner, .lineTo g.corner, .lineTo stop] ∧
      roundRectilinearPath radius start p₁ p₂ stop
        = [.moveTo start, .lineTo f.first, .quadraticTo f.corner f.last,
            .lineTo g.first, .quadraticTo g.corner g.last, .lineTo stop] ∧
      IsGreatest {s | FitsRuns radius start f.corner g.corner stop s} r ∧
      FollowsRuns r start stop f g := by
  obtain ⟨⟨c₁, c₂⟩, hcorners⟩ : ∃ c, corners start p₁ p₂ stop = c := ⟨_, rfl⟩
  obtain ⟨hc₁, hc₂⟩ := Prod.mk.inj hcorners
  have hstart : start.y = c₁.y := by rw [← hc₁]
  have hstop : stop.y = c₂.y := by rw [← hc₂]
  have hx : c₂.x = c₁.x := by rw [← hc₁, ← hc₂]
  have hgreatest := isGreatest_filletRadius radius start c₁ c₂ stop
  have hnonneg := filletRadius_nonneg hradius start c₁ c₂ stop
  have hzero : c₂.y = c₁.y ∨ c₁.x = start.x ∨ stop.x = c₂.x →
      filletRadius radius start c₁ c₂ stop = 0 :=
    filletRadius_eq_zero hradius
  rw [rectilinearPath, roundRectilinearPath, hcorners]
  dsimp only
  generalize filletRadius radius start c₁ c₂ stop = r at *
  have hfits : FitsRuns radius start c₁ c₂ stop r := hgreatest.1
  -- The two steps against the direction of a run are steps towards its other end.
  have hback : along (!decide (start.x < c₁.x)) c₁.x r = along (decide (c₁.x < start.x)) c₁.x r :=
    along_exchange fun heq => hzero (.inr (.inl heq))
  have hup : along (!decide (c₁.y < c₂.y)) c₂.y r = along (decide (c₂.y < c₁.y)) c₂.y r :=
    along_exchange fun heq => hzero (.inl heq)
  rw [hstart, hstop, hback, hup]
  refine ⟨⟨⟨_, c₁.y⟩, c₁, ⟨c₁.x, _⟩⟩, ⟨⟨c₂.x, _⟩, c₂, ⟨_, c₂.y⟩⟩, r, rfl, rfl, hgreatest, ?_⟩
  refine followsRuns_of_isStep ?_ ?_ ?_ ?_
  · exact horizontal_step hstart hnonneg (abs_sub_comm c₁.x start.x ▸ hfits.first)
  · exact vertical_step hx hnonneg hfits.vertical
  · exact vertical_step hx.symm hnonneg (abs_sub_comm c₂.y c₁.y ▸ hfits.vertical)
  · exact horizontal_step hstop hnonneg hfits.last

/-- A path that leads to the left and up, with a first run too short for the radius. -/
theorem roundRectilinearPath_follows_leftwards :
    let start : Point ℚ := ⟨100, 60⟩
    let stop : Point ℚ := ⟨0, 0⟩
    let f : Fillet ℚ := ⟨⟨90, 60⟩, ⟨80, 60⟩, ⟨80, 50⟩⟩
    let g : Fillet ℚ := ⟨⟨80, 10⟩, ⟨80, 0⟩, ⟨70, 0⟩⟩
    (0 : ℚ) ≤ 15 ∧
      roundRectilinearPath 15 start ⟨88, 60⟩ ⟨72, 0⟩ stop
        = [.moveTo start, .lineTo f.first, .quadraticTo f.corner f.last,
            .lineTo g.first, .quadraticTo g.corner g.last, .lineTo stop] ∧
      FollowsRuns 10 start stop f g := by
  -- The fillets are told by the path, and the radius is the largest one that fits.
  intro start stop f g
  have hradius : (0 : ℚ) ≤ 15 := by decide +kernel
  have hpath : roundRectilinearPath 15 start ⟨88, 60⟩ ⟨72, 0⟩ stop
      = [.moveTo start, .lineTo f.first, .quadraticTo f.corner f.last,
          .lineTo g.first, .quadraticTo g.corner g.last, .lineTo stop] := by decide +kernel
  obtain ⟨⟨b, c, e⟩, ⟨b', c', e'⟩, r, -, hround, hgreatest, hfollows⟩ :=
    roundRectilinearPath_follows hradius start ⟨88, 60⟩ ⟨72, 0⟩ stop
  simp only [hpath, List.cons.injEq, PathCommand.lineTo, PathCommand.quadraticTo,
    PathCommand.mk.injEq, and_true, true_and] at hround
  obtain ⟨rfl, ⟨rfl, rfl⟩, rfl, rfl, rfl⟩ := hround
  have hten : FitsRuns 15 start f.corner g.corner stop 10 := by
    constructor <;> decide +kernel
  have hr : r = 10 :=
    le_antisymm (hgreatest.1.first.trans_eq (by decide +kernel)) (hgreatest.2 hten)
  exact ⟨hradius, hpath, hr ▸ hfollows⟩

end SchemaDiagram
