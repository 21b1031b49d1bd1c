import SchemaDiagram.Proofs.DoubleRange
import SchemaDiagram.Proofs.Slots
import SchemaDiagram.Routing.Fault

/-! # Layouts that can be calculated

A calculation on doubles always has a result; what can fail is to take a whole number as a double,
or to divide by zero. So a layout can be calculated as long as its whole numbers stay below the
limit of the doubles.

* **`Mixed.IsWithin n a`** — the number `a` has been calculated, and its size is at most `n` where
  it is whole. Every operation keeps this, with a larger bound for sums and products.
* **`Point.IsWithin.towards`** — no ray is divided by zero.
* **`isWithin_buildPath`** — the points of a path stay within the bound of its ends and control
  points. -/

namespace SchemaDiagram

namespace Mixed

/-- **The number has been calculated**, and its size is at most `n` where it is whole. -/
def IsWithin (n : Nat) : Mixed → Prop
  | whole m => m.natAbs ≤ n
  | real _ => True
  | fault _ => False

instance (n : Nat) : DecidablePred (IsWithin n)
  | whole m => inferInstanceAs (Decidable (m.natAbs ≤ n))
  | real _ => inferInstanceAs (Decidable True)
  | fault _ => inferInstanceAs (Decidable False)

variable {a b : Mixed} {m n : Nat}

/-- A double is within every bound. -/
theorem isWithin_real (n : Nat) (x : Float) : (real x).IsWithin n := trivial

/-- A count is within itself. -/
theorem isWithin_natCast (k : Nat) : ((k : Nat) : Mixed).IsWithin k :=
  Nat.le_of_eq (Int.natAbs_natCast k)

/-- A larger bound holds as well. -/
theorem IsWithin.mono (h : a.IsWithin m) (hmn : m ≤ n) : a.IsWithin n := by
  cases a with
  | whole i => exact Nat.le_trans h hmn
  | real => trivial
  | fault => exact h.elim

/-- A number within a bound has been calculated without a fault. -/
theorem IsWithin.fault? (h : a.IsWithin n) : a.fault? = none := by
  cases a with
  | whole => rfl
  | real => rfl
  | fault => exact h.elim

/-- A number below the limit takes part in calculations with doubles. -/
theorem IsWithin.exists_toFloat (h : a.IsWithin n) (hn : n < wholeLimit) :
    ∃ x, a.toFloat = .ok x := by
  cases a with
  | whole i =>
    have hsome := floatOfInt?_eq_some_iff.2 ⟨Nat.lt_of_le_of_lt h hn, rfl⟩
    exact ⟨_, by rw [toFloat, hsome]; rfl⟩
  | real x => exact ⟨x, rfl⟩
  | fault => exact h.elim

/-- **An operation stays within a bound** that its whole results have. -/
theorem isWithin_combine {exact : Int → Int → Int} {rounded : Float → Float → Float} {k : Nat}
    (ha : a.IsWithin m) (hb : b.IsWithin n) (hm : m < wholeLimit) (hn : n < wholeLimit)
    (h : ∀ i j : Int, i.natAbs ≤ m → j.natAbs ≤ n → (exact i j).natAbs ≤ k) :
    (combine exact rounded a b).IsWithin k := by
  obtain ⟨x, hx⟩ := ha.exists_toFloat hm
  obtain ⟨y, hy⟩ := hb.exists_toFloat hn
  unfold combine
  split
  · exact h _ _ ha hb
  · rw [hx, hy]
    trivial

/-- A sum is within the sum of the bounds. -/
theorem IsWithin.add (ha : a.IsWithin m) (hb : b.IsWithin n) (hm : m < wholeLimit)
    (hn : n < wholeLimit) :
    (a + b).IsWithin (m + n) :=
  isWithin_combine ha hb hm hn fun i j hi hj => (Int.natAbs_add_le i j).trans (Nat.add_le_add hi hj)

/-- A difference is within the sum of the bounds. -/
theorem IsWithin.sub (ha : a.IsWithin m) (hb : b.IsWithin n) (hm : m < wholeLimit)
    (hn : n < wholeLimit) :
    (a - b).IsWithin (m + n) :=
  isWithin_combine ha hb hm hn fun i j hi hj => (Int.natAbs_sub_le i j).trans (Nat.add_le_add hi hj)

/-- A product is within the product of the bounds. -/
theorem IsWithin.mul (ha : a.IsWithin m) (hb : b.IsWithin n) (hm : m < wholeLimit)
    (hn : n < wholeLimit) :
    (a * b).IsWithin (m * n) :=
  isWithin_combine ha hb hm hn fun i j hi hj => by
    rw [Int.natAbs_mul]
    exact Nat.mul_le_mul hi hj

/-- A quotient that is not one of whole numbers is a double, unless the divisor is zero. -/
theorem isWithin_div (hnot : ∀ i j, a = whole i → b ≠ whole j) {x y : Float}
    (hx : a.toFloat = .ok x)
    (hy : b.toFloat = .ok y) (hzero : (y == 0) = false) : (a / b).IsWithin 0 := by
  change (divide a b).IsWithin 0
  unfold divide
  split
  next i j => exact absurd rfl (hnot i j rfl)
  next =>
    rw [hx, hy]
    change (ofExcept (if y == 0 then _ else _)).IsWithin 0
    rw [hzero]
    trivial

/-- A quotient by a double that is not zero is a double. -/
theorem IsWithin.div_real (ha : a.IsWithin n) (hn : n < wholeLimit) {x : Float}
    (hx : (x == 0) = false) :
    (a / real x).IsWithin 0 := by
  obtain ⟨y, hy⟩ := ha.exists_toFloat hn
  exact isWithin_div (fun _ _ _ => Mixed.noConfusion) hy rfl hx

/-- **A quotient by a count** is a double. -/
theorem IsWithin.div_natCast (ha : a.IsWithin n) (hn : n < wholeLimit) {k : Nat} (hk : 0 < k)
    (hlimit : k < wholeLimit) : (a / (k : Mixed)).IsWithin 0 := by
  cases a with
  | whole i =>
    -- The quotient is no larger than the dividend, which has a double itself.
    have hsize : i.natAbs ≤ n := ha
    change (quotient i k).IsWithin 0
    rw [quotient, if_neg (by omega), if_neg]
    · trivial
    · rw [isInf_nearestFloat_iff _ _ (by omega)]
      have : wholeLimit * 1 ≤ wholeLimit * (k : Int).natAbs := Nat.mul_le_mul_left _ (by omega)
      omega
  | real x =>
    have hsome := floatOfInt?_eq_some_iff (n := (k : Int)).2 ⟨by omega, rfl⟩
    have hdouble : (whole k).toFloat
        = .ok (nearestFloat (decide ((k : Int) < 0)) (k : Int).natAbs 1) := by
      rw [toFloat, hsome]
      rfl
    refine isWithin_div (fun _ _ h =>
      Mixed.noConfusion h) (rfl : (real x).toFloat = .ok x) hdouble ?_
    exact nearestFloat_ne_zero _ one_pos (by omega)
  | fault => exact ha.elim

/-- The larger one of two numbers is within their bound. -/
theorem IsWithin.larger (ha : a.IsWithin n) (hb : b.IsWithin n) : (larger a b).IsWithin n := by
  unfold SchemaDiagram.larger
  split
  · exact hb
  · exact ha

/-- The smaller one of two numbers is within their bound. -/
theorem IsWithin.smaller (ha : a.IsWithin n) (hb : b.IsWithin n) : (smaller a b).IsWithin n := by
  unfold SchemaDiagram.smaller
  split
  · exact hb
  · exact ha

/-- The size of a number is within its bound. -/
theorem IsWithin.magnitude (ha : a.IsWithin n) (hn : n < wholeLimit) :
    (magnitude a).IsWithin n := by
  unfold SchemaDiagram.magnitude
  split
  · exact ((isWithin_natCast 0).sub ha wholeLimit_pos hn).mono (Nat.zero_add n).le
  · exact ha

/-- A step of a double along an axis stays within the bound. -/
theorem IsWithin.along (forward : Bool) (ha : a.IsWithin n) (hb : b.IsWithin 0)
    (hn : n < wholeLimit) :
    (along forward a b).IsWithin n := by
  unfold SchemaDiagram.along
  split
  · exact ha.add hb hn wholeLimit_pos
  · exact ha.sub hb hn wholeLimit_pos

/-- The sum of some numbers, each within a bound, is within as many times the bound. -/
theorem isWithin_total {values : List Mixed} (h : ∀ a ∈ values, a.IsWithin n)
    (hlimit : values.length * n < wholeLimit) : (total values).IsWithin (values.length * n) := by
  -- The bound of what has been added so far grows with every value.
  suffices ∀ (a : Mixed) (m : Nat), a.IsWithin m → m + values.length * n < wholeLimit →
      (values.foldl (· + ·) a).IsWithin (m + values.length * n) by
    have := this _ 0 (isWithin_natCast 0) (by omega)
    rwa [Nat.zero_add] at this
  clear hlimit
  induction values with
  | nil =>
    intro a m ha _
    simpa using ha
  | cons b values ih =>
    intro a m ha hlimit
    obtain ⟨hb, hvalues⟩ := List.forall_mem_cons.1 h
    have hlength : m + (b :: values).length * n = m + n + values.length * n := by
      rw [List.length_cons]
      ring
    rw [hlength] at hlimit ⊢
    exact ih hvalues _ _ (ha.add hb (by omega) (by omega)) hlimit

/-- The mean of some numbers is a double. -/
theorem isWithin_mean {values : List Mixed} (h : ∀ a ∈ values, a.IsWithin n)
    (hne : 0 < values.length)
    (hlimit : values.length * n < wholeLimit) (hlength : values.length < wholeLimit) :
    (mean values).IsWithin 0 :=
  (isWithin_total h hlimit).div_natCast hlimit hne hlength

/-- The length of a vector is a double. -/
theorem IsWithin.exists_length (ha : a.IsWithin n) (hb : b.IsWithin n) (hn : n < wholeLimit) :
    ∃ x, Metric.length a b = real x := by
  obtain ⟨x, hx⟩ := ha.exists_toFloat hn
  obtain ⟨y, hy⟩ := hb.exists_toFloat hn
  refine ⟨lengthOfFloats x y, ?_⟩
  change ofExcept _ = _
  rw [hx, hy]
  rfl

/-- A double that is zero counts as equal to the whole number zero. -/
theorem same_zero {x : Float} (h : (x == 0) = true) :
    (real x).same (whole 0) = true ∧ (whole 0).same (real x) = true := by
  obtain ⟨negative, e, hx⟩ := beq_zero_iff.1 h
  have hexact : floatEqInt x 0 = true := by
    rw [floatEqInt, exactInt?, hx]
    cases e <;> cases negative <;> simp [timesTwoPow]
  exact ⟨hexact, hexact⟩

end Mixed

open Mixed

/-! ## Points -/

/-- Both coordinates have been calculated, and are at most `n` where they are whole. -/
def Point.IsWithin (n : Nat) (p : Point Mixed) : Prop := p.x.IsWithin n ∧ p.y.IsWithin n

/-- No coordinate of a point within a bound is faulty. -/
theorem Point.IsWithin.fault? {n : Nat} {p : Point Mixed} (hp : p.IsWithin n) :
    ∀ a ∈ p.numbers, a.fault? = none := by
  simp only [Point.numbers, List.mem_cons, List.not_mem_nil, or_false, forall_eq_or_imp, forall_eq]
  exact ⟨hp.1.fault?, hp.2.fault?⟩

section Points

variable {n : Nat} {p q start p₁ p₂ stop : Point Mixed}

/-- A point at a distance from another one: the ray is never divided by zero. -/
theorem Point.IsWithin.towards (hp : p.IsWithin n) (hq : q.IsWithin n) (hn : 2 * n < wholeLimit)
    {distance : Mixed} (hdistance : distance.IsWithin 0) : (p.towards q distance).IsWithin n := by
  have hlimit := le_wholeLimit
  have hdx := (hq.1.sub hp.1 (by omega) (by omega)).mono (Nat.two_mul n).ge
  have hdy := (hq.2.sub hp.2 (by omega) (by omega)).mono (Nat.two_mul n).ge
  obtain ⟨x, hx⟩ := hdx.exists_length hdy hn
  have hratio :
    (distance / if Mixed.real x ≤ ((0 : Nat) : Mixed) ∧ ((0 : Nat) : Mixed) ≤ Mixed.real x
      then ((1 : Nat) : Mixed) else Mixed.real x).IsWithin 0 := by
    split
    next => exact hdistance.div_natCast (by omega) one_pos (by omega)
    next hne =>
      -- A length of zero would have been equal to the whole number zero.
      refine hdistance.div_real (by omega) (Bool.eq_false_iff.2 fun hzero => hne ?_)
      obtain ⟨hbelow, habove⟩ := same_zero hzero
      exact ⟨Bool.or_eq_true_iff.2 (.inr hbelow), Bool.or_eq_true_iff.2 (.inr habove)⟩
  unfold Point.towards
  dsimp only
  rw [hx]
  constructor
  · exact hp.1.add (hdx.mul hratio hn (by omega)) (by omega) (by omega)
  · exact hp.2.add (hdy.mul hratio hn (by omega)) (by omega) (by omega)

/-- Half of a sum is a double. -/
theorem isWithin_half {a b : Mixed} (ha : a.IsWithin n) (hb : b.IsWithin n)
    (hn : 2 * n < wholeLimit) :
    ((a + b) / ((2 : Nat) : Mixed)).IsWithin n := by
  have hlimit := le_wholeLimit
  exact ((ha.add hb (by omega) (by omega)).div_natCast (by omega) two_pos (by omega)).mono n.zero_le

/-- The point between two points is within their bound. -/
theorem Point.IsWithin.midpoint (hp : p.IsWithin n) (hq : q.IsWithin n) (hn : 2 * n < wholeLimit) :
    (p.midpoint q).IsWithin n := ⟨isWithin_half hp.1 hq.1 hn, isWithin_half hp.2 hq.2 hn⟩

/-- The corners that the fillets are drawn at are within the bound of the points. -/
theorem isWithin_corners (hstart : start.IsWithin n) (h₁ : p₁.IsWithin n) (h₂ : p₂.IsWithin n)
    (hstop : stop.IsWithin n) (hn : 2 * n < wholeLimit) :
    (corners start p₁ p₂ stop).1.IsWithin n ∧ (corners start p₁ p₂ stop).2.IsWithin n :=
  ⟨⟨isWithin_half h₁.1 h₂.1 hn, hstart.2⟩, ⟨isWithin_half h₁.1 h₂.1 hn, hstop.2⟩⟩

/-- The radius of the fillets is a double. -/
theorem isWithin_filletRadius {radius : Mixed} {c₁ c₂ : Point Mixed} (hradius : radius.IsWithin 0)
    (hstart : start.IsWithin n) (h₁ : c₁.IsWithin n) (h₂ : c₂.IsWithin n) (hstop : stop.IsWithin n)
    (hn : 2 * n < wholeLimit) : (filletRadius radius start c₁ c₂ stop).IsWithin 0 := by
  have hlimit := le_wholeLimit
  have hhalf {a b : Mixed} (ha : a.IsWithin n) (hb : b.IsWithin n) :
      (magnitude (a - b) / ((2 : Nat) : Mixed)).IsWithin 0 :=
    ((ha.sub hb (by omega) (by omega)).magnitude (by omega)).div_natCast (by omega) two_pos
      (by omega)
  exact ((hradius.smaller (hhalf h₂.2 h₁.2)).smaller (hhalf h₁.1 hstart.1)).smaller
    (hhalf hstop.1 h₂.1)

/-- **Every point of a path** stays within the bound of its ends and control points. -/
theorem isWithin_buildPath (style : LineStyle) {radius : Mixed} (hradius : radius.IsWithin 0)
    (hstart : start.IsWithin n) (h₁ : p₁.IsWithin n) (h₂ : p₂.IsWithin n) (hstop : stop.IsWithin n)
    (hn : 2 * n < wholeLimit) :
    ∀ p ∈ (buildPath style radius start p₁ p₂ stop).flatMap (·.points), p.IsWithin n := by
  obtain ⟨hc₁, hc₂⟩ := isWithin_corners hstart h₁ h₂ hstop hn
  -- Each style draws to corners, ends and steps of the radius from a corner, and nowhere else.
  cases style with
  | curve =>
    simp [buildPath, curvePath, PathCommand.points, PathCommand.moveTo, PathCommand.cubicTo, *]
  | rectilinear =>
    simp [buildPath, rectilinearPath, PathCommand.points, PathCommand.moveTo, PathCommand.lineTo, *]
  | roundRectilinear =>
    have hr := isWithin_filletRadius hradius hstart hc₁ hc₂ hstop hn
    have hlimit : n < wholeLimit := by omega
    have hx {c : Point Mixed} (forward : Bool) {r : Mixed} (hc : c.IsWithin n) (hr : r.IsWithin 0) :
        Point.IsWithin n ⟨along forward c.x r, c.y⟩ := ⟨hc.1.along forward hr hlimit, hc.2⟩
    have hy {c : Point Mixed} (forward : Bool) {r : Mixed} (hc : c.IsWithin n) (hr : r.IsWithin 0) :
        Point.IsWithin n ⟨c.x, along forward c.y r⟩ := ⟨hc.1, hc.2.along forward hr hlimit⟩
    simp [buildPath, roundRectilinearPath, PathCommand.points, PathCommand.moveTo,
      PathCommand.lineTo, PathCommand.quadraticTo, *]
  | oblique =>
    simp [buildPath, obliquePath, PathCommand.points, PathCommand.moveTo, PathCommand.lineTo, *]
  | roundOblique =>
    -- Only this style draws to the point between the corners.
    have hmiddle := h₁.midpoint h₂ hn
    simp [buildPath, roundObliquePath, PathCommand.points, PathCommand.moveTo, PathCommand.lineTo,
      PathCommand.quadraticTo, *]

end Points
end SchemaDiagram
