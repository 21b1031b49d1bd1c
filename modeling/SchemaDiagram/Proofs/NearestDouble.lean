import Mathlib.Algebra.Order.Field.Power
import Mathlib.Data.Rat.Cast.Order
import Mathlib.Tactic.FieldSimp
import Mathlib.Tactic.Positivity
import Mathlib.Tactic.GCongr
import SchemaDiagram.Proofs.DoubleBits

/-! # The nearest double

The bits of the double nearest to a quotient are those of a double in normal form as soon as the
quotient lies between the midpoints to its two neighbours, themselves included where the significand
is even.

* **`timesTwoPow_spec`** — the quotient times a power of two.
* **`divNearest_eq`** — what rounds to a natural number.
* **`Reads m e q`** — the quotient `q` lies between the midpoints around `m * 2 ^ e`.
* **`nearestBits_eq`** — such a quotient is rounded to `m * 2 ^ e`. -/

namespace SchemaDiagram

/-- The product with a power of two, as a quotient. -/
theorem timesTwoPow_spec (num : Nat) {den : Nat} (hden : 0 < den) (e : Int) :
    0 < (timesTwoPow num den e).2 ∧
      ((timesTwoPow num den e).1 : ℚ) / (timesTwoPow num den e).2 = num / den * 2 ^ e := by
  have hd : (0 : ℚ) < den := by exact_mod_cast hden
  cases e with
  | ofNat e =>
    refine ⟨hden, ?_⟩
    simp only [timesTwoPow, Nat.pow_eq, Nat.cast_mul, Nat.cast_pow, Nat.cast_ofNat,
      Int.ofNat_eq_natCast, zpow_natCast]
    ring
  | negSucc e =>
    refine ⟨Nat.mul_pos hden (Nat.pow_pos (by decide)), ?_⟩
    simp only [timesTwoPow, Nat.pow_eq, Nat.cast_mul, Nat.cast_pow, Nat.cast_ofNat, zpow_negSucc]
    field_simp

/-- **What rounds to a natural number** is at most half a unit away, and less where it is odd. -/
theorem divNearest_eq {num den m : Nat} (hden : 0 < den) (hlow : 2 * m * den ≤ 2 * num + den)
    (hhigh : 2 * num ≤ (2 * m + 1) * den)
    (hodd : m % 2 = 1 → 2 * m * den < 2 * num + den ∧ 2 * num < (2 * m + 1) * den) :
    divNearest num den = m := by
  have hmod := Nat.div_add_mod num den
  have hlt := Nat.mod_lt num hden
  -- The quotient rounded down is the number or the one below it.
  have hle : num / den ≤ m := by
    have : (2 * (num / den)) * den ≤ (2 * m + 1) * den := by
      calc (2 * (num / den)) * den = 2 * (den * (num / den)) := by ring
        _ ≤ 2 * num := by omega
        _ ≤ (2 * m + 1) * den := hhigh
    have := Nat.le_of_mul_le_mul_right this hden
    omega
  have hge : m ≤ num / den + 1 := by
    have : 2 * m * den < (2 * (num / den) + 3) * den := by
      calc 2 * m * den ≤ 2 * num + den := hlow
        _ < 2 * (den * (num / den)) + 3 * den := by omega
        _ = (2 * (num / den) + 3) * den := by ring
    have := Nat.lt_of_mul_lt_mul_right this
    omega
  rw [divNearest]
  generalize num / den = q at *
  generalize num % den = r at *
  subst hmod
  have hq : q * den = den * q := Nat.mul_comm ..
  -- The remainder now decides: it has reached half a unit where the quotient is one below.
  rcases Nat.le_iff_lt_or_eq.1 hle with hlt' | rfl
  · obtain rfl : m = q + 1 := by omega
    rw [show 2 * (q + 1) * den = 2 * (den * q) + 2 * den by ring] at hlow hodd
    rw [if_neg (by omega)]
    split
    next => rfl
    next =>
      rw [if_neg]
      intro heven
      have := (hodd (by omega)).1
      omega
  · rw [show (2 * q + 1) * den = 2 * (den * q) + den by ring] at hhigh hodd
    split
    next => rfl
    next =>
      rw [if_neg (by omega), if_pos]
      by_contra heven
      have := (hodd (by omega)).2
      omega

/-! ## The exponent -/

/-- Every power of two is positive. -/
theorem two_zpow_pos (e : Int) : (0 : ℚ) < 2 ^ e := zpow_pos (by norm_num) e

/-- Where the significand that is rounded down has at most 53 bits. -/
theorem div_lt_iff_lt_two_zpow (num : Nat) {den : Nat} (hden : 0 < den) (e : Int) :
    (timesTwoPow num den (-e)).1 / (timesTwoPow num den (-e)).2 < 2 ^ 53 ↔
      (num : ℚ) / den < 2 ^ (e + 53) := by
  obtain ⟨hpos, hquot⟩ := timesTwoPow_spec num hden (-e)
  have hb : (0 : ℚ) < (timesTwoPow num den (-e)).2 := by exact_mod_cast hpos
  rw [Nat.div_lt_iff_lt_mul hpos]
  -- The division of natural numbers is told by the quotient of the rationals.
  calc (timesTwoPow num den (-e)).1 < 2 ^ 53 * (timesTwoPow num den (-e)).2
      ↔ ((timesTwoPow num den (-e)).1 : ℚ) < 2 ^ 53 * (timesTwoPow num den (-e)).2 := by
        exact_mod_cast Iff.rfl
    _ ↔ ((timesTwoPow num den (-e)).1 : ℚ) / (timesTwoPow num den (-e)).2 < 2 ^ 53 :=
        (div_lt_iff₀ hb).symm
    _ ↔ (num : ℚ) / den < 2 ^ (e + 53) := by
        rw [hquot, zpow_neg, ← div_eq_mul_inv, div_lt_iff₀ (two_zpow_pos e), add_comm e 53,
          zpow_add₀ (by norm_num)]
        exact_mod_cast Iff.rfl

/-- The logarithms tell the quotient up to a factor of two. -/
theorem log2_bounds {num den : Nat} (hnum : 0 < num) (hden : 0 < den) :
    (2 : ℚ) ^ ((num.log2 : Int) - den.log2 - 1) ≤ num / den ∧
      (num : ℚ) / den < 2 ^ ((num.log2 : Int) - den.log2 + 1) := by
  have hn : (2 : ℚ) ^ num.log2 ≤ num := by exact_mod_cast Nat.log2_self_le hnum.ne'
  have hn' : (num : ℚ) < 2 ^ (num.log2 + 1) := by exact_mod_cast Nat.lt_log2_self
  have hd : (2 : ℚ) ^ den.log2 ≤ den := by exact_mod_cast Nat.log2_self_le hden.ne'
  have hd' : (den : ℚ) < 2 ^ (den.log2 + 1) := by exact_mod_cast Nat.lt_log2_self
  have hpos : (0 : ℚ) < den := by exact_mod_cast hden
  constructor
  · -- The denominator is below the next power of two, which gives the factor of two.
    calc (2 : ℚ) ^ ((num.log2 : Int) - den.log2 - 1)
        = 2 ^ num.log2 / 2 ^ (den.log2 + 1) := by
          rw [sub_sub, zpow_sub₀ (by norm_num)]
          norm_cast
      _ ≤ num / den := by gcongr
  · -- The numerator is below the next power of two.
    calc (num : ℚ) / den < 2 ^ (num.log2 + 1) / 2 ^ den.log2 := by gcongr
      _ = 2 ^ ((num.log2 : Int) - den.log2 + 1) := by
          rw [sub_add_eq_add_sub, zpow_sub₀ (by norm_num)]
          norm_cast

/-- **The bits that are found** are those of the significand rounded at the exponent that leaves it
53 bits, or at the least one. -/
theorem exists_nearestBits {num den : Nat} (hnum : 0 < num) (hden : 0 < den) :
    ∃ e : Int, (2 : ℚ) ^ (e + 52) ≤ num / den ∧ (num : ℚ) / den < 2 ^ (e + 53) ∧
      nearestBits num den = min (doubleBits
        (divNearest (timesTwoPow num den (-max e (-1074))).1
          (timesTwoPow num den (-max e (-1074))).2) (max e (-1074))) infinityBits := by
  obtain ⟨hlow, hhigh⟩ := log2_bounds hnum hden
  let guess : Int := (num.log2 : Int) - den.log2 - 53
  -- The exponent is guessed from the logarithms and put right by one comparison.
  have hbits : nearestBits num den
      = let e : Int :=
        if (timesTwoPow num den (-guess)).1 / (timesTwoPow num den (-guess)).2 < 2 ^ 53
          then guess else guess + 1
        min (doubleBits (divNearest (timesTwoPow num den (-max e (-1074))).1
          (timesTwoPow num den (-max e (-1074))).2) (max e (-1074))) infinityBits := by
    simp only [nearestBits, doubleBits, decide_eq_true_eq, Nat.pow_eq, guess]
  by_cases hfits : (num : ℚ) / den < 2 ^ (guess + 53)
  · -- The guess leaves 53 bits.
    refine ⟨guess, ?_, hfits, ?_⟩
    · rwa [show guess + 52 = (num.log2 : Int) - den.log2 - 1 by omega]
    · have hdec := (div_lt_iff_lt_two_zpow num hden guess).2 hfits
      rw [hbits, if_pos hdec]
  · -- The guess leaves 54 bits, and the next exponent leaves 53.
    refine ⟨guess + 1, ?_, ?_, ?_⟩
    · rw [show guess + 1 + 52 = guess + 53 by ring]
      exact not_lt.1 hfits
    · rwa [show guess + 1 + 53 = (num.log2 : Int) - den.log2 + 1 by omega]
    · have hdec := mt (div_lt_iff_lt_two_zpow num hden guess).1 hfits
      rw [hbits, if_neg hdec]

/-! ## What is rounded to a double -/

/-- The distance to the midpoint below, in units of the last place: the neighbour below a power of
two is only half as far away. -/
def gapBelow (m : Nat) (e : Int) : ℚ := if m = 2 ^ 52 ∧ -1074 < e then 1 / 4 else 1 / 2

/-- The quotient lies between the midpoints to the two neighbours of `m * 2 ^ e`, themselves
included where the significand is even. -/
structure Reads (m : Nat) (e : Int) (q : ℚ) : Prop where
  /-- It is not below the lower midpoint. -/
  low : (m - gapBelow m e) * 2 ^ e ≤ q
  /-- It is not above the upper midpoint. -/
  high : q ≤ (m + 1 / 2) * 2 ^ e
  /-- The midpoints are not included where the significand is odd. -/
  odd : m % 2 = 1 → (m - gapBelow m e) * 2 ^ e < q ∧ q < (m + 1 / 2) * 2 ^ e

/-- The gap below a double is at most half of its last place. -/
theorem gapBelow_le (m : Nat) (e : Int) : gapBelow m e ≤ 1 / 2 := by
  rw [gapBelow]
  split <;> norm_num

/-- The gap below a double is not empty. -/
theorem gapBelow_pos (m : Nat) (e : Int) : 0 < gapBelow m e := by
  rw [gapBelow]
  split <;> norm_num

/-- A double lies between the midpoints around it. -/
theorem Reads.self (m : Nat) (e : Int) : Reads m e (m * 2 ^ e) := by
  have hp := two_zpow_pos e
  have hgap := gapBelow_pos m e
  have hlow : (m - gapBelow m e) * 2 ^ e < m * 2 ^ e := by gcongr; linarith
  have hhigh : (m : ℚ) * 2 ^ e < (m + 1 / 2) * 2 ^ e := by gcongr; linarith
  exact ⟨hlow.le, hhigh.le, fun _ => ⟨hlow, hhigh⟩⟩

/-- What lies between the midpoints around a double is not below the half of it. -/
theorem Reads.half_le {m : Nat} {e : Int} {q : ℚ} (hr : Reads m e q) (hm : 0 < m) :
    1 / 2 * (m * 2 ^ e) ≤ q := by
  have hm' : (1 : ℚ) ≤ m := by exact_mod_cast hm
  have hgap := gapBelow_le m e
  calc (1 : ℚ) / 2 * (m * 2 ^ e) = 1 / 2 * m * 2 ^ e := (mul_assoc ..).symm
    _ ≤ (m - gapBelow m e) * 2 ^ e := by
        have := two_zpow_pos e
        gcongr
        linarith
    _ ≤ q := hr.low

/-- The significand that is found at an exponent. -/
theorem divNearest_timesTwoPow {num den m : Nat} (hden : 0 < den) {e : Int}
    (hlow : ((m : ℚ) - 1 / 2) * 2 ^ e ≤ num / den) (hhigh : (num : ℚ) / den ≤ (m + 1 / 2) * 2 ^ e)
    (hodd : m % 2 = 1 → ((m : ℚ) - 1 / 2) * 2 ^ e < num / den ∧
      (num : ℚ) / den < (m + 1 / 2) * 2 ^ e) :
    divNearest (timesTwoPow num den (-e)).1 (timesTwoPow num den (-e)).2 = m := by
  obtain ⟨hpos, hquot⟩ := timesTwoPow_spec num hden (-e)
  have hb : (0 : ℚ) < (timesTwoPow num den (-e)).2 := by exact_mod_cast hpos
  have hp := two_zpow_pos e
  generalize (timesTwoPow num den (-e)).1 = a at *
  generalize (timesTwoPow num den (-e)).2 = b at *
  -- The quotient is `a / b` units of the last place.
  have hunits : (num : ℚ) / den = a / b * 2 ^ e := by
    rw [hquot, mul_assoc, ← zpow_add₀ (by norm_num), neg_add_cancel, zpow_zero, mul_one]
  rw [hunits] at hlow hhigh hodd
  have hle : ((m : ℚ) - 1 / 2) * b ≤ a := (le_div_iff₀ hb).1 (le_of_mul_le_mul_right hlow hp)
  have hge : (a : ℚ) ≤ (m + 1 / 2) * b := (div_le_iff₀ hb).1 (le_of_mul_le_mul_right hhigh hp)
  refine divNearest_eq hpos ?_ ?_ fun h => ?_
  · have : (2 * m * b : ℚ) ≤ 2 * a + b := by linarith
    exact_mod_cast this
  · have : (2 * a : ℚ) ≤ (2 * m + 1) * b := by linarith
    exact_mod_cast this
  · obtain ⟨h₁, h₂⟩ := hodd h
    have hlt : ((m : ℚ) - 1 / 2) * b < a := (lt_div_iff₀ hb).1 (lt_of_mul_lt_mul_right h₁ hp.le)
    have hgt : (a : ℚ) < (m + 1 / 2) * b := (div_lt_iff₀ hb).1 (lt_of_mul_lt_mul_right h₂ hp.le)
    have h₃ : (2 * m * b : ℚ) < 2 * a + b := by linarith
    have h₄ : (2 * a : ℚ) < (2 * m + 1) * b := by linarith
    exact ⟨by exact_mod_cast h₃, by exact_mod_cast h₄⟩

section

variable {m : Nat} {e : Int} (h : IsDouble m e)

/-- A power of two by the sum of two exponents is the product of two powers. -/
theorem two_zpow_add (e i : Int) : (2 : ℚ) ^ (e + i) = 2 ^ i * 2 ^ e := by
  rw [zpow_add₀ (by norm_num), mul_comm]

include h

/-- What lies between the midpoints around a double is below the next power of two. -/
theorem Reads.exponent_le {q : ℚ} (hr : Reads m e q) {e' : Int} (hlow : (2 : ℚ) ^ (e' + 52) ≤ q) :
    e' ≤ e := by
  have hp := two_zpow_pos e
  have hmost : (m : ℚ) + 1 ≤ 2 ^ 53 := by exact_mod_cast h.lt
  have hlt : (2 : ℚ) ^ (e' + 52) < 2 ^ (e + 53) := by
    calc (2 : ℚ) ^ (e' + 52) ≤ q := hlow
      _ ≤ (m + 1 / 2) * 2 ^ e := hr.high
      _ < 2 ^ 53 * 2 ^ e := by gcongr; linarith
      _ = 2 ^ (e + 53) := (two_zpow_add e 53).symm
  have := (zpow_lt_zpow_iff_right₀ (by norm_num)).1 hlt
  omega

/-- **What is rounded up to a power of two** lies half a place of the binade below it. -/
theorem Reads.below {q : ℚ} (hr : Reads m e q) (he : -1074 < e) {e' : Int} (hlt : e' < e)
    (hhigh : q < 2 ^ (e' + 53)) :
    m = 2 ^ 52 ∧ e' = e - 1 ∧ (2 ^ 53 - 1 / 2) * 2 ^ (e - 1) ≤ q ∧ q < 2 ^ 53 * 2 ^ (e - 1) := by
  have hp := two_zpow_pos e
  have hgap := gapBelow_le m e
  -- The number lies in a lower binade, below the least significand of 53 bits.
  have hbelow : q < 2 ^ 52 * 2 ^ e := by
    calc q < 2 ^ (e' + 53) := hhigh
      _ ≤ 2 ^ (e + 52) := zpow_le_zpow_right₀ (by norm_num) (by omega)
      _ = 2 ^ 52 * 2 ^ e := two_zpow_add e 52
  -- A significand above the power of two would have kept the number in its own binade.
  have hpower : m = 2 ^ 52 := by
    have hlt' : (m : ℚ) - gapBelow m e < 2 ^ 52 :=
      lt_of_mul_lt_mul_right (hr.low.trans_lt hbelow) hp.le
    have : (m : ℚ) < 2 ^ 52 + 1 := by linarith
    have : m < 2 ^ 52 + 1 := by exact_mod_cast this
    have := h.full (by omega)
    omega
  have hlow : ((2 : ℚ) ^ 52 - 1 / 4) * 2 ^ e ≤ q := by
    have := hr.low
    rw [gapBelow, if_pos ⟨hpower, he⟩, hpower] at this
    exact_mod_cast this
  -- The number is more than half of the power of two, so the binade is the next one below.
  have hnext : e' = e - 1 := by
    have hlt' : (2 : ℚ) ^ (e + 51) < 2 ^ (e' + 53) := by
      calc (2 : ℚ) ^ (e + 51) = 2 ^ 51 * 2 ^ e := two_zpow_add e 51
        _ ≤ (2 ^ 52 - 1 / 4) * 2 ^ e := by gcongr; norm_num
        _ ≤ q := hlow
        _ < 2 ^ (e' + 53) := hhigh
    have := (zpow_lt_zpow_iff_right₀ (by norm_num)).1 hlt'
    omega
  have hhalf : (2 : ℚ) ^ e = 2 * 2 ^ (e - 1) := by
    rw [← zpow_one_add₀ (by norm_num), add_sub_cancel]
  rw [hhalf] at hlow hbelow
  exact ⟨hpower, hnext, by linarith, by linarith⟩

/-- **What lies between the midpoints around a double is rounded to it.** -/
theorem nearestBits_eq {num den : Nat} (hnum : 0 < num) (hden : 0 < den)
    (hr : Reads m e (num / den)) : nearestBits num den = doubleBits m e := by
  have hp := two_zpow_pos e
  have hgap := gapBelow_le m e
  have hleast := h.least
  obtain ⟨e', hlow, hhigh, hbits⟩ := exists_nearestBits hnum hden
  have hle := hr.exponent_le h hlow
  by_cases hsame : max e' (-1074) = e
  · rw [hbits, hsame, divNearest_timesTwoPow (m := m) hden, min_eq_left h.doubleBits_lt.le]
    · calc ((m : ℚ) - 1 / 2) * 2 ^ e ≤ (m - gapBelow m e) * 2 ^ e := by gcongr
        _ ≤ num / den := hr.low
    · exact hr.high
    · intro hodd
      refine ⟨?_, (hr.odd hodd).2⟩
      calc ((m : ℚ) - 1 / 2) * 2 ^ e ≤ (m - gapBelow m e) * 2 ^ e := by gcongr
        _ < num / den := (hr.odd hodd).1
  · -- The exponent that is found is one less, and the significand carries into the next one.
    have he : -1074 < e := by omega
    obtain ⟨hpower, hnext, hlow', hbelow⟩ := hr.below h he (by omega) hhigh
    have hp' := two_zpow_pos (e - 1)
    rw [hbits, hnext, max_eq_left (by omega), divNearest_timesTwoPow (m := 2 ^ 53) hden]
    · have hcarry : doubleBits (2 ^ 53) (e - 1) = doubleBits m e := by
        rw [doubleBits, doubleBits, if_neg (by norm_num), if_neg (by rw [hpower]; norm_num), hpower]
        omega
      rw [hcarry, min_eq_left h.doubleBits_lt.le]
    · push_cast
      exact hlow'
    · push_cast
      linarith
    · intro hodd
      norm_num at hodd

end

end SchemaDiagram
