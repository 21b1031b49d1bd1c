import Mathlib.Tactic.LinearCombination
import SchemaDiagram.Number.Decimal
import SchemaDiagram.Proofs.NearestDouble

/-! # The shortest digits of a double

The search for the shortest digits goes over finer and finer decimal grids. A grid of seventeen
digits is finer than the doubles, so the search ends with a decimal that lies between the midpoints
around the double, and reading that decimal gives the double back.

* **`decimalPoint_spec`** — where the decimal point stands.
* **`candidate?_spec`**, **`candidate?_seventeen`** — what a grid offers.
* **`Decimal.value`** — the number that a decimal stands for.
* **`shortestDigits_spec`** — the shortest digits read back. -/

namespace SchemaDiagram

/-- Every power of ten is positive. -/
theorem ten_zpow_pos (e : Int) : (0 : ℚ) < 10 ^ e := zpow_pos (by norm_num) e

/-- The number of digits tells a number up to a factor of ten. -/
theorem digitCount_spec {n : Nat} (h : 0 < n) :
    0 < digitCount n ∧ 10 ^ (digitCount n - 1) ≤ n ∧ n < 10 ^ digitCount n := by
  have hpos : 0 < digitCount n := Nat.length_toDigits_pos
  have hle : ∀ {k}, 0 < k → (digitCount n ≤ k ↔ n < 10 ^ k) :=
    Nat.length_toDigits_le_iff (by decide)
  refine ⟨hpos, ?_, (hle hpos).1 (Nat.le_refl _)⟩
  rcases Nat.eq_zero_or_pos (digitCount n - 1) with hzero | hone
  · rw [hzero]
    exact h
  · have := mt (hle hone).2 (by omega)
    omega

/-- How many digits a number has. -/
theorem digitCount_eq {n k : Nat} (hlow : 10 ^ k ≤ n) (hhigh : n < 10 ^ (k + 1)) :
    digitCount n = k + 1 := by
  have hpos : 0 < n := Nat.lt_of_lt_of_le (Nat.pow_pos (by decide)) hlow
  obtain ⟨h, h₁, h₂⟩ := digitCount_spec hpos
  have h₃ : digitCount n - 1 < k + 1 := (Nat.pow_lt_pow_iff_right (by decide)).1 (h₁.trans_lt hhigh)
  have h₄ : k < digitCount n := (Nat.pow_lt_pow_iff_right (by decide)).1 (hlow.trans_lt h₂)
  omega

/-- The product with a power of ten, as a quotient. -/
theorem timesTenPow_spec (num : Nat) {den : Nat} (hden : 0 < den) (e : Int) :
    0 < (timesTenPow num den e).2 ∧
      ((timesTenPow num den e).1 : ℚ) / (timesTenPow num den e).2 = num / den * 10 ^ e := by
  have hd : (0 : ℚ) < den := by exact_mod_cast hden
  cases e with
  | ofNat e =>
    refine ⟨hden, ?_⟩
    simp only [timesTenPow, Nat.pow_eq, Nat.cast_mul, Nat.cast_pow, Nat.cast_ofNat,
      Int.ofNat_eq_natCast, zpow_natCast]
    ring
  | negSucc e =>
    refine ⟨Nat.mul_pos hden (Nat.pow_pos (by decide)), ?_⟩
    simp only [timesTenPow, Nat.pow_eq, Nat.cast_mul, Nat.cast_pow, Nat.cast_ofNat, zpow_negSucc]
    field_simp

/-- **The decimal point** stands where the powers of ten around the quotient say. -/
theorem decimalPoint_spec {num den : Nat} (hnum : 0 < num) (hden : 0 < den) :
    (10 : ℚ) ^ (decimalPoint num den - 1) ≤ num / den ∧
      (num : ℚ) / den < 10 ^ decimalPoint num den := by
  have hd : (0 : ℚ) < den := by exact_mod_cast hden
  have hn : (0 : ℚ) < num := by exact_mod_cast hnum
  rw [decimalPoint]
  split
  -- At least one, the quotient has the digits of its whole part.
  next hle =>
    obtain ⟨hpos, hlow, hhigh⟩ := digitCount_spec (Nat.div_pos hle hden)
    generalize digitCount (num / den) = k at *
    rw [show (k : Int) - 1 = ((k - 1 : Nat) : Int) by omega, zpow_natCast, zpow_natCast,
      le_div_iff₀ hd, div_lt_iff₀ hd]
    have h₁ : 10 ^ (k - 1) * den ≤ num := (Nat.le_div_iff_mul_le hden).1 hlow
    have h₂ : num < 10 ^ k * den := (Nat.div_lt_iff_lt_mul hden).1 hhigh
    exact ⟨by exact_mod_cast h₁, by exact_mod_cast h₂⟩
  -- Below one, the digits of the inverse tell how far behind the point it starts.
  next hlt =>
    obtain ⟨hpos, hlow, hhigh⟩ := digitCount_spec (n := (den - 1) / num)
      (Nat.div_pos (by omega) hnum)
    generalize digitCount ((den - 1) / num) = k at *
    have h₁ : 10 ^ (k - 1) * num ≤ den - 1 := (Nat.le_div_iff_mul_le hnum).1 hlow
    have h₂ : den - 1 < 10 ^ k * num := (Nat.div_lt_iff_lt_mul hnum).1 hhigh
    have h₃ : ((10 ^ k * num : Nat) : ℚ) ≥ den := by exact_mod_cast (by omega : den ≤ 10 ^ k * num)
    have h₄ : ((10 ^ (k - 1) * num : Nat) : ℚ) < den := by
      exact_mod_cast (by omega : 10 ^ (k - 1) * num < den)
    push_cast at h₃ h₄
    rw [show (1 : Int) - k - 1 = -(k : Int) by ring,
      show (1 : Int) - k = -((k - 1 : Nat) : Int) by omega, zpow_neg, zpow_neg, zpow_natCast,
      zpow_natCast, ← one_div, ← one_div,
      div_le_div_iff₀ (by positivity) hd, div_lt_div_iff₀ hd (by positivity)]
    exact ⟨by linarith, by linarith⟩

/-! ## Candidates -/

/-- Quarters of a unit of the last place are compared with the points of a decimal grid at one
denominator. -/
theorem exists_scaled (e point : Int) (count : Nat) : ∃ den : Nat, 0 < den ∧ ∃ num : Nat → Nat,
    ∀ x : Nat,
      timesTenPow (timesTwoPow x 4 e).1 (timesTwoPow x 4 e).2 (count - point) = (num x, den) ∧
      ∀ d : Nat, (num x ≤ d * den ↔ (x : ℚ) / 4 * 2 ^ e ≤ d * 10 ^ (point - count)) ∧
        (d * den ≤ num x ↔ (d : ℚ) * 10 ^ (point - count) ≤ x / 4 * 2 ^ e) := by
  obtain ⟨hpos, -⟩ := timesTwoPow_spec 0 (show 0 < 4 by decide) e
  obtain ⟨hpos', -⟩ := timesTenPow_spec (timesTwoPow 0 4 e).1 hpos (count - point)
  refine ⟨_, hpos',
    fun x => (timesTenPow (timesTwoPow x 4 e).1 (timesTwoPow x 4 e).2 (count - point)).1,
    fun x => ?_⟩
  -- The denominator does not depend on the number of quarters.
  have hden : (timesTenPow (timesTwoPow x 4 e).1 (timesTwoPow x 4 e).2 (count - point)).2
      = (timesTenPow (timesTwoPow 0 4 e).1 (timesTwoPow 0 4 e).2 (count - point)).2 := by
    cases e <;> cases (count : Int) - point <;> rfl
  obtain ⟨hx, hx'⟩ := timesTwoPow_spec x (show 0 < 4 by decide) e
  obtain ⟨hb, hquot⟩ := timesTenPow_spec (timesTwoPow x 4 e).1 hx (count - point)
  rw [← hden]
  refine ⟨rfl, fun d => ?_⟩
  dsimp only
  generalize (timesTenPow (timesTwoPow x 4 e).1 (timesTwoPow x 4 e).2 (count - point)).1 = a at *
  generalize (timesTenPow (timesTwoPow x 4 e).1 (timesTwoPow x 4 e).2 (count - point)).2 = b at *
  have hb' : (0 : ℚ) < b := by exact_mod_cast hb
  have hu := ten_zpow_pos (point - count)
  have hunit : (10 : ℚ) ^ (point - count) * 10 ^ (count - point) = 1 := by
    rw [← zpow_add₀ (by norm_num), sub_add_sub_cancel, sub_self, zpow_zero]
  -- The scaled numerator is the number times the common denominator.
  have ha : (a : ℚ) * 10 ^ (point - count) = x / 4 * 2 ^ e * b := by
    rw [hx', div_eq_iff hb'.ne'] at hquot
    push_cast at hquot
    linear_combination (10 : ℚ) ^ (point - count) * hquot + (x : ℚ) / 4 * 2 ^ e * b * hunit
  constructor
  · calc a ≤ d * b ↔ (a : ℚ) ≤ d * b := by exact_mod_cast Iff.rfl
      _ ↔ (a : ℚ) * 10 ^ (point - count) ≤ d * b * 10 ^ (point - count) :=
        (mul_le_mul_iff_left₀ hu).symm
      _ ↔ (x : ℚ) / 4 * 2 ^ e ≤ d * 10 ^ (point - count) := by
        rw [ha, mul_right_comm (d : ℚ), mul_le_mul_iff_left₀ hb']
  · calc d * b ≤ a ↔ (d * b : ℚ) ≤ a := by exact_mod_cast Iff.rfl
      _ ↔ (d * b : ℚ) * 10 ^ (point - count) ≤ a * 10 ^ (point - count) :=
        (mul_le_mul_iff_left₀ hu).symm
      _ ↔ (d : ℚ) * 10 ^ (point - count) ≤ x / 4 * 2 ^ e := by
        rw [ha, mul_right_comm (d : ℚ), mul_le_mul_iff_left₀ hb']

section

variable {m : Nat} {e point : Int} {count : Nat}

/-- The test of a candidate, in quarters of a unit of the last place. -/
theorem reads_iff (hm : 0 < m) {den : Nat} {num : Nat → Nat}
    (hle : ∀ x d : Nat, num x ≤ d * den ↔ (x : ℚ) / 4 * 2 ^ e ≤ d * 10 ^ (point - count))
    (hge : ∀ x d : Nat, d * den ≤ num x ↔ (d : ℚ) * 10 ^ (point - count) ≤ x / 4 * 2 ^ e)
    (d : Nat) :
    (if m % 2 = 0 then
      decide (num (4 * m - if m = Nat.pow 2 52 ∧ -1074 < e then 1 else 2) ≤ d * den) &&
        decide (d * den ≤ num (4 * m + 2))
      else decide (num (4 * m - if m = Nat.pow 2 52 ∧ -1074 < e then 1 else 2) < d * den) &&
        decide (d * den < num (4 * m + 2))) = true ↔ Reads m e (d * 10 ^ (point - count)) := by
  -- The point below is half a unit away, or a quarter at the start of a binade.
  have hbelow : ((4 * m - if m = Nat.pow 2 52 ∧ -1074 < e then 1 else 2 : Nat) : ℚ) / 4
      = m - gapBelow m e := by
    have hpow : Nat.pow 2 52 = 2 ^ 52 := rfl
    rw [gapBelow, hpow, Nat.cast_sub (by split <;> omega)]
    split <;> push_cast <;> ring
  generalize (4 * m - if m = Nat.pow 2 52 ∧ -1074 < e then 1 else 2) = low at *
  -- The point above is half a unit away.
  have habove : ((4 * m + 2 : Nat) : ℚ) / 4 = m + 1 / 2 := by
    push_cast
    ring
  have h₁ := hle low d
  have h₂ := hge (4 * m + 2) d
  have h₃ := hge low d
  have h₄ := hle (4 * m + 2) d
  rw [hbelow] at h₁ h₃
  rw [habove] at h₂ h₄
  split
  -- For an even significand the midpoints themselves are read as it.
  next heven =>
    rw [Bool.and_eq_true, decide_eq_true_eq, decide_eq_true_eq, h₁, h₂]
    exact ⟨fun h => ⟨h.1, h.2, fun hodd => by omega⟩, fun h => ⟨h.low, h.high⟩⟩
  -- For an odd one they are not.
  next hodd =>
    rw [Bool.and_eq_true, decide_eq_true_eq, decide_eq_true_eq, ← not_le, ← not_le, h₃, h₄,
      not_le, not_le]
    exact ⟨fun h => ⟨h.1.le, h.2.le, fun _ => h⟩, fun h => h.odd (by omega)⟩

/-- **The candidates on a grid** are the multiples of its unit on both sides of the double, where
they lie between the midpoints around it. -/
theorem candidate?_spec (hm : 0 < m) (e point : Int) (count : Nat) :
    ∃ down : Nat, (down : ℚ) * 10 ^ (point - count) ≤ m * 2 ^ e ∧
      (m : ℚ) * 2 ^ e < (down + 1 : Nat) * 10 ^ (point - count) ∧
      (∀ d, candidate? m e point count = some d → d.point = point ∧
        (d.digits = down ∨ d.digits = down + 1) ∧ Reads m e (d.digits * 10 ^ (point - count))) ∧
      (candidate? m e point count = none → ¬ Reads m e (down * 10 ^ (point - count)) ∧
        ¬ Reads m e ((down + 1 : Nat) * 10 ^ (point - count))) := by
  obtain ⟨den, hden, num, hnum⟩ := exists_scaled e point count
  have hge := fun x d => ((hnum x).2 d).2
  have hreads := reads_iff hm (fun x d => ((hnum x).2 d).1) hge
  -- Rounded down, the double lies at or above the multiple.
  have hdown : ((num (4 * m) / den : Nat) : ℚ) * 10 ^ (point - count) ≤ m * 2 ^ e := by
    have := (hge (4 * m) (num (4 * m) / den)).1 (Nat.div_mul_le_self ..)
    push_cast at this ⊢
    linarith
  -- The next multiple is above it.
  have hup : (m : ℚ) * 2 ^ e < (num (4 * m) / den + 1 : Nat) * 10 ^ (point - count) := by
    have hlt : num (4 * m) < (num (4 * m) / den + 1) * den := by
      rw [Nat.mul_comm _ den]
      exact Nat.lt_mul_div_succ _ hden
    have := not_le.1 (mt (hge (4 * m) (num (4 * m) / den + 1)).2 (not_le.2 hlt))
    push_cast at this ⊢
    linarith
  refine ⟨num (4 * m) / den, hdown, hup, ?_⟩
  rw [← hreads, ← hreads, candidate?]
  simp only [fun x => (hnum x).1]
  split
  next h₁ h₂ =>
    refine ⟨fun d hd => ?_, nofun⟩
    obtain rfl := Option.some.inj hd
    split
    · exact ⟨rfl, .inl rfl, (hreads _).1 h₁⟩
    · exact ⟨rfl, .inr rfl, (hreads _).1 h₂⟩
  next h₁ _ =>
    refine ⟨fun d hd => ?_, nofun⟩
    obtain rfl := Option.some.inj hd
    exact ⟨rfl, .inl rfl, (hreads _).1 h₁⟩
  next _ h₂ =>
    refine ⟨fun d hd => ?_, nofun⟩
    obtain rfl := Option.some.inj hd
    exact ⟨rfl, .inr rfl, (hreads _).1 h₂⟩
  next h₁ h₂ => exact ⟨nofun, fun _ => ⟨by rw [h₁]; exact Bool.false_ne_true,
      by rw [h₂]; exact Bool.false_ne_true⟩⟩

/-- **Seventeen digits suffice**: the unit of their grid is less than one of the last place, so one
of the two candidates lies between the midpoints. -/
theorem candidate?_seventeen (h : IsDouble m e) (hm : 0 < m)
    (hpoint : (10 : ℚ) ^ (point - 1) ≤ m * 2 ^ e) : candidate? m e point 17 ≠ none := by
  have hp := two_zpow_pos e
  have hu := ten_zpow_pos (point - (17 : Nat))
  obtain ⟨down, hdown, hup, -, hnone⟩ := candidate?_spec hm e point 17
  intro heq
  obtain ⟨hlow, hhigh⟩ := hnone heq
  have hmost : (m : ℚ) + 1 ≤ 2 ^ 53 := by exact_mod_cast h.lt
  -- The unit is at most the double over `10 ^ 16`.
  have hunit : (10 : ℚ) ^ (point - (17 : Nat)) * 10 ^ 16 ≤ m * 2 ^ e := by
    calc (10 : ℚ) ^ (point - (17 : Nat)) * 10 ^ 16 = 10 ^ (point - 1) := by
          rw [show point - 1 = point - (17 : Nat) + (16 : Nat) by push_cast; ring,
            zpow_add₀ (by norm_num), zpow_natCast]
      _ ≤ m * 2 ^ e := hpoint
  generalize (10 : ℚ) ^ (point - (17 : Nat)) = u at *
  have hbound : (m : ℚ) * 2 ^ e ≤ 2 ^ 53 * 2 ^ e := by gcongr; linarith
  have hsmall : u < (gapBelow m e + 1 / 2) * 2 ^ e := by
    rw [gapBelow]
    split
    next hpower =>
      have hm' : (m : ℚ) = 2 ^ 52 := by exact_mod_cast hpower.1
      rw [hm'] at hunit
      linarith
    next => linarith
  have hgap : 0 < gapBelow m e * 2 ^ e := mul_pos (gapBelow_pos m e) hp
  rw [Nat.cast_add, Nat.cast_one] at hup hhigh
  by_cases hread : ((m : ℚ) - gapBelow m e) * 2 ^ e < down * u
  · have hlt : (down : ℚ) * u < (m + 1 / 2) * 2 ^ e := by linarith
    exact hlow ⟨hread.le, hlt.le, fun _ => ⟨hread, hlt⟩⟩
  · have hlt : ((m : ℚ) - gapBelow m e) * 2 ^ e < (down + 1) * u := by linarith
    have hlt' : ((down : ℚ) + 1) * u < (m + 1 / 2) * 2 ^ e := by linarith
    exact hhigh ⟨hlt.le, hlt'.le, fun _ => ⟨hlt, hlt'⟩⟩

end

/-! ## Normal form -/

/-- What is dropped from the end of a text is one character many times. -/
theorem Text.exists_dropTail (c : Char) (s : Text) :
    ∃ n, s = s.dropTail c ++ List.replicate n c := by
  refine ⟨(s.reverse.takeWhile (· = c)).length, ?_⟩
  have htake : s.reverse.takeWhile (· = c)
      = List.replicate (s.reverse.takeWhile (· = c)).length c :=
    List.eq_replicate_iff.2 ⟨rfl, fun d hd => by
      simpa using List.all_eq_true.1 List.all_takeWhile d hd⟩
  have hsplit :=
    congrArg List.reverse (List.takeWhile_append_dropWhile (p := (· = c)) (l := s.reverse))
  rw [List.reverse_append, List.reverse_reverse, htake, List.reverse_replicate] at hsplit
  exact hsplit.symm

namespace Decimal

/-- The number that a decimal stands for. -/
def value (d : Decimal) : ℚ := d.digits * 10 ^ (d.point - digitCount d.digits)

/-- **Normal form** drops zeros and moves the point behind a carry; the number stays. -/
theorem value_normalize {count : Nat} (hcount : 0 < count) {d : Decimal}
    (hlow : 10 ^ (count - 1) ≤ d.digits) (hhigh : d.digits ≤ 10 ^ count) :
    (d.normalize count).value = d.digits * 10 ^ (d.point - count) ∧
      0 < (d.normalize count).digits := by
  have hpos : 0 < d.digits := Nat.lt_of_lt_of_le (Nat.pow_pos (by decide)) hlow
  obtain ⟨n, hn⟩ := Text.exists_dropTail '0' (Text.ofNat d.digits)
  have hdigits : (d.normalize count).digits
      = Nat.ofDigitChars 10 (Text.dropTail '0' (Text.ofNat d.digits)) 0 := rfl
  -- The digits before the zeros make up the number over a power of ten.
  have hmul : d.digits = 10 ^ n * (d.normalize count).digits := by
    have := congrArg (Nat.ofDigitChars 10 · 0) hn
    rw [Nat.ofDigitChars_append, Nat.ofDigitChars_replicate_zero, ← hdigits] at this
    rw [← this, Text.ofNat, Nat.ofDigitChars_ten_toDigits]
  have hkept : 0 < (d.normalize count).digits := by
    refine Nat.pos_of_ne_zero fun hzero => ?_
    rw [hzero, Nat.mul_zero] at hmul
    omega
  refine ⟨?_, hkept⟩
  have hlen : digitCount d.digits = digitCount (d.normalize count).digits + n := by
    obtain ⟨h, h₁, h₂⟩ := digitCount_spec hkept
    have := digitCount_eq (n := d.digits) (k := digitCount (d.normalize count).digits - 1 + n)
      (by rw [hmul, pow_add, Nat.mul_comm]; gcongr)
      (by
        rw [hmul, show digitCount (d.normalize count).digits - 1 + n + 1
          = n + digitCount (d.normalize count).digits by omega, pow_add]
        gcongr)
    omega
  have hpoint : (d.normalize count).point - digitCount d.digits = d.point - count := by
    rw [normalize]
    dsimp only
    rcases Nat.lt_or_eq_of_le hhigh with hlt | hcarry
    · rw [digitCount_eq hlow (by rwa [Nat.sub_add_cancel hcount]), if_neg (by omega),
        Nat.sub_add_cancel hcount]
    · have hone : digitCount (10 ^ count) = count + 1 :=
        digitCount_eq (Nat.le_refl _) (Nat.pow_lt_pow_right (by decide) (Nat.lt_succ_self _))
      rw [hcarry, hone, if_pos (Nat.lt_succ_self _)]
      push_cast
      ring
  have hexp : (d.normalize count).point - (digitCount (d.normalize count).digits : Int)
      = n + (d.point - count) := by
    rw [← hpoint, hlen]
    push_cast
    ring
  rw [value, hexp, zpow_add₀ (by norm_num), zpow_natCast, hmul]
  push_cast
  ring

end Decimal

/-! ## The shortest digits -/

section

variable {m : Nat} {e point : Int}

/-- The candidates on a grid have as many digits as the grid, or are the next power of ten. -/
theorem candidate?_bounds (hm : 0 < m) (hlow : (10 : ℚ) ^ (point - 1) ≤ m * 2 ^ e)
    (hhigh : (m : ℚ) * 2 ^ e < 10 ^ point) {count : Nat} (hcount : 0 < count) {d : Decimal}
    (hd : candidate? m e point count = some d) :
    d.point = point ∧ Reads m e (d.digits * 10 ^ (point - count)) ∧
      10 ^ (count - 1) ≤ d.digits ∧ d.digits ≤ 10 ^ count := by
  obtain ⟨down, hdown, hup, hsome, -⟩ := candidate?_spec hm e point count
  obtain ⟨hpoint, hdigits, hreads⟩ := hsome d hd
  have hu := ten_zpow_pos (point - count)
  -- The power of ten below the double bounds the next multiple from below.
  have hleast : 10 ^ (count - 1) < down + 1 := by
    have hlt : (10 : ℚ) ^ (count - 1) * 10 ^ (point - count)
        < (down + 1 : Nat) * 10 ^ (point - count) := by
      calc (10 : ℚ) ^ (count - 1) * 10 ^ (point - count) = 10 ^ (point - 1) := by
            rw [← zpow_natCast, ← zpow_add₀ (by norm_num)]
            congr 1
            omega
        _ ≤ m * 2 ^ e := hlow
        _ < (down + 1 : Nat) * 10 ^ (point - count) := hup
    exact_mod_cast lt_of_mul_lt_mul_right hlt hu.le
  -- The power of ten above it bounds the multiple from above.
  have hmost : down < 10 ^ count := by
    have hlt : (down : ℚ) * 10 ^ (point - count) < 10 ^ count * 10 ^ (point - count) := by
      calc (down : ℚ) * 10 ^ (point - count) ≤ m * 2 ^ e := hdown
        _ < 10 ^ point := hhigh
        _ = 10 ^ count * 10 ^ (point - count) := by
            rw [← zpow_natCast, ← zpow_add₀ (by norm_num), add_sub_cancel]
    exact_mod_cast lt_of_mul_lt_mul_right hlt hu.le
  exact ⟨hpoint, hreads, by omega, by omega⟩

/-- The search ends at the latest on the grid of seventeen digits. -/
theorem shortestFrom_spec (h : IsDouble m e) (hm : 0 < m)
    (hlow : (10 : ℚ) ^ (point - 1) ≤ m * 2 ^ e) (hhigh : (m : ℚ) * 2 ^ e < 10 ^ point)
    (fuel : Nat) {count : Nat} (hcount : 0 < count) (hle : count ≤ 17) (hfuel : 18 ≤ fuel + count) :
    0 < (shortestFrom m e point fuel count).digits ∧
      Reads m e (shortestFrom m e point fuel count).value := by
  induction fuel generalizing count with
  | zero => omega
  | succ fuel ih =>
    rw [shortestFrom]
    cases hd : candidate? m e point count with
    -- A candidate is found, and it is read as the double.
    | some d =>
      obtain ⟨hpoint, hreads, hleast, hmost⟩ := candidate?_bounds hm hlow hhigh hcount hd
      obtain ⟨hvalue, hpos⟩ := Decimal.value_normalize hcount hleast hmost
      refine ⟨hpos, ?_⟩
      dsimp only
      rw [hvalue, hpoint]
      exact hreads
    -- Seventeen digits always have a candidate, so the search has not come that far.
    | none =>
      have hne : count ≠ 17 := by
        rintro rfl
        exact candidate?_seventeen h hm hlow hd
      exact ih (Nat.succ_pos _) (by omega) (by omega)

/-- **The shortest digits read back**: they lie between the midpoints around the double. -/
theorem shortestDigits_spec (h : IsDouble m e) (hm : 0 < m) :
    0 < (shortestDigits m e).digits ∧ Reads m e (shortestDigits m e).value := by
  obtain ⟨hpos, hquot⟩ := timesTwoPow_spec m (show 0 < 1 by decide) e
  have hnum : 0 < (timesTwoPow m 1 e).1 := by
    refine Nat.pos_of_ne_zero fun hzero => ?_
    have hv : (0 : ℚ) < m * 2 ^ e := mul_pos (by exact_mod_cast hm) (two_zpow_pos e)
    rw [hzero, Nat.cast_zero, zero_div, Nat.cast_one, div_one] at hquot
    exact hv.ne hquot
  obtain ⟨hlow, hhigh⟩ := decimalPoint_spec hnum hpos
  rw [hquot, Nat.cast_one, div_one] at hlow hhigh
  exact shortestFrom_spec h hm hlow hhigh 17 (by decide) (by decide) (by decide)

end

end SchemaDiagram
