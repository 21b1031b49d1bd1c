import SchemaDiagram.Number.Mixed
import SchemaDiagram.Proofs.NearestDouble

/-! # The range of doubles

A whole number has a double as long as it is rounded to a finite one. The limit lies half a unit
below the power of two that comes after the largest double: a tie there is rounded up.

* **`unpack_toModel`** — what calculations and comparisons see of a double is its value.
* **`isInf_iff`**, **`beq_zero_iff`**, **`pos_iff`** — tests of a double by its value.
* **`wholeLimit`** — the least whole number without a double.
* **`floatOfInt?_eq_some_iff`** — the whole numbers that have a double. -/

namespace SchemaDiagram

/-! ## Tests of a double -/

section

open Float.Model Float.Model.UnpackedFloat

/-- The sign of a double. -/
def signOf (negative : Bool) : Sign := if negative then .negative else .positive

/-- A value as the parts that calculations with doubles work on. -/
def Binary.unpacked : Binary → UnpackedFloat
  | .nan => .notANumber
  | .infinite negative => .infinity (signOf negative)
  | .finite negative m e =>
    if h : 0 < m then .finite (signOf negative) m e h else .zero (signOf negative)

/-- The fields of 64 bits. -/
theorem unpacked_fields (b : BitVec Format.binary64.numBits) :
    (unpackExponent b).toNat = b.toNat % 2 ^ 63 / 2 ^ 52 ∧
    (unpackMantissa b).toNat = b.toNat % 2 ^ 52 ∧
    Sign.ofBitVec (unpackSign b)
      = signOf (decide (2 ^ 63 ≤ b.toNat)) := by
  have hlt : b.toNat < 2 ^ 64 := b.isLt
  refine ⟨?_, ?_, ?_⟩
  · -- Each field is a shift and a remainder of the bits.
    change (b.toNat >>> 52) % 2 ^ 11 = _
    rw [Nat.shiftRight_eq_div_pow]
    omega
  · change (b.toNat >>> 0) % 2 ^ 52 = _
    rw [Nat.shiftRight_zero]
  · have hsign : unpackSign b
        = BitVec.ofNat 1 (b.toNat / 2 ^ 63) := by
      apply BitVec.eq_of_toNat_eq
      change (b.toNat >>> 63) % 2 = _
      rw [Nat.shiftRight_eq_div_pow]
      simp
    rw [hsign]
    -- The highest bit is the sign.
    by_cases h : 2 ^ 63 ≤ b.toNat
    · rw [show b.toNat / 2 ^ 63 = 1 by omega, decide_eq_true h]
      rfl
    · rw [show b.toNat / 2 ^ 63 = 0 by omega, decide_eq_false h]
      rfl

/-- 64 bits are unpacked to the value that they stand for. -/
theorem unpack_eq (b : BitVec Format.binary64.numBits) :
    UnpackedFloat.unpack Format.binary64 b = (Binary.ofBits b.toNat).unpacked := by
  obtain ⟨hexp, hmant, hsign⟩ := unpacked_fields b
  have hlt : b.toNat < 2 ^ 64 := b.isLt
  have hpow₁ : Nat.pow 2 63 = 2 ^ 63 := rfl
  have hpow₂ : Nat.pow 2 52 = 2 ^ 52 := rfl
  have hinf : infinityBits = 2047 * 2 ^ 52 := rfl
  have hall : unpackExponent b = -1#11 ↔
      b.toNat % 2 ^ 63 / 2 ^ 52 = 2047 := by rw [← BitVec.toNat_inj, hexp]; rfl
  have hnone : unpackExponent b = 0#11 ↔
      b.toNat % 2 ^ 63 / 2 ^ 52 = 0 := by rw [← BitVec.toNat_inj, hexp]; rfl
  have hzero : unpackMantissa b = 0#52 ↔
      b.toNat % 2 ^ 52 = 0 := by rw [← BitVec.toNat_inj, hmant]; rfl
  have habove : infinityBits < b.toNat % 2 ^ 63 ↔
      b.toNat % 2 ^ 63 / 2 ^ 52 = 2047 ∧ ¬b.toNat % 2 ^ 52 = 0 := by omega
  have hequal : b.toNat % 2 ^ 63 = infinityBits ↔
      b.toNat % 2 ^ 63 / 2 ^ 52 = 2047 ∧ b.toNat % 2 ^ 52 = 0 := by omega
  rw [UnpackedFloat.unpack, hsign]
  -- Both readings ask the same questions of the fields.
  simp only [Binary.ofBits, hpow₁, hpow₂, habove, hequal, ← hall, ← hnone, ← hzero]
  split
  next hexpAll =>
    by_cases hm : unpackMantissa b = 0#52
    · simp only [hexpAll, hm, not_true_eq_false, and_false, and_self, if_true, if_false,
        Binary.unpacked]
    · simp only [hexpAll, hm, not_false_eq_true, and_self, if_true, if_false, Binary.unpacked]
  next hexpAll =>
    simp only [hexpAll, false_and, if_false]
    split
    next hexpNone =>
      rw [hnone] at hexpNone
      split
      next hm =>
        rw [hzero] at hm
        rw [Binary.unpacked, dif_neg (by omega)]
      next hm =>
        rw [hzero] at hm
        rw [Binary.unpacked, dif_pos (by omega)]
        congr 1
        · omega
        · rw [hexp, hexpNone]
          rfl
    next =>
      rw [Binary.unpacked, dif_pos (by omega)]
      congr 1
      · rw [BitVec.toNat_append, ← Nat.shiftLeft_add_eq_or_of_lt (BitVec.isLt _), hmant]
        change 1 * 2 ^ 52 + _ = _
        omega
      · rw [hexp]
        rfl

/-- **What calculations see of a double** is its value. -/
theorem unpack_toModel (x : Float) : x.toModel.unpack = (Binary.ofFloat x).unpacked :=
  unpack_eq x.toBits.toBitVec

/-- The infinite doubles are those of either sign. -/
theorem isInf_iff {x : Float} :
    x.isInf = true ↔ ∃ negative, Binary.ofFloat x = .infinite negative := by
  rw [Float.isInf, Float.Model.isInf, unpack_toModel]
  cases Binary.ofFloat x with
  | nan => simp [Binary.unpacked, UnpackedFloat.isInf]
  | infinite s => simp [Binary.unpacked, UnpackedFloat.isInf]
  | finite s m e =>
    rw [Binary.unpacked]
    split <;> simp [UnpackedFloat.isInf]

/-- Zero has the least exponent. -/
theorem ofFloat_zero : Binary.ofFloat 0 = .finite false 0 (-1074) := by rfl

/-- The doubles that equal zero are the zeros of either sign. -/
theorem beq_zero_iff {x : Float} :
    (x == 0) = true ↔ ∃ negative e, Binary.ofFloat x = .finite negative 0 e := by
  -- The comparison of floats is that of their binary forms.
  have h : (x == 0) = (Binary.ofFloat x).unpacked.beq (Binary.ofFloat 0).unpacked := by
    rw [← unpack_toModel, ← unpack_toModel]
    rfl
  rw [h, ofFloat_zero]
  -- Only zeros compare as equal to zero, and their signs do not matter.
  cases Binary.ofFloat x with
  | nan => simp [Binary.unpacked, UnpackedFloat.beq, UnpackedFloat.compare]
  | infinite s =>
    cases s <;> simp [Binary.unpacked, signOf, UnpackedFloat.beq, UnpackedFloat.compare]
  | finite s m e =>
    by_cases hm : 0 < m
    · cases s <;> simp [Binary.unpacked, signOf, UnpackedFloat.beq, UnpackedFloat.compare, hm] <;>
        omega
    · simp [Binary.unpacked, signOf, UnpackedFloat.beq, UnpackedFloat.compare, hm]
      omega

/-- The doubles above zero are the infinite one and those with a significand. -/
theorem pos_iff {x : Float} :
    0 < x ↔ Binary.ofFloat x = .infinite false ∨
      ∃ m e, 0 < m ∧ Binary.ofFloat x = .finite false m e := by
  -- The comparison of floats is that of their binary forms.
  have h : 0 < x ↔ (Binary.ofFloat 0).unpacked.lt (Binary.ofFloat x).unpacked = true := by
    rw [← unpack_toModel, ← unpack_toModel]
    exact decide_eq_true_iff
  rw [h, ofFloat_zero]
  cases Binary.ofFloat x with
  | nan => simp [Binary.unpacked, UnpackedFloat.lt, UnpackedFloat.compare]
  | infinite s =>
    cases s <;> simp [Binary.unpacked, signOf, UnpackedFloat.lt, UnpackedFloat.compare]
  | finite s m e =>
    by_cases hm : 0 < m
    · cases s <;> simp [Binary.unpacked, signOf, UnpackedFloat.lt, UnpackedFloat.compare, hm]
    · cases s <;> simp [Binary.unpacked, signOf, UnpackedFloat.lt, UnpackedFloat.compare, hm]

/-- Bits that do not stand for no number are those of the double that they make. -/
theorem toBits_ofBits {b : UInt64} (h : Binary.ofBits b.toNat ≠ .nan) :
    (Float.ofBits b).toBits = b := by
  -- Bits with all of the exponent set and a mantissa stand for no number.
  have hvalid : Format.binary64.Valid b.toBitVec := by
    refine ⟨fun hexp hmant => absurd ?_ h⟩
    have hunpack : UnpackedFloat.unpack Format.binary64 b.toBitVec
        = (Binary.ofBits b.toNat).unpacked := unpack_eq b.toBitVec
    rw [UnpackedFloat.unpack] at hunpack
    simp only [hexp, if_true] at hunpack
    rw [if_neg hmant] at hunpack
    cases hb : Binary.ofBits b.toNat with
    | nan => rfl
    | infinite =>
      rw [hb] at hunpack
      cases hunpack
    | finite =>
      rw [hb, Binary.unpacked] at hunpack
      split at hunpack <;> cases hunpack
  exact congrArg UInt64.ofBitVec (pack_unpack hvalid)

end

/-! ## Quotients past the largest double -/

/-- The least whole number that is rounded past the largest double, half a unit below the power of
two that comes after that. -/
@[irreducible] def wholeLimit : Nat := (2 ^ 54 - 1) * 2 ^ 970

/-- Two to the power of 53 is far below the limit. -/
theorem le_wholeLimit : 2 ^ 53 ≤ wholeLimit := by
  unfold wholeLimit
  exact le_trans (by decide) (Nat.le_mul_of_pos_right _ (pow_pos two_pos _))

/-- The limit is positive. -/
theorem wholeLimit_pos : 0 < wholeLimit := lt_of_lt_of_le (by decide) le_wholeLimit

/-- The limit in units of the largest doubles. -/
theorem wholeLimit_eq : (wholeLimit : ℚ) = (2 ^ 54 - 1) / 2 * 2 ^ (971 : Int) := by
  have hpow : (2 : ℚ) ^ (971 : Int) = 2 * 2 ^ 970 := by rw [← pow_succ', ← zpow_natCast]; rfl
  unfold wholeLimit
  rw [hpow, Nat.cast_mul, Nat.cast_pow, ← mul_assoc, div_mul_cancel₀ _ two_ne_zero]
  norm_num

/-- What is rounded to an even number or to a larger one. -/
theorem le_divNearest_iff {num den n : Nat} (hden : 0 < den) (hn : 0 < n) (heven : n % 2 = 0) :
    n ≤ divNearest num den ↔ (2 * n - 1) * den ≤ 2 * num := by
  obtain ⟨hhigh, hlow⟩ := divNearest_spec num den hden
  obtain ⟨k, rfl⟩ : ∃ k, n = k + 1 := ⟨n - 1, by omega⟩
  have hodd : (2 * (k + 1) - 1) * den = (2 * k + 1) * den := by congr 1
  rw [hodd]
  constructor
  · intro h
    have : 2 * (k + 1) * den ≤ 2 * divNearest num den * den := by gcongr
    have : 2 * (k + 1) * den = (2 * k + 1) * den + den := by ring
    omega
  · intro h
    by_contra hlt
    -- The quotient lies half way between `k` and `k + 1`, of which the even one is `k + 1`.
    have hle : (2 * divNearest num den + 1) * den ≤ (2 * k + 1) * den := by gcongr; omega
    have heq : 2 * num = (2 * k + 1) * den := by omega
    have hk : divNearest num den = k := by
      have := Nat.le_of_mul_le_mul_right (heq ▸ hhigh) hden
      omega
    have hsplit : (2 * k + 1) * den = 2 * (den * k) + den := by ring
    have hdiv : num / den = k := Nat.div_eq_of_lt_le (by rw [Nat.mul_comm]; omega) (by
      have : (k + 1) * den = den * k + den := by ring
      omega)
    have hmod := Nat.div_add_mod num den
    rw [hdiv] at hmod
    have := even_divNearest_of_tie num den (by omega)
    omega

/-- The significand of a quotient before it is rounded: it has 53 bits but for the least exponent.
-/
theorem exists_significand {num den : Nat} (hnum : 0 < num) (hden : 0 < den) :
    ∃ (a b : Nat) (e : Int), 0 < b ∧ (num : ℚ) / den = a / b * 2 ^ e ∧ (a : ℚ) / b < 2 ^ 53 ∧
      -1074 ≤ e ∧ (-1074 < e → (2 : ℚ) ^ 52 ≤ a / b) ∧
      nearestBits num den = min (doubleBits (divNearest a b) e) infinityBits := by
  obtain ⟨e, hlow, hhigh, hbits⟩ := exists_nearestBits hnum hden
  -- The exponent is that of the quotient, unless it is below the least one.
  have he : e ≤ max e (-1074) ∧ (-1074 < max e (-1074) → max e (-1074) = e) := by omega
  have hleast : -1074 ≤ max e (-1074) := by omega
  generalize max e (-1074) = E at hbits he hleast
  obtain ⟨hb, hquot⟩ := timesTwoPow_spec num hden (-E)
  generalize (timesTwoPow num den (-E)).1 = a at hbits hquot
  generalize (timesTwoPow num den (-E)).2 = b at hbits hquot hb
  have hE := two_zpow_pos E
  have hq : (num : ℚ) / den = a / b * 2 ^ E := by
    rw [hquot, zpow_neg, inv_mul_cancel_right₀ hE.ne']
  rw [hq] at hlow hhigh
  refine ⟨a, b, E, hb, hq, ?_, hleast, fun h => ?_, hbits⟩
  · refine lt_of_mul_lt_mul_right (hhigh.trans_le ?_) hE.le
    -- The quotient is below the power of two above it, and that is at most 53 bits above the
    -- exponent.
    rw [add_comm, zpow_add₀ two_ne_zero]
    exact mul_le_mul_of_nonneg_left (zpow_le_zpow_right₀ one_le_two he.1) (by norm_num)
  · -- Above the least exponent the quotient is at least the power of two that starts its exponent.
    obtain rfl := he.2 h
    rw [add_comm, zpow_add₀ two_ne_zero] at hlow
    exact le_of_mul_le_mul_right hlow hE

/-- The bits of a rounded significand reach those of an infinity only past the greatest exponent, or
there by a carry. -/
theorem infinityBits_le_doubleBits_iff {m : Nat} {e : Int} (hm : m ≤ 2 ^ 53 + 1)
    (he : -1074 ≤ e) (hfull : -1074 < e → 2 ^ 52 ≤ m) :
    infinityBits ≤ doubleBits m e ↔ 971 < e ∨ e = 971 ∧ 2 ^ 53 ≤ m := by
  have hinf : infinityBits = 2047 * 2 ^ 52 := rfl
  rw [hinf, doubleBits]
  split <;> omega

/-- **The bits of an infinity** are those of the quotients from the limit on. -/
theorem nearestBits_eq_infinityBits_iff {num den : Nat} (hnum : 0 < num) (hden : 0 < den) :
    nearestBits num den = infinityBits ↔ wholeLimit * den ≤ num := by
  obtain ⟨a, b, e, hb, hq, hlt, hleast, hle, hbits⟩ := exists_significand hnum hden
  have hd : (0 : ℚ) < den := by exact_mod_cast hden
  have hb' : (0 : ℚ) < b := by exact_mod_cast hb
  -- The limit lies half a unit above the largest double, at the exponent 971.
  have hlimit : wholeLimit * den ≤ num ↔
      (2 ^ 54 - 1) / 2 * (2 : ℚ) ^ (971 : Int) ≤ a / b * 2 ^ e := by
    rw [← hq, ← wholeLimit_eq, le_div_iff₀ hd]
    exact_mod_cast Iff.rfl
  -- A rounded quotient reaches an even number from half a unit below it.
  have hrounded (n : Nat) (hn : 0 < n) (heven : n % 2 = 0) :
      n ≤ divNearest a b ↔ (2 * n - 1 : ℚ) / 2 ≤ a / b := by
    have hodd : ((2 * n - 1 : Nat) : ℚ) = 2 * n - 1 := by
      rw [Nat.cast_sub (by omega)]
      push_cast
      ring
    rw [le_divNearest_iff hb hn heven, div_le_div_iff₀ two_pos hb', mul_comm (a : ℚ), ← hodd]
    exact_mod_cast Iff.rfl
  -- A significand of 53 ones is carried over from its midpoint on.
  have hcarry : 2 ^ 53 ≤ divNearest a b ↔ ((2 : ℚ) ^ 54 - 1) / 2 ≤ a / b := by
    rw [hrounded _ (by decide) (by decide)]
    norm_num
  have hfull : -1074 < e → 2 ^ 52 ≤ divNearest a b := fun h => by
    rw [hrounded _ (by decide) (by decide)]
    refine le_trans ?_ (hle h)
    norm_num
  have hmost : divNearest a b ≤ 2 ^ 53 + 1 := by
    by_contra h
    have := (hrounded (2 ^ 53 + 2) (by decide) (by decide)).1 (by omega)
    push_cast at this
    linarith
  rw [hbits, min_eq_right_iff, infinityBits_le_doubleBits_iff hmost hleast hfull, hlimit, hcarry]
  have htop := two_zpow_pos 971
  -- Below the last exponent nothing is rounded up to infinity, above it everything is, and at it
  -- the significand decides.
  rcases lt_trichotomy e 971 with hlow | rfl | hhigh
  · have hpow : 2 * (2 : ℚ) ^ e ≤ 2 ^ (971 : Int) := by
      rw [← zpow_one_add₀ two_ne_zero]
      exact zpow_le_zpow_right₀ one_le_two (by omega)
    refine iff_of_false (by omega) (not_le.2 ?_)
    calc (a : ℚ) / b * 2 ^ e < 2 ^ 53 * 2 ^ e := by gcongr
      _ ≤ 2 ^ 52 * 2 ^ (971 : Int) := by linarith
      _ ≤ (2 ^ 54 - 1) / 2 * 2 ^ (971 : Int) := by gcongr; norm_num
  · simp only [lt_irrefl, true_and, false_or, mul_le_mul_iff_left₀ htop]
  · have hpow : 2 * (2 : ℚ) ^ (971 : Int) ≤ 2 ^ e := by
      rw [← zpow_one_add₀ two_ne_zero]
      exact zpow_le_zpow_right₀ one_le_two (by omega)
    refine iff_of_true (.inl hhigh) ?_
    calc ((2 : ℚ) ^ 54 - 1) / 2 * 2 ^ (971 : Int) ≤ 2 ^ 53 * 2 ^ (971 : Int) := by gcongr; norm_num
      _ ≤ 2 ^ 52 * 2 ^ e := by linarith
      _ ≤ a / b * 2 ^ e := by gcongr; exact hle (by omega)

/-- What is not below one is not rounded to zero. -/
theorem nearestBits_ne_zero {num den : Nat} (hden : 0 < den) (hle : den ≤ num) :
    nearestBits num den ≠ 0 := by
  obtain ⟨a, b, e, hb, hq, hlt, hleast, hfull, hbits⟩ := exists_significand (hden.trans_le hle) hden
  have hd : (0 : ℚ) < den := by exact_mod_cast hden
  have hb' : (0 : ℚ) < b := by exact_mod_cast hb
  have hone : (1 : ℚ) ≤ a / b * 2 ^ e := by
    rw [← hq, one_le_div hd]
    exact_mod_cast hle
  -- One has an exponent far above the least one, and so a full significand.
  have he : -1074 < e := by
    refine lt_of_le_of_ne hleast fun h => absurd hone (not_le.2 ?_)
    calc (a : ℚ) / b * 2 ^ e < 2 ^ 53 * 2 ^ e := mul_lt_mul_of_pos_right hlt (two_zpow_pos e)
      _ = 2 ^ (53 + e) := (zpow_add₀ two_ne_zero 53 e).symm
      _ ≤ 2 ^ (0 : Int) := zpow_le_zpow_right₀ one_le_two (by omega)
      _ = 1 := zpow_zero 2
  have hab : b ≤ a := by
    have : (1 : ℚ) ≤ a / b := le_trans (by norm_num) (hfull he)
    exact_mod_cast (one_le_div hb').1 this
  have hspec := (divNearest_spec a b hb).1
  have hpos : divNearest a b ≠ 0 := fun h => by
    rw [h] at hspec
    omega
  rw [hbits, Ne, Nat.min_eq_zero_iff, doubleBits, not_or]
  refine ⟨?_, by decide⟩
  split <;> omega

/-! ## Rounded quotients -/

/-- The value of bits up to those of an infinity, with a sign. -/
theorem ofBits_signed (negative : Bool) {bits : Nat} (h : bits ≤ infinityBits) :
    Binary.ofBits (if negative then Nat.pow 2 63 + bits else bits) =
      if bits = infinityBits then .infinite negative
      else if bits / 2 ^ 52 = 0 then .finite negative (bits % 2 ^ 52) (-1074)
      else .finite negative (bits % 2 ^ 52 + 2 ^ 52) ((bits / 2 ^ 52 : Nat) - 1075) := by
  have hpow₁ : Nat.pow 2 63 = 2 ^ 63 := rfl
  have hpow₂ : Nat.pow 2 52 = 2 ^ 52 := rfl
  have hinf : infinityBits = 2047 * 2 ^ 52 := rfl
  -- The sign is the highest bit, and the rest are the bits of the magnitude.
  have hmagnitude : (if negative then 2 ^ 63 + bits else bits) % 2 ^ 63 = bits := by
    split <;> omega
  have hsign : decide (2 ^ 63 ≤ if negative then 2 ^ 63 + bits else bits) = negative := by
    cases negative
    · simp only [Bool.false_eq_true, if_false, decide_eq_false_iff_not, not_le]
      omega
    · simp only [if_true, Nat.le_add_right, decide_true]
  simp only [Binary.ofBits, hpow₁, hpow₂, hmagnitude, hsign]
  rw [if_neg (by omega)]

/-- **The value of a rounded quotient** is that of its bits. -/
theorem ofFloat_nearestFloat (negative : Bool) (num den : Nat) :
    ∃ bits ≤ infinityBits, (bits = if num = 0 then 0 else nearestBits num den) ∧
      Binary.ofFloat (nearestFloat negative num den) =
        if bits = infinityBits then .infinite negative
        else if bits / 2 ^ 52 = 0 then .finite negative (bits % 2 ^ 52) (-1074)
        else .finite negative (bits % 2 ^ 52 + 2 ^ 52) ((bits / 2 ^ 52 : Nat) - 1075) := by
  have hinf : infinityBits = 2047 * 2 ^ 52 := rfl
  have hle : (if num = 0 then 0 else nearestBits num den) ≤ infinityBits := by
    split
    · exact Nat.zero_le _
    · exact Nat.min_le_right _ _
  rw [nearestFloat]
  -- The bits stay below those of not a number, so they are read back as they are.
  generalize (if num = 0 then 0 else nearestBits num den) = bits at hle
  have hsigned := ofBits_signed negative hle
  have hpow : Nat.pow 2 63 = 2 ^ 63 := rfl
  have hword : (UInt64.ofNat (if negative then Nat.pow 2 63 + bits else bits)).toNat
      = if negative then Nat.pow 2 63 + bits else bits :=
    UInt64.toNat_ofNat_of_lt' (by rw [hpow, UInt64.size]; split <;> omega)
  refine ⟨bits, hle, rfl, ?_⟩
  rw [Binary.ofFloat, toBits_ofBits, hword, hsigned]
  rw [hword, hsigned]
  split
  · exact Binary.noConfusion
  · split <;> exact Binary.noConfusion

/-- A rounded significand, of 53 bits but for the least exponent and perhaps with a carry, is that
of the double with its bits. -/
theorem mul_two_zpow_of_doubleBits {negative s : Bool} {d m : Nat} {E e : Int} (hd : d ≤ 2 ^ 53)
    (hleast : -1074 ≤ E) (hfull : -1074 < E → 2 ^ 52 ≤ d) {bits : Nat}
    (hbits : bits = doubleBits d E) (h : Binary.finite negative m e =
      if bits / 2 ^ 52 = 0 then .finite s (bits % 2 ^ 52) (-1074)
      else .finite s (bits % 2 ^ 52 + 2 ^ 52) ((bits / 2 ^ 52 : Nat) - 1075)) :
    (d : ℚ) * 2 ^ E = m * 2 ^ e := by
  rw [doubleBits] at hbits
  split at hbits
  next hsmall =>
    rw [if_pos (by omega)] at h
    obtain ⟨-, rfl, rfl⟩ := Binary.finite.inj h
    rw [hbits, Nat.mod_eq_of_lt hsmall, show E = -1074 by omega]
  next hlarge =>
    rw [if_neg (by omega)] at h
    obtain ⟨-, rfl, rfl⟩ := Binary.finite.inj h
    rcases Nat.lt_or_eq_of_le hd with hlt | rfl
    · rw [show bits % 2 ^ 52 + 2 ^ 52 = d by omega,
        show ((bits / 2 ^ 52 : Nat) : Int) - 1075 = E by omega]
    · -- A carry into the next power of two.
      rw [show bits % 2 ^ 52 + 2 ^ 52 = 2 ^ 52 by omega,
        show ((bits / 2 ^ 52 : Nat) : Int) - 1075 = E + 1 by omega, zpow_add₀ two_ne_zero]
      push_cast
      ring

/-- **A quotient is not far above the double** that it is rounded to. -/
theorem div_le_of_ofFloat_nearestFloat {negative s : Bool} {num den m : Nat} {e : Int}
    (hnum : 0 < num)
    (hden : 0 < den) (hm : 0 < m)
      (h : Binary.ofFloat (nearestFloat s num den) = .finite negative m e) :
    (num : ℚ) / den ≤ 3 / 2 * (m * 2 ^ e) := by
  obtain ⟨bits, -, hbits, hvalue⟩ := ofFloat_nearestFloat s num den
  obtain ⟨a, b, E, hb, hq, hlt, hleast, hfull, hnearest⟩ := exists_significand hnum hden
  obtain ⟨hhigh, hlow⟩ := divNearest_spec a b hb
  have hb' : (0 : ℚ) < b := by exact_mod_cast hb
  have hE := two_zpow_pos E
  rw [if_neg hnum.ne', hnearest] at hbits
  rw [h] at hvalue
  generalize divNearest a b = d at *
  -- The significand is at most half a unit off the quotient.
  have hhigh' : (a : ℚ) / b ≤ d + 1 / 2 := by
    rw [div_le_iff₀ hb']
    have : (2 * a : ℚ) ≤ (2 * d + 1) * b := by exact_mod_cast hhigh
    linarith
  have hlow' : (d : ℚ) ≤ a / b + 1 / 2 := by
    rw [← sub_le_iff_le_add, le_div_iff₀ hb']
    have : (2 * d * b : ℚ) ≤ 2 * a + b := by exact_mod_cast hlow
    linarith
  -- It is carried to the next exponent at most.
  have hmost : d ≤ 2 ^ 53 := by
    have : (d : ℚ) < 2 ^ 53 + 1 := by linarith
    have : d < 2 ^ 53 + 1 := by exact_mod_cast this
    omega
  have hleast' : -1074 < E → 2 ^ 52 ≤ d := fun hlt => by
    have := hfull hlt
    have : (2 : ℚ) ^ 52 < d + 1 := by linarith
    have : 2 ^ 52 < d + 1 := by exact_mod_cast this
    omega
  split at hvalue
  next => cases hvalue
  next hne =>
    have hsame := mul_two_zpow_of_doubleBits hmost hleast hleast' (by omega) hvalue
    -- The significand is not zero, so half a unit is at most half of it.
    have hone : (1 : ℚ) ≤ d := by
      have hpos : (0 : ℚ) < d * 2 ^ E := hsame ▸ mul_pos (by exact_mod_cast hm) (two_zpow_pos e)
      have : (0 : ℚ) < d := pos_of_mul_pos_left hpos hE.le
      exact_mod_cast this
    calc (num : ℚ) / den = a / b * 2 ^ E := hq
      _ ≤ 3 / 2 * d * 2 ^ E := by gcongr; linarith
      _ = 3 / 2 * (m * 2 ^ e) := by rw [mul_assoc, hsame]

/-- **What is rounded to an infinity**: the quotients from the limit on. -/
theorem isInf_nearestFloat_iff (negative : Bool) (num : Nat) {den : Nat} (hden : 0 < den) :
    (nearestFloat negative num den).isInf = true ↔ wholeLimit * den ≤ num := by
  obtain ⟨bits, -, hbits, hvalue⟩ := ofFloat_nearestFloat negative num den
  -- Only the bits of the infinity are read as one.
  have hiff : (nearestFloat negative num den).isInf = true ↔ bits = infinityBits := by
    rw [isInf_iff, hvalue]
    split
    next h => exact iff_of_true ⟨_, rfl⟩ h
    next h => split <;> exact iff_of_false (fun ⟨_, h⟩ => Binary.noConfusion h) h
  rw [hiff, hbits]
  split
  next hzero =>
    refine iff_of_false (by decide) (not_le.2 ?_)
    rw [hzero]
    exact Nat.mul_pos wholeLimit_pos hden
  next hnum => exact nearestBits_eq_infinityBits_iff (Nat.pos_of_ne_zero hnum) hden

/-- What is not below one is not rounded to zero. -/
theorem nearestFloat_ne_zero (negative : Bool) {num den : Nat} (hden : 0 < den) (hle : den ≤ num) :
    (nearestFloat negative num den == 0) = false := by
  obtain ⟨bits, -, hbits, hvalue⟩ := ofFloat_nearestFloat negative num den
  rw [if_neg (by omega)] at hbits
  have hne := hbits ▸ nearestBits_ne_zero hden hle
  rw [← Bool.not_eq_true, beq_zero_iff, hvalue]
  -- A zero has no significand, and the bits of one have one.
  rintro ⟨s, e, h⟩
  split at h
  · cases h
  split at h
  · have := (Binary.finite.inj h).2.1
    omega
  · have := (Binary.finite.inj h).2.1
    omega

/-- **The whole numbers that have a double** are those below the limit. -/
theorem floatOfInt?_eq_some_iff {n : Int} {x : Float} :
    floatOfInt? n = some x ↔
      n.natAbs < wholeLimit ∧ nearestFloat (decide (n < 0)) n.natAbs 1 = x := by
  have hinf := isInf_nearestFloat_iff (decide (n < 0)) n.natAbs one_pos
  rw [mul_one, ← not_lt] at hinf
  simp only [floatOfInt?, hinf]
  split
  next h => simp [h]
  next h => simp [not_not.1 h]

end SchemaDiagram
