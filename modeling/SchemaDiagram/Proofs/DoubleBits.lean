import Mathlib
import SchemaDiagram.Number.Binary

/-! # The parts of a double

A finite double has a significand of at most 53 bits and an exponent; but for the least exponent the
significand has all of its bits. Its parts are those that its bits hold, and its bits are those that
its parts make, so what is rounded to the bits of a double is rounded to that double.

* **`ofBits_toBits`** — a double is made of its bits.
* **`IsDouble m e`** — `m * 2 ^ e` is the magnitude of a finite double in normal form.
* **`doubleBits m e`** — its bits, without the sign.
* **`nearestFloat_eq`** — what is rounded to the bits of a double is rounded to it. -/

namespace SchemaDiagram

/-! ## The bits of a double -/

section

open Float.Model Float.Model.UnpackedFloat

/-- A packed double is its sign, its exponent and its mantissa. -/
theorem packComponents_parts (b : BitVec Format.binary64.numBits) :
    packComponents Format.binary64 (Sign.ofBitVec (unpackSign b)) (unpackExponent b)
      (unpackMantissa b) = b := by
  have hsign : (Sign.ofBitVec (unpackSign b)).toBitVec = unpackSign b := by
    generalize unpackSign b = s
    revert s
    decide
  rw [packComponents, hsign]
  ext i hi
  simp [unpackSign, unpackExponent, unpackMantissa]
  grind

/-- A subnormal double is packed into its mantissa. -/
theorem pack_subnormal (s : Sign) (m : BitVec 52) (e : Int) (he : e = -1074) (hm : 0 < m.toNat) :
    UnpackedFloat.pack Format.binary64 (.finite s m.toNat e hm)
      = packComponents Format.binary64 s 0 m := by
  have hlog : m.toNat.log2 < 52 := (Nat.log2_lt hm.ne').2 m.isLt
  subst he
  rw [UnpackedFloat.pack]
  dsimp only
  rw [if_neg (by decide), if_neg (by simp [Format.mantissaBits]; omega)]
  simp

/-- A normal double is packed into its exponent and the rest of its mantissa. -/
theorem pack_normal (s : Sign) (e : BitVec 11) (m : BitVec 52) (he : e ≠ -1#11) (n : Nat) (i : Int)
    (hn : n = 2 ^ 52 + m.toNat) (hi : i = (e.toNat : Int) - 1075) (hpos : 0 < n) :
    UnpackedFloat.pack Format.binary64 (.finite s n i hpos)
      = packComponents Format.binary64 s e m := by
  have hm := m.isLt
  -- The implicit bit is the highest one of the significand.
  have hlog : n.log2 = 52 := (Nat.log2_eq_iff hpos.ne').2 (by omega)
  have hexp : e.toNat ≠ 2047 := fun h => he (BitVec.eq_of_toNat_eq h)
  have hlt := e.isLt
  subst hi
  rw [UnpackedFloat.pack]
  dsimp only
  -- The exponent is taken out of its bias again.
  have hbiased : ((e.toNat : Int) - 1075 + Format.binary64.exponentBias
      + (Format.binary64.mantissaBitsWithoutImplicit : Nat)).toNat = e.toNat := by
    simp [Format.exponentBias]
    omega
  rw [hbiased, if_neg (by simp; omega), if_pos (by rw [hlog]; rfl), hn]
  congr 1
  · simp
  · apply BitVec.eq_of_toNat_eq
    simp
    omega

/-- **Packing undoes unpacking**, where not a number has one form only. -/
theorem pack_unpack {b : BitVec Format.binary64.numBits} (h : Format.binary64.Valid b) :
    UnpackedFloat.pack Format.binary64 (UnpackedFloat.unpack Format.binary64 b) = b := by
  have hparts := packComponents_parts b
  have hvalid := h.eq_packedNaN
  rw [UnpackedFloat.unpack]
  generalize Sign.ofBitVec (unpackSign b) = s at hparts
  generalize unpackExponent b = e at hparts hvalid
  dsimp only
  -- An exponent of ones stands for an infinity or for not a number.
  split
  next hexp =>
    split
    next hmant => rw [UnpackedFloat.pack, packedInfinity, ← hparts, hexp, hmant]; rfl
    next hmant => exact (hvalid hexp hmant).symm
  -- Otherwise the exponent is zero, for a zero or a subnormal, or the double is normal.
  next hinf =>
    split
    next hexp =>
      split
      next hmant => rw [UnpackedFloat.pack, packedZero, ← hparts, hexp, hmant]; rfl
      next hmant =>
        rw [pack_subnormal _ _ _ (by rw [hexp]; rfl)]
        rw [hexp] at hparts
        exact hparts
    next hexp =>
      -- The implicit bit stands above the mantissa.
      have hmantissa : (1#1 ++ unpackMantissa b).toNat = 2 ^ 52 + (unpackMantissa b).toNat := by
        rw [BitVec.toNat_append, ← Nat.shiftLeft_add_eq_or_of_lt (unpackMantissa b).isLt]
        rfl
      exact (pack_normal s e _ hinf _ _ hmantissa rfl _).trans hparts

/-- **A double is made of its bits.** -/
theorem ofBits_toBits (x : Float) : Float.ofBits x.toBits = x := by
  obtain ⟨m, h⟩ := x
  rw [Float.ofBits, Float.toBits, Float.Model.ofBits, Float.Model.pack]
  congr 2
  rw [pack_unpack h]

end

/-! ## Finite doubles -/

/-- `m * 2 ^ e` is the magnitude of a finite double in normal form. -/
structure IsDouble (m : Nat) (e : Int) : Prop where
  /-- The significand has at most 53 bits. -/
  lt : m < 2 ^ 53
  /-- It has all of them but for the least exponent. -/
  full : e ≠ -1074 → 2 ^ 52 ≤ m
  /-- The least exponent. -/
  least : -1074 ≤ e
  /-- The greatest exponent. -/
  most : e ≤ 971

/-- The bits of a finite double in normal form, without its sign. -/
def doubleBits (m : Nat) (e : Int) : Nat :=
  if m < 2 ^ 52 then m else (e + 1075).toNat * 2 ^ 52 + (m - 2 ^ 52)

/-- The bits of a finite double are fewer than those of an infinity. -/
theorem IsDouble.doubleBits_lt {m : Nat} {e : Int} (h : IsDouble m e) :
    doubleBits m e < infinityBits := by
  obtain ⟨hlt, -, hleast, hmost⟩ := h
  have hinf : infinityBits = 2047 * 2 ^ 52 := rfl
  rw [doubleBits, hinf]
  split <;> omega

/-- **The parts of a finite double** are in normal form, and its bits are those of its parts. -/
theorem toBits_of_ofFloat {x : Float} {negative : Bool} {m : Nat} {e : Int}
    (h : Binary.ofFloat x = .finite negative m e) :
    IsDouble m e ∧
      x.toBits.toNat = if negative then 2 ^ 63 + doubleBits m e else doubleBits m e := by
  have hlt := x.toBits.toNat_lt
  rw [Binary.ofFloat, Binary.ofBits] at h
  generalize x.toBits.toNat = bits at h hlt
  have hpow₁ : Nat.pow 2 63 = 9223372036854775808 := rfl
  have hpow₂ : Nat.pow 2 52 = 4503599627370496 := rfl
  have hinf : infinityBits = 9218868437227405312 := rfl
  simp only [hpow₁, hpow₂, hinf] at h
  split at h
  · cases h
  split at h
  · cases h
  -- A sign bit, eleven bits of the exponent and 52 bits of the significand.
  split at h
  next hzero =>
    obtain ⟨rfl, rfl, rfl⟩ := h
    refine ⟨⟨by omega, fun he => absurd rfl he, by omega, by omega⟩, ?_⟩
    rw [show ∀ {e}, doubleBits _ e = _ from if_pos (by omega)]
    by_cases hs : 9223372036854775808 ≤ bits
    · rw [if_pos (decide_eq_true hs)]
      omega
    · rw [if_neg (by simpa only [decide_eq_true_eq] using hs)]
      omega
  next hfield =>
    obtain ⟨rfl, rfl, rfl⟩ := h
    refine ⟨⟨by omega, fun _ => by omega, by omega, by omega⟩, ?_⟩
    rw [show doubleBits _ _ = _ from if_neg (by omega)]
    by_cases hs : 9223372036854775808 ≤ bits
    · rw [if_pos (decide_eq_true hs)]
      omega
    · rw [if_neg (by simpa only [decide_eq_true_eq] using hs)]
      omega

/-- **A finite double is made of its parts**: what is rounded to its bits is rounded to it. -/
theorem nearestFloat_eq {x : Float} {negative : Bool} {m : Nat} {e : Int}
    (h : Binary.ofFloat x = .finite negative m e) {num den : Nat} (hnum : num ≠ 0)
    (hbits : nearestBits num den = doubleBits m e) : nearestFloat negative num den = x := by
  have hx := (toBits_of_ofFloat h).2
  have hpow : Nat.pow 2 63 = 2 ^ 63 := rfl
  rw [nearestFloat, if_neg hnum, hbits, hpow, ← hx, UInt64.ofNat_toNat, ofBits_toBits]

end SchemaDiagram
