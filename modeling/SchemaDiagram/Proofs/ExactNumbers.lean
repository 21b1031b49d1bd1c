import SchemaDiagram.Proofs.DoubleRange
import SchemaDiagram.Proofs.WrittenValues
import SchemaDiagram.Settings.Typed

/-! # Exact numbers

A change writes a double without the zeros at the end of its shortest text and without the point
that they leave. Behind a point the zeros do not count, so the number stays. In the exponent they
do: a text whose exponent is a multiple of ten loses them, and what is written is another number.

* **`Numeral.stripped`** — a numeral without the zeros at its end;
  `Numeral.IsFractional.magnitude_stripped` says what it denotes.
* **`HasRoundExponent m e`** — the shortest text of a double has an exponent that ends with a zero.
* **`formatValue_float`** — a finite double is written exactly, and read back, unless it is one of
  those. -/

namespace SchemaDiagram

/-! ## The end of a text -/

/-- The character that is dropped at the end is the last one no more. -/
theorem Text.getLast?_dropTail (c : Char) (s : Text) : (s.dropTail c).getLast? ≠ some c := by
  rw [dropTail, List.getLast?_reverse]
  intro h
  have hnot := List.head?_dropWhile_not (· = c) s.reverse
  rw [h] at hnot
  simp at hnot

/-- A text that does not end with the character is left when such characters are dropped behind
it. -/
theorem Text.dropTail_append_replicate {c : Char} {s : Text} (h : s.getLast? ≠ some c) (n : Nat) :
    Text.dropTail c (s ++ List.replicate n c) = s := by
  have hkept : s.reverse.dropWhile (· = c) = s.reverse := by
    rw [← List.head?_reverse] at h
    cases hs : s.reverse with
    | nil => rfl
    | cons d rest =>
      rw [hs] at h
      exact List.dropWhile_cons_of_neg (by simpa using h)
  rw [dropTail, List.reverse_append, List.reverse_replicate, List.dropWhile_append_of_pos, hkept,
    List.reverse_reverse]
  intro d hd
  simpa using List.eq_of_mem_replicate hd

/-- The end of a text is that of its last part. -/
theorem Text.getLast?_append_ne {c : Char} {t : Text} (s : Text) (hne : t ≠ [])
    (h : t.getLast? ≠ some c) : (s ++ t).getLast? ≠ some c := by
  rwa [List.getLast?_append_of_ne_nil s hne]

/-- A character that is no digit is not the last one of some digits. -/
theorem AllDigits.getLast?_ne {ds : Text} (h : AllDigits ds) {c : Char} (hc : c.isDigit = false) :
    ds.getLast? ≠ some c := by
  intro hlast
  rw [h c (List.mem_of_mem_getLast? hlast)] at hc
  cases hc

/-- Digits are left when a character is dropped at the end. -/
theorem AllDigits.dropTail {ds : Text} (h : AllDigits ds) (c : Char) : AllDigits (ds.dropTail c) :=
  fun _ hd => h _ (Text.mem_of_mem_dropTail hd)

/-- Zeros at the end of digits are factors of ten. -/
theorem exists_zeros (s ds : Text) : ∃ k : Nat, ds = ds.dropTail '0' ++ List.replicate k '0' ∧
    Nat.ofDigitChars 10 (s ++ ds) 0 = Nat.ofDigitChars 10 (s ++ ds.dropTail '0') 0 * 10 ^ k := by
  obtain ⟨k, hk⟩ := Text.exists_dropTail '0' ds
  refine ⟨k, hk, ?_⟩
  conv_lhs => rw [hk]
  rw [← List.append_assoc, Nat.ofDigitChars_append, Nat.ofDigitChars_replicate_zero, Nat.mul_comm]

/-- Digits that end with no zero denote no multiple of ten. -/
theorem AllDigits.not_dvd {ds : Text} (h : AllDigits ds) (hne : ds ≠ [])
    (hlast : ds.getLast? ≠ some '0') :
    ¬ 10 ∣ Nat.ofDigitChars 10 ds 0 := by
  obtain ⟨front, d, rfl⟩ : ∃ front d, ds = front ++ [d] :=
    ⟨_, _, (List.dropLast_append_getLast hne).symm⟩
  rw [List.getLast?_concat] at hlast
  -- The last digit decides, and it is not zero.
  obtain ⟨i, hi, rfl⟩ := exists_digit (h d (List.mem_append_right _ (List.mem_singleton_self d)))
  have hzero : i ≠ 0 := by
    rintro rfl
    exact hlast rfl
  have hnum : Nat.ofDigitChars 10 (front ++ [Char.ofNat (48 + i)]) 0
      = 10 * Nat.ofDigitChars 10 front 0 + i := by
    rw [Nat.ofDigitChars_append, Nat.ofDigitChars_cons, Nat.ofDigitChars_nil]
    interval_cases i <;> rfl
  rw [hnum]
  omega

/-! ## Numerals without zeros at the end -/

namespace Exponent

variable {w : Exponent}

/-- An exponent without the zeros at its end. -/
def stripped (w : Exponent) : Exponent := { w with digits := w.digits.dropTail '0' }

/-- **The zeros at the end of an exponent** are factors of ten, and no such factor is left. -/
theorem Valid.exists_value (h : w.Valid) (hne : w.value ≠ 0) :
    w.stripped.Valid ∧ ¬ (10 : Int) ∣ w.stripped.value ∧
      ∃ k : Nat, w.value = w.stripped.value * 10 ^ k := by
  obtain ⟨k, -, hnum⟩ := exists_zeros [] w.digits
  rw [List.nil_append, List.nil_append,
    show w.digits.dropTail '0' = w.stripped.digits from rfl] at hnum
  -- The zeros that are dropped are a power of ten, and the sign is kept.
  have hvalue : w.value = w.stripped.value * 10 ^ k := by
    rw [value, value, hnum, show w.stripped.negative = w.negative from rfl]
    split <;> push_cast <;> ring
  -- Some digit is left, or the exponent would be zero.
  have hnil : w.stripped.digits ≠ [] := by
    intro hnil
    rw [value, hnum, hnil] at hne
    simp at hne
  have hdigits : AllDigits w.stripped.digits := h.digits.dropTail '0'
  have hnot := hdigits.not_dvd hnil (Text.getLast?_dropTail '0' _)
  refine ⟨⟨hnil, hdigits⟩, ?_, k, hvalue⟩
  rw [value]
  split <;> omega

/-- The zeros are dropped from the text of an exponent. -/
theorem Valid.dropTail_append_text (h : w.Valid) (hne : w.value ≠ 0) (s : Text) :
    Text.dropTail '.' (Text.dropTail '0' (s ++ w.text)) = s ++ w.stripped.text := by
  obtain ⟨hvalid, -, -⟩ := h.exists_value hne
  obtain ⟨k, hk⟩ := Text.exists_dropTail '0' w.digits
  -- The text ends with the last digit of the exponent, which is neither a zero nor the point.
  have hend : ∀ {c : Char}, w.stripped.digits.getLast? ≠ some c →
      (s ++ w.stripped.text).getLast? ≠ some c := by
    intro c hc
    refine Text.getLast?_append_ne _ (List.cons_ne_nil _ _) ?_
    rwa [text, List.getLast?_cons_of_ne_nil (List.cons_ne_nil _ _),
      List.getLast?_cons_of_ne_nil hvalid.ne_nil]
  have htext : s ++ w.text = (s ++ w.stripped.text) ++ List.replicate k '0' := by
    rw [text, text, show w.stripped.negative = w.negative from rfl]
    conv_lhs => rw [hk]
    simp [stripped]
  rw [htext, Text.dropTail_append_replicate (hend (Text.getLast?_dropTail '0' _))]
  have hpoint := hend (hvalid.digits.getLast?_ne (c := '.') (by decide))
  simpa using Text.dropTail_append_replicate hpoint 0

end Exponent

namespace Numeral

variable {n : Numeral}

/-- The zeros behind a point are dropped, and the point with them if no digits are left. -/
theorem dropTail_append_pointed {s ds f : Text} (hne : ds ≠ []) (hds : AllDigits ds)
    (hf : AllDigits f)
    (hnil : f ≠ []) : Text.dropTail '.' (Text.dropTail '0' (s ++ (ds ++ pointed f)))
      = s ++ (ds ++ pointed (f.dropTail '0')) := by
  obtain ⟨k, hk⟩ := Text.exists_dropTail '0' f
  have hlast := Text.getLast?_dropTail '0' f
  have hdigits := hf.dropTail '0'
  -- The zeros at the end are put apart.
  have htext : s ++ (ds ++ pointed f)
      = (s ++ ds ++ '.' :: f.dropTail '0') ++ List.replicate k '0' := by
    rw [pointed, if_neg hnil]
    conv_lhs => rw [hk]
    simp
  generalize f.dropTail '0' = g at *
  -- What is left behind the point does not end with a zero, and the point is none.
  have hzero : ('.' :: g).getLast? ≠ some '0' := by
    rw [List.getLast?_cons]
    cases hl : g.getLast? with
    | none => decide
    | some c => rwa [hl] at hlast
  rw [htext,
    Text.dropTail_append_replicate (Text.getLast?_append_ne _ (List.cons_ne_nil _ _) hzero),
    ← List.append_assoc, pointed]
  split
  -- No digit is left, and the point goes as well.
  next hg =>
    rw [hg, List.append_nil]
    exact Text.dropTail_append_replicate
      (Text.getLast?_append_ne s hne (hds.getLast?_ne (by decide))) 1
  -- Some digit is left, and it stops the point from being dropped.
  next hg =>
    have hpoint : ('.' :: g).getLast? ≠ some '.' := by
      rw [List.getLast?_cons_of_ne_nil hg]
      exact hdigits.getLast?_ne (by decide)
    simpa using Text.dropTail_append_replicate
      (Text.getLast?_append_ne (s ++ ds) (List.cons_ne_nil _ _) hpoint) 0

/-- A numeral without the zeros at its end, and without the point that they leave. -/
def stripped (n : Numeral) : Numeral :=
  match n.exponent with
  | none => { n with fraction := n.fraction.dropTail '0' }
  | some w => { n with exponent := some w.stripped }

/-- Zeros at the end of a numeral stand behind its point or in its exponent, and not all digits of
an exponent are zeros. -/
structure IsFractional (n : Numeral) : Prop extends Valid n where
  fraction_ne_nil : n.exponent = none → n.fraction ≠ []
  exponent_ne_zero : ∀ w ∈ n.exponent, w.value ≠ 0

/-- **The zeros and the point** are dropped from the text of a numeral. -/
theorem IsFractional.stripped_spec (h : n.IsFractional) : n.stripped.Valid ∧
    Text.dropTail '.' (Text.dropTail '0' n.text) = n.stripped.text := by
  obtain ⟨negative, whole, fraction, exponent⟩ := n
  cases exponent with
  | none =>
    -- Without an exponent the zeros stand behind the point.
    refine ⟨.plain h.ne_nil h.whole (h.fraction.dropTail '0'), ?_⟩
    simp only [text, stripped, Option.elim_none, List.append_nil]
    exact dropTail_append_pointed h.ne_nil h.whole h.fraction (h.fraction_ne_nil rfl)
  -- With an exponent the zeros stand at its end.
  | some w =>
    have hw := h.exponent w rfl
    have hne := h.exponent_ne_zero w rfl
    refine ⟨⟨h.ne_nil, h.whole, h.fraction, fun v hv =>
      Option.some.inj hv ▸ (hw.exists_value hne).1⟩, ?_⟩
    simp only [text, stripped, Option.elim_some, ← List.append_assoc]
    exact hw.dropTail_append_text hne _

/-- The digits behind a point denote the same number without the zeros at their end. -/
theorem magnitude_dropTail (negative : Bool) (whole fraction : Text) (exponent : Option Exponent) :
    magnitude ⟨negative, whole, fraction.dropTail '0', exponent⟩
      = magnitude ⟨negative, whole, fraction, exponent⟩ := by
  obtain ⟨k, hk, hdigits⟩ := exists_zeros whole fraction
  have hlength : (fraction.length : Int) = (fraction.dropTail '0').length + k := by
    conv_lhs => rw [hk]
    rw [List.length_append, List.length_replicate, Nat.cast_add]
  simp only [magnitude, digits, power]
  rw [hdigits, hlength, ← sub_sub, zpow_sub₀ (by norm_num : (10 : ℚ) ≠ 0) _ (k : Int), zpow_natCast]
  push_cast
  field_simp

/-- A numeral with another exponent denotes a number that differs by a power of ten. -/
theorem magnitude_exponent (negative : Bool) (whole fraction : Text) (w v : Exponent) :
    magnitude ⟨negative, whole, fraction, some v⟩
      = magnitude ⟨negative, whole, fraction, some w⟩ * 10 ^ (v.value - w.value) := by
  simp only [magnitude, digits, power, Option.elim_some]
  rw [mul_assoc, ← zpow_add₀ (by norm_num)]
  congr 2
  ring

/-- **The number without the zeros** is the same, unless they stood in the exponent: then it is
another one, and a larger one where the exponent is negative. -/
theorem IsFractional.magnitude_stripped (h : n.IsFractional) :
    ((∀ w ∈ n.exponent, ¬ (10 : Int) ∣ w.value) → n.stripped.magnitude = n.magnitude) ∧
      ∀ w ∈ n.exponent, w.value < 0 → (10 : Int) ∣ w.value →
      10 * n.magnitude ≤ n.stripped.magnitude := by
  obtain ⟨negative, whole, fraction, exponent⟩ := n
  cases exponent with
  | none => exact ⟨fun _ => magnitude_dropTail .., nofun⟩
  | some w =>
    obtain ⟨-, hnot, k, hk⟩ := (h.exponent w rfl).exists_value (h.exponent_ne_zero w rfl)
    have hchange := magnitude_exponent negative whole fraction w w.stripped
    refine ⟨fun hround => ?_, fun v hv hneg hround => ?_⟩
    · -- No zero is dropped from an exponent that is no multiple of ten.
      have hzero : k = 0 := by
        by_contra hk0
        exact hround w rfl (hk ▸ Dvd.dvd.mul_left (dvd_pow_self 10 hk0) _)
      rw [hzero, pow_zero, mul_one] at hk
      change magnitude ⟨negative, whole, fraction, some w.stripped⟩ = _
      rw [hchange, hk, sub_self, zpow_zero, mul_one]
    · obtain rfl := Option.some.inj hv
      -- At least one zero is dropped from a multiple of ten.
      have hk0 : k ≠ 0 := by
        rintro rfl
        rw [pow_zero, mul_one] at hk
        exact hnot (hk ▸ hround)
      have hten : (10 : Int) ≤ 10 ^ k := le_self_pow₀ (by norm_num) hk0
      -- The exponent stays below zero, and it grows by one at least.
      have hstripped : w.stripped.value < 0 := by
        by_contra hpos
        have : 0 ≤ w.stripped.value * 10 ^ k := mul_nonneg (not_lt.1 hpos) (by positivity)
        omega
      have hone : 1 ≤ w.stripped.value - w.value := by nlinarith
      change _ ≤ magnitude ⟨negative, whole, fraction, some w.stripped⟩
      rw [hchange, mul_comm]
      refine mul_le_mul_of_nonneg_left ?_ (by unfold magnitude; positivity)
      calc (10 : ℚ) = 10 ^ (1 : Int) := (zpow_one 10).symm
        _ ≤ 10 ^ (w.stripped.value - w.value) := zpow_le_zpow_right₀ (by norm_num) hone

end Numeral

/-! ## Doubles that are no whole numbers -/

section

variable {x : Float} {negative : Bool} {m : Nat} {e : Int}

/-- A double that is equal to no integer has a fraction. -/
theorem neg_of_exactInt?_eq_none (hx : Binary.ofFloat x = .finite negative m e)
    (h : exactInt? x = none) : 0 < m ∧ e < 0 := by
  refine ⟨Nat.pos_of_ne_zero fun hm => exactInt?_zero (hm ▸ hx) h, ?_⟩
  by_contra he
  obtain ⟨k, rfl⟩ := Int.eq_ofNat_of_zero_le (not_lt.1 he)
  rw [exactInt?, hx] at h
  simp [timesTwoPow, Nat.mod_one] at h

/-- The integer that a double is equal to has its magnitude and its sign. -/
theorem natAbs_of_exactInt?_eq_some (hx : Binary.ofFloat x = .finite negative m e) {n : Int}
    (h : exactInt? x = some n) :
    (n.natAbs : ℚ) = m * 2 ^ e ∧ (0 < m → decide (n < 0) = negative) := by
  obtain ⟨hpos, hquot⟩ := timesTwoPow_spec m Nat.one_pos e
  rw [Nat.cast_one, div_one] at hquot
  rw [exactInt?, hx] at h
  dsimp only at h
  generalize (timesTwoPow m 1 e).1 = a at *
  generalize (timesTwoPow m 1 e).2 = b at *
  -- The double is an integer where the division leaves nothing over.
  split at h
  next hdiv =>
    have hcast : ((a / b : Nat) : ℚ) = m * 2 ^ e := by
      rw [← hquot, Nat.cast_div (Nat.dvd_of_mod_eq_zero hdiv) (by exact_mod_cast hpos.ne')]
    generalize a / b = k at *
    have hk : 0 < m → 0 < k := fun hm => by
      have : (0 : ℚ) < k := hcast ▸ mul_pos (by exact_mod_cast hm) (two_zpow_pos e)
      exact_mod_cast this
    obtain rfl := Option.some.inj h
    cases negative with
    | true => exact ⟨by simpa using hcast, fun hm => by simpa using (hk hm)⟩
    | false => exact ⟨by simpa using hcast, fun _ => by simp⟩
  next => cases h

/-- The first digit of a decimal counts its power of ten. -/
theorem Decimal.ten_zpow_le_value {d : Decimal} (h : 0 < d.digits) :
    (10 : ℚ) ^ (d.point - 1) ≤ d.value := by
  obtain ⟨hpos, hlow, -⟩ := digitCount_spec h
  calc (10 : ℚ) ^ (d.point - 1)
      = (10 ^ (digitCount d.digits - 1) : Nat) * 10 ^ (d.point - digitCount d.digits) := by
        rw [Nat.cast_pow, ← zpow_natCast, Nat.cast_ofNat, ← zpow_add₀ (by norm_num)]
        congr 1
        omega
    _ ≤ d.digits * 10 ^ (d.point - digitCount d.digits) := by
        have : ((10 ^ (digitCount d.digits - 1) : Nat) : ℚ) ≤ d.digits := by exact_mod_cast hlow
        gcongr

/-- What has a fraction is written with an exponent only where it is small. -/
theorem point_shortestDigits_lt (h : IsDouble m e) (hm : 0 < m) (he : e < 0) :
    (shortestDigits m e).point - 1 < 16 := by
  obtain ⟨hpos, hreads⟩ := shortestDigits_spec h hm
  have hmost : (m : ℚ) + 1 ≤ 2 ^ 53 := by exact_mod_cast h.lt
  have hp := two_zpow_pos e
  -- The shortest number lies at most half a unit above the double, and that has 53 bits at most.
  have hlt : (10 : ℚ) ^ ((shortestDigits m e).point - 1) < 10 ^ (16 : Int) := by
    calc (10 : ℚ) ^ ((shortestDigits m e).point - 1) ≤ (shortestDigits m e).value :=
          Decimal.ten_zpow_le_value hpos
      _ ≤ (m + 1 / 2) * 2 ^ e := hreads.high
      _ ≤ 2 ^ 53 * 2 ^ (0 : Int) := by
          gcongr
          · linarith
          · norm_num
      _ < 10 ^ (16 : Int) := by norm_num
  exact (zpow_lt_zpow_iff_right₀ (by norm_num)).1 hlt

/-- **The shortest text of a double with a fraction** is a numeral that reads back. -/
theorem exists_shortestNumeral (hx : Binary.ofFloat x = .finite negative m e)
    (hnone : exactInt? x = none) :
    ∃ n : Numeral, n.IsFractional ∧ n.negative = negative ∧ n.text = shortestText x ∧
      Reads m e n.magnitude ∧ n.exponent.map Exponent.value =
        if -4 ≤ (shortestDigits m e).point - 1 then none
        else some ((shortestDigits m e).point - 1) := by
  obtain ⟨hm, he⟩ := neg_of_exactInt?_eq_none hx hnone
  have hdouble := (toBits_of_ofFloat hx).1
  obtain ⟨n, hsign, hvalid, htext, hvalue, hfraction, -, hexponent⟩ :=
    valueStyle.exists_numeral (shortestDigits m e)
  have hlt := point_shortestDigits_lt hdouble hm he
  -- The exponent is below the bound, so only the least one decides about the form.
  have hstyle : (valueStyle.leastExponent ≤ (shortestDigits m e).point - 1 ∧
      (shortestDigits m e).point - 1 < valueStyle.exponentBound) ↔
      -4 ≤ (shortestDigits m e).point - 1 :=
    and_iff_left hlt
  simp only [hstyle] at hexponent
  refine ⟨{ n with negative := negative },
    ⟨⟨hvalid.ne_nil, hvalid.whole, hvalid.fraction, hvalid.exponent⟩, hfraction rfl,
    fun w hw => ?_⟩, rfl, ?_, ?_, hexponent⟩
  · -- An exponent is written where it is below the least one, so it is not zero.
    rw [Option.mem_def.1 hw, Option.map_some] at hexponent
    split at hexponent
    · cases hexponent
    · have := Option.some.inj hexponent
      omega
  · rw [shortestText, writeFloat, hx]
    dsimp only
    rw [if_neg hm.ne', ← htext, Numeral.text, Numeral.text, hsign]
    simp
  · have hreads := (shortestDigits_spec hdouble hm).2
    rw [← hvalue] at hreads
    exact hreads

/-- The double nearest to zero is the zero of the same sign. -/
theorem ofFloat_nearestFloat_zero (s : Bool) :
    Binary.ofFloat (nearestFloat s 0 1) = .finite s 0 (-1074) := by cases s <;> rfl

/-- **Digits denote no number far above the double** that they are read as. -/
theorem le_of_ofFloat_scaledFloat {s : Bool} {ds : List Nat} {i : Int} (hm : 0 < m)
    (h : Binary.ofFloat (scaledFloat s ds i) = .finite negative m e) :
    (numberOfDigits ds : ℚ) * 10 ^ i ≤ 3 / 2 * (m * 2 ^ e) := by
  rw [scaledFloat.eq_def] at h
  dsimp only at h
  split at h
  next =>
    rw [ofFloat_nearestFloat_zero] at h
    obtain ⟨-, rfl, -⟩ := Binary.finite.inj h
    exact absurd hm (lt_irrefl 0)
  next hnot =>
    have hpos : 0 < numberOfDigits ds := Nat.pos_of_ne_zero fun hzero => hnot (.inl hzero)
    split at h
    -- The number was past the range of doubles.
    next =>
      have hinf : (nearestFloat s (Nat.pow 2 2000) 1).isInf = true := by
        rw [isInf_nearestFloat_iff _ _ one_pos]
        unfold wholeLimit
        decide +kernel
      obtain ⟨_, hinf⟩ := isInf_iff.1 hinf
      rw [h] at hinf
      cases hinf
    next =>
      -- The power of ten multiplies or divides, and the quotient is taken in either way.
      cases i with
      | ofNat i =>
        have hle :=
          div_le_of_ofFloat_nearestFloat (Nat.mul_pos hpos (Nat.pow_pos (by decide))) one_pos hm h
        simpa [Nat.pow_eq] using hle
      | negSucc i =>
        have hle := div_le_of_ofFloat_nearestFloat hpos (Nat.pow_pos (by decide)) hm h
        rw [zpow_negSucc, ← div_eq_mul_inv]
        simpa [Nat.pow_eq] using hle

/-- **A numeral is read as a double** if its number lies between the midpoints around it, and not if
its number is far above. -/
theorem scaledFloat_numeral (hx : Binary.ofFloat x = .finite negative m e) (hm : 0 < m)
    {n : Numeral} (hn : n.Valid) (hsign : n.negative = negative) :
    (Reads m e n.magnitude → scaledFloat n.negative (digitsOf n.digits) n.power = x) ∧
      (scaledFloat n.negative (digitsOf n.digits) n.power = x →
      n.magnitude ≤ 3 / 2 * (m * 2 ^ e)) := by
  -- Digits are read as numbers below ten.
  have hdigits : ∀ d ∈ digitsOf n.digits, d < 10 := by
    intro d hd
    obtain ⟨c, hc, rfl⟩ := List.mem_map.1 hd
    obtain ⟨i, hi, rfl⟩ := exists_digit (hn.whole.append hn.fraction c hc)
    interval_cases i <;> decide
  have hmagnitude : n.magnitude = numberOfDigits (digitsOf n.digits) * 10 ^ n.power := by
    rw [numberOfDigits_digitsOf, Numeral.magnitude]
  rw [hmagnitude]
  exact ⟨fun hreads => scaledFloat_eq (hsign ▸ hx) hm hdigits hreads,
    fun heq => le_of_ofFloat_scaledFloat hm (heq ▸ hx)⟩

end

/-! ## What is written and read back -/

/-- A text in the characters of numbers is read as a number. -/
theorem SettingForm.read_number {s : Text} (hs : ∀ c ∈ s, c ∈ numeralChars) {x : Float}
    (hx : readFloat? s = some x) : SettingForm.number.read s = .ok (.number (.ofFloat x)) := by
  have hbare : ∀ c ∈ s, isBareChar c = true := fun c hc => isBareChar_of_mem_numeralChars (hs c hc)
  have htrimmed : Trimmed s :=
    ⟨fun c hc => (isBareChar_iff.1 (hbare c (List.mem_of_mem_head? hc))).2,
      fun c hc => (isBareChar_iff.1 (hbare c (List.mem_of_mem_getLast? hc))).2⟩
  have hquote : ∀ c ∈ s.head?, isQuoteChar c = false := fun c hc =>
    (isBareChar_ne (hbare c (List.mem_of_mem_head? hc))).1
  simp only [read, unquote_eq_self hquote, Text.trim_eq_self htrimmed, hx]

/-- A double stays a double when it is no whole number. -/
theorem Mixed.ofFloat_eq_real_iff {x y : Float} :
    ofFloat y = real x ↔ exactInt? y = none ∧ y = x := by
  rw [ofFloat]
  cases exactInt? y <;> simp

/-- Whether the shortest text of a double has an exponent that ends with a zero. -/
def HasRoundExponent (m : Nat) (e : Int) : Prop :=
  (shortestDigits m e).point - 1 < -4 ∧ (10 : Int) ∣ (shortestDigits m e).point - 1

instance (m : Nat) (e : Int) : Decidable (HasRoundExponent m e) :=
  inferInstanceAs (Decidable (_ ∧ _))

/-- An integer is written as a numeral that denotes it. -/
theorem exists_numeral_ofInt (k : Int) : ∃ n : Numeral, n.Valid ∧ n.text = Text.ofInt k ∧
    n.negative = decide (k < 0) ∧ n.magnitude = k.natAbs := by
  have hnum : Nat.ofDigitChars 10 (Text.ofNat k.natAbs) 0 = k.natAbs :=
    Nat.ofDigitChars_ten_toDigits
  refine ⟨⟨decide (k < 0), Text.ofNat k.natAbs, [], none⟩,
    .plain Nat.toDigits_ne_nil (allDigits_ofNat _) fun c hc => absurd hc List.not_mem_nil, ?_,
    rfl, ?_⟩
  · cases k <;> simp [Numeral.text, Numeral.pointed, Text.ofInt]
  · simp [Numeral.magnitude, Numeral.digits, Numeral.power, hnum]

section

variable {x : Float} {negative : Bool} {m : Nat} {e : Int}

/-- **A whole number is written exactly** and read back. -/
theorem formatValue_whole (hx : Binary.ofFloat x = .finite negative m e) {k : Int}
    (hk : exactInt? x = some k) :
    (formatValue (.float x)).rational? = some ((if negative then -1 else 1) * ((m : ℚ) * 2 ^ e)) ∧
      SettingForm.number.read (formatValue (.float x)) = .ok (.number (.whole k)) := by
  obtain ⟨hmagnitude, hsign⟩ := natAbs_of_exactInt?_eq_some hx hk
  obtain ⟨n, hn, htext, hnegative, hn'⟩ := exists_numeral_ofInt k
  have hwritten : formatValue (.float x) = n.text := by rw [formatValue, hk, htext]
  rw [hwritten, hn.rational?_text, Numeral.value, hn', hmagnitude, hnegative]
  rw [SettingForm.read_number hn.mem_text hn.readFloat?_text, Mixed.ofFloat]
  rcases Nat.eq_zero_or_pos m with rfl | hm
  · -- A zero loses its sign.
    obtain rfl : k = 0 := by simpa using hmagnitude
    have hzero : numberOfDigits (digitsOf n.digits) = 0 := by
      rw [numberOfDigits_digitsOf]
      have hten := (ten_zpow_pos n.power).ne'
      simpa [Numeral.magnitude, hten] using hn'
    have hy : Binary.ofFloat (scaledFloat n.negative (digitsOf n.digits) n.power)
        = .finite n.negative 0 (-1074) := by
      rw [scaledFloat.eq_def]
      dsimp only
      rw [if_pos (.inl hzero), ofFloat_nearestFloat_zero]
    obtain ⟨i, hi⟩ := Option.ne_none_iff_exists'.1 (exactInt?_zero hy)
    obtain rfl : i = 0 := by simpa using (natAbs_of_exactInt?_eq_some hy hi).1
    rw [hi]
    exact ⟨by simp, rfl⟩
  · rw [hsign hm]
    refine ⟨rfl, ?_⟩
    have hreads : Reads m e n.magnitude := by
      rw [hn', hmagnitude]
      exact Reads.self m e
    rw [(scaledFloat_numeral hx hm hn (hnegative.trans (hsign hm))).1 hreads, hk]
    rfl

/-- **A double with a fraction is written exactly** and read back, unless its exponent loses a
zero. -/
theorem formatValue_fractional (hx : Binary.ofFloat x = .finite negative m e)
    (hnone : exactInt? x = none) : ∃ q, (shortestText x).rational? = some q ∧
      ((formatValue (.float x)).rational? = some q ↔ ¬ HasRoundExponent m e) ∧
      (SettingForm.number.read (formatValue (.float x)) = .ok (.number (.real x)) ↔
        ¬ HasRoundExponent m e) := by
  obtain ⟨hm, -⟩ := neg_of_exactInt?_eq_none hx hnone
  obtain ⟨n, hn, hsign, htext, hreads, hexponent⟩ := exists_shortestNumeral hx hnone
  obtain ⟨hvalid, hstripped⟩ := hn.stripped_spec
  obtain ⟨hsame, hlarger⟩ := hn.magnitude_stripped
  have hwritten : formatValue (.float x) = n.stripped.text := by
    rw [formatValue, hnone, ← htext, ← hstripped]
  have hsign' : n.stripped.negative = n.negative := by
    rw [Numeral.stripped]
    split <;> rfl
  obtain ⟨hback, hfar⟩ := scaledFloat_numeral hx hm hvalid (hsign'.trans hsign)
  rw [hwritten, ← htext, hn.rational?_text, hvalid.rational?_text,
    SettingForm.read_number hvalid.mem_text hvalid.readFloat?_text]
  refine ⟨_, rfl, ?_⟩
  by_cases hround : HasRoundExponent m e
  · -- Without its zeros the exponent makes the number at least ten times as large.
    obtain ⟨w, hw, hvalue⟩ : ∃ w ∈ n.exponent, w.value = (shortestDigits m e).point - 1 := by
      rwa [if_neg (not_le.2 hround.1), Option.map_eq_some_iff] at hexponent
    have hten := hlarger w hw (by rw [hvalue]; exact hround.1.trans (by decide)) (hvalue ▸ hround.2)
    have hlow := hreads.half_le hm
    have hpos : (0 : ℚ) < m * 2 ^ e := mul_pos (by exact_mod_cast hm) (two_zpow_pos e)
    refine ⟨iff_of_false (fun h => ?_) (not_not.2 hround),
      iff_of_false (fun h => ?_) (not_not.2 hround)⟩
    · have hsame := Option.some.inj h
      rw [Numeral.value, Numeral.value, hsign'] at hsame
      have := mul_left_cancel₀ (by split <;> norm_num) hsame
      linarith
    · have := hfar (Mixed.ofFloat_eq_real_iff.1 (SettingValue.number.inj (Except.ok.inj h))).2
      linarith
  · have hkept := hsame fun w hw hten => by
      rw [Option.mem_def.1 hw, Option.map_some] at hexponent
      split at hexponent
      next => cases hexponent
      next hlarge => exact hround ⟨not_le.1 hlarge, Option.some.inj hexponent ▸ hten⟩
    refine ⟨iff_of_true ?_ hround, iff_of_true ?_ hround⟩
    · rw [Numeral.value, Numeral.value, hsign', hkept]
    · rw [hback (hkept ▸ hreads), Mixed.ofFloat_eq_real_iff.2 ⟨hnone, rfl⟩]

end

/-- **Numbers are written exactly** and read back: a whole number as itself, and a number with a
fraction as the one that its shortest text denotes, unless that text has an exponent that ends with
a zero. -/
theorem formatValue_float {x : Float} {negative : Bool} {m : Nat} {e : Int}
    (hx : Binary.ofFloat x = .finite negative m e) :
    (∀ k, exactInt? x = some k →
      (formatValue (.float x)).rational? = some ((if negative then -1 else 1) * ((m : ℚ) * 2 ^ e)) ∧
        SettingForm.number.read (formatValue (.float x)) = .ok (.number (.whole k))) ∧
    (exactInt? x = none → ∃ q, (shortestText x).rational? = some q ∧
      ((formatValue (.float x)).rational? = some q ↔ ¬ HasRoundExponent m e) ∧
      (SettingForm.number.read (formatValue (.float x)) = .ok (.number (.real x)) ↔
        ¬ HasRoundExponent m e)) :=
  ⟨fun _ => formatValue_whole hx, formatValue_fractional hx⟩

/-- An exponent that does not end with a zero is kept. -/
theorem formatValue_float_small :
    Binary.ofFloat 1.5e-7 = .finite false 5666839779443574 (-75) ∧
    SettingForm.number.read (formatValue (.float 1.5e-7)) = .ok (.number (.real 1.5e-7)) := by
  have hx : Binary.ofFloat 1.5e-7 = .finite false 5666839779443574 (-75) := rfl
  obtain ⟨-, -, -, hread⟩ := (formatValue_float hx).2 (by decide +kernel)
  exact ⟨hx, hread.2 (by decide +kernel)⟩

/-- What loses the zero of its exponent is read as another number. -/
theorem exists_lost_exponent : ∃ x : Float, exactInt? x = none ∧ shortestText x = "1e-10".toList ∧
    formatValue (.float x) = "1e-1".toList ∧
    (shortestText x).rational? = some (1 / 10 ^ 10) ∧
    (formatValue (.float x)).rational? = some (1 / 10) ∧
    SettingForm.number.read (formatValue (.float x)) = .ok (.number (.real 0.1)) := by
  have hshortest : shortestText 1e-10 = "1e-10".toList := by decide +kernel
  have hwritten : formatValue (.float 1e-10) = "1e-1".toList := by decide +kernel
  refine ⟨1e-10, by decide +kernel, hshortest, hwritten, ?_, ?_, ?_⟩
  · -- Both texts are read as rational numbers, with the significands and exponents that are
    -- written.
    have hparts : decimalParts? "1e-10".toList = some ([1], -10) := by decide +kernel
    have hsign : takeSign "1e-10".toList = (false, "1e-10".toList) := by decide
    rw [hshortest, Text.rational?, hsign, hparts]
    norm_num [numberOfDigits]
  · have hparts : decimalParts? "1e-1".toList = some ([1], -1) := by decide +kernel
    have hsign : takeSign "1e-1".toList = (false, "1e-1".toList) := by decide
    rw [hwritten, Text.rational?, hsign, hparts]
    norm_num [numberOfDigits]
  · rw [hwritten]
    rfl

end SchemaDiagram
