import SchemaDiagram.Edit.Change
import SchemaDiagram.Proofs.Numerals

/-! # Written numbers

A double is written as a numeral of its shortest digits, and a change writes it without the zeros at
its end and without the point they leave. What is left is never empty, and it holds none of the
characters that have a meaning in a source text.

* **`NumberStyle.exists_numeral`** — a decimal is written as a numeral that denotes it.
* **`mem_shortestText`** — the characters of a double.
* **`formatValue_number`** — the characters of a written number. -/

namespace SchemaDiagram

/-! ## Decimals -/

/-- Digits with a point among them or behind them, and perhaps with an exponent, make a numeral. -/
theorem Numeral.valid_cut {ds : Text} (hds : AllDigits ds) {k : Nat} (hk : 0 < k)
    (hle : k ≤ ds.length) (exponent : Option Exponent) (hexponent : ∀ w ∈ exponent, w.Valid) :
    Valid ⟨false, ds.take k, ds.drop k, exponent⟩ ∧
      magnitude ⟨false, ds.take k, ds.drop k, exponent⟩
        = Nat.ofDigitChars 10 ds 0 * 10 ^ (exponent.elim 0 Exponent.value + k - ds.length) := by
  -- At least one digit stands ahead of the point.
  have htake : ds.take k ≠ [] := by
    rw [← List.length_pos_iff, List.length_take]
    omega
  refine ⟨⟨htake, fun c hc => hds c (List.mem_of_mem_take hc),
    fun c hc => hds c (List.mem_of_mem_drop hc), hexponent⟩, ?_⟩
  rw [magnitude, digits, power]
  dsimp only
  rw [List.take_append_drop, List.length_drop]
  congr 2
  omega

/-- **A decimal is written as a numeral** that denotes it; a numeral without an exponent has a
fraction where whole numbers keep their point, and one with an exponent has that of the first
digit. -/
theorem NumberStyle.exists_numeral (style : NumberStyle) (d : Decimal) :
    ∃ n : Numeral, n.negative = false ∧ n.Valid ∧ n.text = style.write d ∧ n.magnitude = d.value ∧
      (style.keepsPoint = true → n.exponent = none → n.fraction ≠ []) ∧
      (∀ c ∈ Text.ofNat d.digits, c ∈ n.digits) ∧
      n.exponent.map Exponent.value
        = if style.leastExponent ≤ d.point - 1 ∧ d.point - 1 < style.exponentBound
        then none else some (d.point - 1) := by
  have hds := allDigits_ofNat d.digits
  have hnum : Nat.ofDigitChars 10 (Text.ofNat d.digits) 0 = d.digits :=
    Nat.ofDigitChars_ten_toDigits
  have hlen : 0 < (Text.ofNat d.digits).length := Nat.length_toDigits_pos
  have hvalue : d.value = d.digits * 10 ^ (d.point - (Text.ofNat d.digits).length) := rfl
  rw [write, hvalue]
  generalize Text.ofNat d.digits = ds at *
  dsimp only
  split
  -- Without an exponent the point is among the digits, or zeros lead up to it.
  next hpositional =>
    split
    -- Zeros between the point and the first digit.
    next hsmall =>
      refine ⟨⟨false, ['0'], List.replicate (-d.point).toNat '0' ++ ds, none⟩, rfl,
        .plain (List.cons_ne_nil _ _) (allDigits_replicate 1) ((allDigits_replicate _).append hds),
        ?_, ?_,
        fun _ _ => List.append_ne_nil_of_right_ne_nil _ (List.length_pos_iff.1 hlen),
        fun c hc => List.mem_append_right _ (List.mem_append_right _ hc), rfl⟩
      · rw [Numeral.text, Numeral.pointed,
          if_neg (List.append_ne_nil_of_right_ne_nil _ (List.length_pos_iff.1 hlen))]
        simp
      · rw [Numeral.magnitude, Numeral.digits, Numeral.power]
        dsimp only [Option.elim_none]
        rw [Nat.ofDigitChars_append, Nat.ofDigitChars_append, Nat.ofDigitChars_replicate_zero,
          show Nat.ofDigitChars 10 ['0'] 0 = 0 from rfl, Nat.mul_zero, hnum]
        congr 2
        simp
        omega
    next hlarge =>
      split
      -- Zeros between the last digit and the point.
      next hwhole =>
        have hfraction : AllDigits (if style.keepsPoint then ['0'] else []) := by
          split
          · exact allDigits_replicate 1
          · exact fun c hc => absurd hc List.not_mem_nil
        refine ⟨⟨false, ds ++ List.replicate (d.point.toNat - ds.length) '0',
          if style.keepsPoint then ['0'] else [], none⟩, rfl,
          .plain (List.append_ne_nil_of_left_ne_nil (List.length_pos_iff.1 hlen) _)
            (hds.append (allDigits_replicate _)) hfraction, ?_, ?_, fun hkeep _ => by simp [hkeep],
          fun c hc => List.mem_append_left _ (List.mem_append_left _ hc), rfl⟩
        · rw [Numeral.text, Numeral.pointed]
          split <;> simp
        · rw [Numeral.magnitude, Numeral.digits, Numeral.power]
          dsimp only [Option.elim_none]
          -- As many zeros as the number is longer than its digits.
          obtain ⟨zeros, hzeros⟩ : ∃ zeros : Nat, d.point.toNat = ds.length + zeros :=
            ⟨d.point.toNat - ds.length, by omega⟩
          have hpoint : d.point - ds.length = zeros := by omega
          rw [Nat.ofDigitChars_append, Nat.ofDigitChars_append,
            Nat.ofDigitChars_replicate_zero, hnum, hpoint, zpow_natCast, hzeros,
            Nat.add_sub_cancel_left]
          split
          · simp [Nat.ofDigitChars_cons]
            ring
          · simp [mul_comm]
      next hpart =>
        have hpoint : (d.point.toNat : Int) = d.point := Int.toNat_of_nonneg (by omega)
        have hdrop : ds.drop d.point.toNat ≠ [] := by
          rw [Ne, List.drop_eq_nil_iff]
          omega
        obtain ⟨hvalid, hmagnitude⟩ :=
          Numeral.valid_cut hds (k := d.point.toNat) (by omega) (by omega)
          none fun w hw => absurd hw (Option.not_mem_none w)
        refine ⟨⟨false, ds.take d.point.toNat, ds.drop d.point.toNat, none⟩, rfl, hvalid, ?_, ?_,
          fun _ _ => hdrop, fun c hc => by rwa [Numeral.digits, List.take_append_drop], rfl⟩
        · rw [Numeral.text, Numeral.pointed, if_neg hdrop]
          simp
        · rw [hmagnitude, hnum, hpoint, Option.elim_none, Int.zero_add]
  -- With an exponent the point is behind the first digit.
  next hscientific =>
    obtain ⟨w, hexponent, htext, hw⟩ := exists_exponent (d.point - 1)
    obtain ⟨hvalid, hmagnitude⟩ := Numeral.valid_cut hds Nat.one_pos hlen (some w)
      fun v hv => Option.some.inj hv ▸ hexponent
    refine ⟨⟨false, ds.take 1, ds.drop 1, some w⟩, rfl, hvalid, ?_, ?_,
      fun _ h => absurd h (Option.some_ne_none _),
      fun c hc => by rwa [Numeral.digits, List.take_append_drop], congrArg some hw⟩
    · rw [Numeral.text, Numeral.pointed, ← htext]
      simp
    · rw [hmagnitude, hnum, Option.elim_some, hw, Nat.cast_one, sub_add_cancel]

/-! ## Doubles -/

/-- A digit that is no zero stands in every positive number. -/
theorem exists_digit_ne_zero {n : Nat} (h : 0 < n) : ∃ c ∈ Text.ofNat n, c ≠ '0' := by
  by_contra hnone
  push Not at hnone
  have hzeros := List.eq_replicate_of_mem hnone
  have hvalue : Nat.ofDigitChars 10 (Text.ofNat n) 0 = n := Nat.ofDigitChars_ten_toDigits
  rw [hzeros, Nat.ofDigitChars_replicate_zero, Nat.mul_zero] at hvalue
  omega

/-- The number zero is a whole number. -/
theorem exactInt?_zero {x : Float} {negative : Bool} {e : Int}
    (h : Binary.ofFloat x = .finite negative 0 e) : exactInt? x ≠ none := by
  have hzero : (timesTwoPow 0 1 e).1 = 0 := by cases e <;> simp [timesTwoPow]
  rw [exactInt?, h]
  simp [hzero]

/-- Whether a text holds the characters of numerals only can be computed. -/
theorem mem_numeralChars {s : Text} (h : s.all numeralChars.contains = true) :
    ∀ c ∈ s, c ∈ numeralChars := by
  intro c hc
  exact List.contains_iff_mem.1 (List.all_eq_true.1 h c hc)

/-- The digits of a numeral stand in its text. -/
theorem Numeral.mem_text_of_mem_digits {n : Numeral} {c : Char} (h : c ∈ n.digits) :
    c ∈ n.text := by
  rw [Numeral.digits, List.mem_append] at h
  rw [Numeral.text, Numeral.pointed]
  refine List.mem_append_right _ ?_
  rcases h with h | h
  · exact List.mem_append_left _ h
  · refine List.mem_append_right _ (List.mem_append_left _ ?_)
    rw [if_neg (List.ne_nil_of_mem h)]
    exact List.mem_cons_of_mem _ h

/-- **The characters of a double.** One that is no whole number has a character that is neither a
zero nor a point. -/
theorem mem_shortestText (x : Float) : (∀ c ∈ shortestText x, c ∈ numeralChars) ∧
    (exactInt? x = none → ∃ c ∈ shortestText x, c ≠ '0' ∧ c ≠ '.') := by
  -- The names of special values have an `n`.
  have hname : ∀ {name : Text}, name.all numeralChars.contains = true → 'n' ∈ name →
      (∀ c ∈ name, c ∈ numeralChars) ∧
        (exactInt? x = none → ∃ c ∈ name, c ≠ '0' ∧ c ≠ '.') :=
    fun hchars hn => ⟨mem_numeralChars hchars, fun _ => ⟨'n', hn, by decide, by decide⟩⟩
  rw [shortestText, writeFloat]
  cases hx : Binary.ofFloat x with
  | nan => exact hname rfl (List.mem_cons_self ..)
  | infinite negative => cases negative <;> exact hname rfl (by simp)
  | finite negative m e =>
    dsimp only
    have hsign : ∀ c ∈ (if negative then ['-'] else []), c ∈ numeralChars := by
      cases negative <;> exact mem_numeralChars rfl
    by_cases hm : m = 0
    · subst hm
      refine ⟨?_, fun hnone => absurd hnone (exactInt?_zero hx)⟩
      intro c hc
      rcases List.mem_append.1 hc with hc | hc
      · exact hsign c hc
      · exact mem_numeralChars (s := "0.0") rfl c hc
    · -- Another number has a digit that is no zero.
      obtain ⟨hpos, -⟩ := shortestDigits_spec (toBits_of_ofFloat hx).1 (Nat.pos_of_ne_zero hm)
      obtain ⟨n, -, hvalid, htext, -, -, hdigits, -⟩ :=
        valueStyle.exists_numeral (shortestDigits m e)
      obtain ⟨c, hc, hzero⟩ := exists_digit_ne_zero hpos
      rw [if_neg hm, ← htext]
      have hmem : c ∈ n.text := Numeral.mem_text_of_mem_digits (hdigits c hc)
      refine ⟨?_, fun _ => ⟨c, List.mem_append_right _ hmem, hzero, ?_⟩⟩
      · intro c hc
        rcases List.mem_append.1 hc with hc | hc
        · exact hsign c hc
        · exact hvalid.mem_text c hc
      · rintro rfl
        exact absurd (allDigits_ofNat _ '.' hc) (by decide)

/-! ## Numbers in a change -/

/-- Whether a value of a change is a number or a truth value. -/
def Scalar.isNumber : Scalar → Bool
  | .int _ | .float _ => true
  | .bool _ | .text _ => false

/-- What is left of a text without a character at its end. -/
theorem Text.mem_of_mem_dropTail {c d : Char} {s : Text} (h : c ∈ s.dropTail d) : c ∈ s := by
  obtain ⟨n, hn⟩ := Text.exists_dropTail d s
  rw [hn]
  exact List.mem_append_left _ h

/-- Other characters are left. -/
theorem Text.mem_dropTail {c d : Char} {s : Text} (h : c ∈ s) (hne : c ≠ d) : c ∈ s.dropTail d := by
  obtain ⟨n, hn⟩ := Text.exists_dropTail d s
  rw [hn] at h
  rcases List.mem_append.1 h with h | h
  · exact h
  · exact absurd (List.eq_of_mem_replicate h) hne

/-- A whole number is written with digits, perhaps behind a minus sign. -/
theorem mem_ofInt (n : Int) : Text.ofInt n ≠ [] ∧ ∀ c ∈ Text.ofInt n, c ∈ numeralChars := by
  have hdigit : ∀ (k : Nat), ∀ c ∈ Text.ofNat k, c ∈ numeralChars := by
    intro k c hc
    obtain ⟨i, hi, rfl⟩ := exists_digit (allDigits_ofNat k c hc)
    interval_cases i <;> decide
  cases n with
  | ofNat k => exact ⟨List.length_pos_iff.1 Nat.length_toDigits_pos, hdigit k⟩
  | negSucc k =>
    refine ⟨List.cons_ne_nil _ _, ?_⟩
    intro c hc
    rcases List.mem_cons.1 hc with rfl | hc
    · decide
    · exact hdigit (k + 1) c hc

/-- **The characters of a written number**: there are some, and they are those of numerals. -/
theorem formatValue_number {value : Scalar} (h : value.isNumber = true) :
    formatValue value ≠ [] ∧ ∀ c ∈ formatValue value, c ∈ numeralChars := by
  cases value with
  | bool b => cases h
  | text s => cases h
  | int n => exact mem_ofInt n
  | float x =>
    obtain ⟨hchars, hleft⟩ := mem_shortestText x
    cases hx : exactInt? x with
    | some n =>
      rw [formatValue, hx]
      exact mem_ofInt n
    | none =>
      rw [formatValue, hx]
      obtain ⟨c, hc, hzero, hpoint⟩ := hleft hx
      have hmem : c ∈ Text.dropTail '.' (Text.dropTail '0' (shortestText x)) :=
        Text.mem_dropTail (Text.mem_dropTail hc hzero) hpoint
      exact ⟨List.ne_nil_of_mem hmem, fun c hc =>
        hchars c (Text.mem_of_mem_dropTail (Text.mem_of_mem_dropTail hc))⟩

end SchemaDiagram
