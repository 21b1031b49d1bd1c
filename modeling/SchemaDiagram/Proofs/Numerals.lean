import SchemaDiagram.Number.Numeral
import SchemaDiagram.Proofs.ShortestDigits

/-! # Numerals

A numeral is written with digits, perhaps a point and more digits, and perhaps an exponent. It is
read as the double nearest to the number that its digits make.

* **`Numeral`** — the parts of a numeral, its text and the number that it denotes.
* **`Text.rational?`** — the number that a text denotes, exactly.
* **`Numeral.readFloat?_text`** — a numeral whose number lies between the midpoints around a double
  is read as that double. -/

namespace SchemaDiagram

/-! ## Digits -/

/-- The text is made of digits. -/
def AllDigits (s : Text) : Prop := ∀ c ∈ s, c.isDigit = true

/-- The values of digits. -/
def digitsOf (s : Text) : List Nat := s.map fun c => c.toNat - 48

/-- A digit is one of ten characters. -/
theorem exists_digit {c : Char} (h : c.isDigit = true) : ∃ i < 10, c = Char.ofNat (48 + i) := by
  obtain ⟨hlow, hhigh⟩ : 48 ≤ c.toNat ∧ c.toNat ≤ 57 := Char.isDigit_iff_toNat.1 h
  refine ⟨c.toNat - 48, by omega, ?_⟩
  rw [show 48 + (c.toNat - 48) = c.toNat by omega, Char.ofNat_toNat]

/-- The value of a digit is its distance from the digit zero. -/
theorem digitValue?_digit {c : Char} (h : c.isDigit = true) :
    digitValue? c = some (c.toNat - 48) := by
  have hall : ∀ i < 10, digitValue? (Char.ofNat (48 + i))
      = some ((Char.ofNat (48 + i)).toNat - 48) := by decide
  obtain ⟨i, hi, rfl⟩ := exists_digit h
  exact hall i hi

/-- A count is written in digits. -/
theorem allDigits_ofNat (n : Nat) : AllDigits (Text.ofNat n) :=
  fun _ hc => Nat.isDigit_of_mem_toDigits (by decide) (by decide) hc

/-- Two texts of digits are one of digits together. -/
theorem AllDigits.append {s t : Text} (hs : AllDigits s) (ht : AllDigits t) :
    AllDigits (s ++ t) := fun c hc => (List.mem_append.1 hc).elim (hs c) (ht c)

/-- Zeros are digits. -/
theorem allDigits_replicate (n : Nat) : AllDigits (List.replicate n '0') := by
  intro c hc
  rw [(List.mem_replicate.1 hc).2]
  rfl

/-- The digits at the start of a text are read up to a character that is none. -/
theorem takeDigits_append {ds rest : Text} (h : AllDigits ds)
    (hrest : ∀ c ∈ rest.head?, digitValue? c = none ∧ c ≠ '_') :
    takeDigits (ds ++ rest) = (digitsOf ds, rest) := by
  -- An underscore is skipped only ahead of a digit, and the rest begins with neither.
  have hmore : moreDigits (ds ++ rest) = (digitsOf ds, rest) := by
    induction ds with
    | nil =>
      cases rest with
      | nil => rfl
      | cons c rest =>
        obtain ⟨hc, hne⟩ := hrest c rfl
        rw [List.nil_append, moreDigits, hc]
        · rfl
        · rintro d s rfl
          exact absurd rfl hne
    | cons c ds ih =>
      have hc := h c (List.mem_cons_self ..)
      rw [List.cons_append, moreDigits, digitValue?_digit hc,
        ih fun d hd => h d (List.mem_cons_of_mem _ hd)]
      · rfl
      · rintro d s rfl
        exact absurd hc (by decide)
  rw [takeDigits, hmore]
  -- The first character is a digit, so it is no underscore.
  intro s hs
  cases ds with
  | nil =>
    rw [List.nil_append] at hs
    rw [hs] at hrest
    exact absurd rfl (hrest _ rfl).2
  | cons c ds =>
    obtain ⟨rfl, -⟩ := List.cons.inj hs
    exact absurd (h _ (List.mem_cons_self ..)) (by decide)

/-- The number of digits is the number that they denote. -/
theorem numberOfDigits_digitsOf (ds : Text) :
    numberOfDigits (digitsOf ds) = Nat.ofDigitChars 10 ds 0 := by
  rw [numberOfDigits, digitsOf, List.foldl_map, Nat.ofDigitChars_eq_foldl]
  rfl

/-- A text without spaces is trimmed already. -/
theorem Text.trimSpaces_eq_self {s : Text} (h : ∀ c ∈ s, isSpace c = false) : s.trimSpaces = s := by
  have hdrop : ∀ {t : Text}, (∀ c ∈ t, isSpace c = false) → t.dropWhile isSpace = t := by
    intro t ht
    cases t with
    | nil => rfl
    | cons c t => rw [List.dropWhile_cons_of_neg (by simp [ht c (List.mem_cons_self ..)])]
  rw [trimSpaces, hdrop h, hdrop fun c hc => h c (List.mem_reverse.1 hc), List.reverse_reverse]

/-! ## Numerals -/

/-- The characters that numbers are written with. -/
def numeralChars : Text := "0123456789.+-einfa".toList

/-- An exponent as it is written: its sign and its digits. -/
structure Exponent where
  /-- Whether it is a minus sign. -/
  negative : Bool
  /-- The digits behind the sign. -/
  digits : Text

namespace Exponent

/-- The text of an exponent. -/
def text (w : Exponent) : Text := 'e' :: (if w.negative then '-' else '+') :: w.digits

/-- The number that an exponent denotes. -/
def value (w : Exponent) : Int :=
  if w.negative then -(Nat.ofDigitChars 10 w.digits 0 : Int) else Nat.ofDigitChars 10 w.digits 0

/-- Digits stand behind the sign. -/
structure Valid (w : Exponent) : Prop where
  ne_nil : w.digits ≠ []
  digits : AllDigits w.digits

/-- **An exponent is read** as the number that it denotes. -/
theorem Valid.readExponent?_text {w : Exponent} (h : w.Valid) :
    readExponent? w.text = some w.value := by
  -- All the characters of the exponent are digits, and nothing follows them.
  have htake : takeDigits w.digits = (digitsOf w.digits, []) := by
    have hnil : ∀ c ∈ ([] : Text).head?, digitValue? c = none ∧ c ≠ '_' := by simp
    rw [← takeDigits_append h.digits hnil, List.append_nil]
  have hempty : (digitsOf w.digits).isEmpty = false := by
    rw [digitsOf, List.isEmpty_map]
    exact List.isEmpty_eq_false_iff.2 h.ne_nil
  have hsign : takeSign ((if w.negative then '-' else '+') :: w.digits)
      = (w.negative, w.digits) := by
    cases w.negative <;> rfl
  rw [text, readExponent?, if_pos (.inl rfl), hsign]
  dsimp only
  rw [htake]
  dsimp only
  rw [hempty, numberOfDigits_digitsOf, if_neg Bool.false_ne_true, value]

end Exponent

/-- Every number is written as an exponent. -/
theorem exists_exponent (e : Int) :
    ∃ w : Exponent, w.Valid ∧ w.text = exponentText e ∧ w.value = e := by
  -- The digits of a natural number denote it again.
  have hnum : Nat.ofDigitChars 10 (Text.ofNat e.natAbs) 0 = e.natAbs :=
    Nat.ofDigitChars_ten_toDigits
  refine ⟨⟨decide (e < 0), (if (Text.ofNat e.natAbs).length < 2 then ['0']
    else []) ++ Text.ofNat e.natAbs⟩,
    ⟨List.append_ne_nil_of_right_ne_nil _ Nat.toDigits_ne_nil, ?_⟩, ?_, ?_⟩
  · dsimp only
    split
    · exact (allDigits_replicate 1).append (allDigits_ofNat _)
    · exact allDigits_ofNat _
  · -- The text has a sign and at least two digits, as it is printed.
    rw [Exponent.text, exponentText]
    by_cases hneg : e < 0 <;> split <;> simp [concat, hneg]
  · -- A zero in front does not change the number.
    have hdigits : Nat.ofDigitChars 10
        ((if (Text.ofNat e.natAbs).length < 2 then ['0'] else []) ++ Text.ofNat e.natAbs) 0
        = e.natAbs := by
      rw [Nat.ofDigitChars_append]
      split <;> exact hnum
    rw [Exponent.value, hdigits]
    by_cases hneg : e < 0
    · rw [if_pos (decide_eq_true hneg)]
      omega
    · rw [if_neg (by simpa using hneg)]
      omega

/-- The parts of a numeral. -/
structure Numeral where
  /-- Whether a minus sign comes first. -/
  negative : Bool
  /-- The digits before the point. -/
  whole : Text
  /-- The digits behind the point. -/
  fraction : Text
  /-- The exponent, where there is one. -/
  exponent : Option Exponent

namespace Numeral

/-- A point and the digits behind it, where there are some. -/
def pointed (fraction : Text) : Text := if fraction = [] then [] else '.' :: fraction

/-- The text of a numeral. -/
def text (n : Numeral) : Text :=
  (if n.negative then ['-'] else []) ++
    (n.whole ++ (pointed n.fraction ++ n.exponent.elim [] Exponent.text))

/-- All digits of a numeral. -/
def digits (n : Numeral) : Text := n.whole ++ n.fraction

/-- The power of ten that the last digit counts. -/
def power (n : Numeral) : Int := n.exponent.elim 0 Exponent.value - n.fraction.length

/-- The number that a numeral denotes, without its sign. -/
def magnitude (n : Numeral) : ℚ := Nat.ofDigitChars 10 n.digits 0 * 10 ^ n.power

/-- The number that a numeral denotes. -/
def value (n : Numeral) : ℚ := (if n.negative then -1 else 1) * n.magnitude

/-- Digits stand on both sides of the point and in the exponent, and there are some before the
point. -/
structure Valid (n : Numeral) : Prop where
  ne_nil : n.whole ≠ []
  whole : AllDigits n.whole
  fraction : AllDigits n.fraction
  exponent : ∀ w ∈ n.exponent, w.Valid

/-- A numeral may have no exponent. -/
theorem Valid.plain {negative : Bool} {whole fraction : Text} (hne : whole ≠ [])
    (hwhole : AllDigits whole) (hfraction : AllDigits fraction) :
    Valid ⟨negative, whole, fraction, none⟩ :=
  ⟨hne, hwhole, hfraction, fun w hw => absurd hw (Option.not_mem_none w)⟩

end Numeral

/-! ## What a text denotes -/

/-- The digits of a numeral without a sign, and the power of ten that the last one counts. -/
def decimalParts? (s : Text) : Option (List Nat × Int) :=
  let (whole, rest) := takeDigits s
  let (fraction, rest) := match rest with
    | '.' :: rest => takeDigits rest
    | rest => ([], rest)
  if whole.isEmpty && fraction.isEmpty then none
  else (readExponent? rest).map fun e => (whole ++ fraction, e - fraction.length)

/-- **A double is read from the digits** of a numeral and the power of ten that they count. -/
theorem readMagnitude?_eq (negative : Bool) (s : Text) :
    readMagnitude? negative s = (decimalParts? s).map fun p => scaledFloat negative p.1 p.2 := by
  simp only [readMagnitude?, decimalParts?, apply_ite (Option.map _), Option.map_none,
    Option.map_map]
  rfl

/-- The number that a text denotes as a numeral, exactly. -/
def Text.rational? (s : Text) : Option ℚ :=
  (decimalParts? (takeSign s).2).map fun p =>
    (if (takeSign s).1 then -1 else 1) * (numberOfDigits p.1 * 10 ^ p.2)

namespace Numeral

variable {n : Numeral}

/-- The parts of a numeral are found in its text. -/
theorem Valid.decimalParts?_eq (h : n.Valid) :
    decimalParts? (n.whole ++ (pointed n.fraction ++ n.exponent.elim [] Exponent.text))
      = some (digitsOf n.digits, n.power) := by
  have hexp : readExponent? (n.exponent.elim [] Exponent.text)
      = some (n.exponent.elim 0 Exponent.value) := by
    cases hw : n.exponent with
    | none => rfl
    | some w => exact (h.exponent w hw).readExponent?_text
  -- The exponent is nothing or starts with an `e`, which no run of digits goes past.
  have htail : n.exponent.elim [] Exponent.text = [] ∨
      ∃ r, n.exponent.elim [] Exponent.text = 'e' :: r := by
    cases n.exponent with
    | none => exact .inl rfl
    | some w => exact .inr ⟨_, rfl⟩
  generalize n.exponent.elim [] Exponent.text = tail at *
  have hstop : ∀ c ∈ tail.head?, digitValue? c = none ∧ c ≠ '_' := by
    rcases htail with rfl | ⟨r, rfl⟩
    · simp
    · intro c hc
      obtain rfl : 'e' = c := Option.some.inj hc
      decide
  have hne : (digitsOf n.whole).isEmpty = false := by
    rw [digitsOf, List.isEmpty_map]
    exact List.isEmpty_eq_false_iff.2 h.ne_nil
  have hall : digitsOf n.digits = digitsOf n.whole ++ digitsOf n.fraction := List.map_append ..
  -- Without a fraction there is no point either.
  by_cases hfraction : n.fraction = []
  · rw [pointed, if_pos hfraction, List.nil_append, decimalParts?, takeDigits_append h.whole hstop]
    simp only [hne, hall, hfraction, power]
    rcases htail with rfl | ⟨r, rfl⟩ <;> simp [hexp, digitsOf]
  · -- The point ends the digits of the whole part.
    rw [pointed, if_neg hfraction, decimalParts?, List.cons_append, takeDigits_append h.whole]
    · simp only [takeDigits_append h.fraction hstop, hne, hexp, hall, power]
      simp [digitsOf]
    · intro c hc
      obtain rfl : '.' = c := Option.some.inj hc
      decide

/-- A sign is told from the digits behind it. -/
theorem Valid.takeSign_text (h : n.Valid) : takeSign n.text
    = (n.negative, n.whole ++ (pointed n.fraction ++ n.exponent.elim [] Exponent.text)) := by
  obtain ⟨d, rest, hwhole⟩ := List.exists_cons_of_ne_nil h.ne_nil
  have hd : d.isDigit = true := h.whole d (by rw [hwhole]; exact List.mem_cons_self ..)
  rw [text]
  -- The first character is a digit, so it is neither of the signs.
  cases n.negative with
  | true => rfl
  | false =>
    rw [if_neg Bool.false_ne_true, List.nil_append, hwhole, List.cons_append, takeSign]
    · rintro s hs
      obtain ⟨rfl, -⟩ := List.cons.inj hs
      exact absurd hd (by decide)
    · rintro s hs
      obtain ⟨rfl, -⟩ := List.cons.inj hs
      exact absurd hd (by decide)

/-- **The text of a numeral denotes its number.** -/
theorem Valid.rational?_text (h : n.Valid) : n.text.rational? = some n.value := by
  rw [Text.rational?, h.takeSign_text]
  dsimp only
  rw [h.decimalParts?_eq, Option.map_some, numberOfDigits_digitsOf]
  rfl

/-- A numeral is written in the characters of numbers. -/
theorem Valid.mem_text (h : n.Valid) : ∀ c ∈ n.text, c ∈ numeralChars := by
  -- Each of the parts is written in digits and one mark.
  have hdigits : ∀ {s : Text}, AllDigits s → ∀ c ∈ s, c ∈ numeralChars := by
    intro s hs c hc
    obtain ⟨i, hi, rfl⟩ := exists_digit (hs c hc)
    exact (by decide : ∀ i < 10, Char.ofNat (48 + i) ∈ numeralChars) i hi
  have hexponent : ∀ c ∈ n.exponent.elim [] Exponent.text, c ∈ numeralChars := by
    cases hw : n.exponent with
    | none => exact fun c hc => absurd hc List.not_mem_nil
    | some w =>
      refine List.forall_mem_cons.2 ⟨by decide,
        List.forall_mem_cons.2 ⟨?_, hdigits (h.exponent w hw).digits⟩⟩
      split <;> decide
  have hpointed : ∀ c ∈ pointed n.fraction, c ∈ numeralChars := by
    rw [pointed]
    split
    · exact fun c hc => absurd hc List.not_mem_nil
    · exact List.forall_mem_cons.2 ⟨by decide, hdigits h.fraction⟩
  rw [text, List.forall_mem_append, List.forall_mem_append, List.forall_mem_append]
  refine ⟨?_, hdigits h.whole, hpointed, hexponent⟩
  split
  · exact List.forall_mem_cons.2 ⟨by decide, fun c hc => absurd hc List.not_mem_nil⟩
  · exact fun c hc => absurd hc List.not_mem_nil

/-- **A numeral is read** from its digits. -/
theorem Valid.readFloat?_text (h : n.Valid) :
    readFloat? n.text = some (scaledFloat n.negative (digitsOf n.digits) n.power) := by
  -- No character of a number is a blank, so trimming takes nothing off.
  have hspace : ∀ c ∈ n.text, isSpace c = false := by
    intro c hc
    have hall : numeralChars.all (! isSpace ·) = true := by decide
    simpa using List.all_eq_true.1 hall c (h.mem_text c hc)
  have htrim := Text.trimSpaces_eq_self hspace
  obtain ⟨d, rest, hwhole⟩ := List.exists_cons_of_ne_nil h.ne_nil
  have hd : d.isDigit = true := h.whole d (by rw [hwhole]; exact List.mem_cons_self ..)
  -- A numeral starts with a digit, and none of the names of special values does.
  have hname : ∀ (name : Text), (∀ i < 10, name.head? ≠ some (Char.ofNat (48 + i)).toLower) →
      (n.whole ++ (pointed n.fraction ++ n.exponent.elim [] Exponent.text)).map Char.toLower
      ≠ name := by
    intro name hname heq
    obtain ⟨i, hi, rfl⟩ := exists_digit hd
    rw [hwhole, List.cons_append, List.map_cons] at heq
    exact hname i hi (by rw [← heq]; rfl)
  rw [readFloat?, htrim, h.takeSign_text]
  dsimp only
  rw [if_neg, if_neg (hname _ (by decide)), readMagnitude?_eq, h.decimalParts?_eq, Option.map_some]
  rw [not_or]
  exact ⟨hname _ (by decide), hname _ (by decide)⟩

end Numeral

/-! ## The double that digits denote -/

/-- The digits before are worth their number at the place of the digits behind. -/
theorem foldl_digits (ds : List Nat) (n : Nat) :
    ds.foldl (fun n d => 10 * n + d) n = n * 10 ^ ds.length + numberOfDigits ds := by
  induction ds generalizing n with
  | nil => simp [numberOfDigits]
  | cons d ds ih =>
    rw [numberOfDigits, List.foldl_cons, List.foldl_cons, ih, ih, List.length_cons, pow_succ]
    ring

/-- A number is below the power of ten with as many zeros as it has digits. -/
theorem numberOfDigits_lt {ds : List Nat} (h : ∀ d ∈ ds, d < 10) :
    numberOfDigits ds < 10 ^ ds.length := by
  induction ds with
  | nil => decide
  | cons d ds ih =>
    obtain ⟨hd, hds⟩ := List.forall_mem_cons.1 h
    have := ih hds
    rw [numberOfDigits, List.foldl_cons, foldl_digits, List.length_cons, pow_succ]
    nlinarith

/-- A number is not below the power of ten of its first digit that is no zero. -/
theorem le_numberOfDigits {ds : List Nat} (h : numberOfDigits ds ≠ 0) :
    10 ^ (ds.length - (ds.takeWhile (· = 0)).length - 1) ≤ numberOfDigits ds := by
  induction ds with
  | nil => exact absurd rfl h
  | cons d ds ih =>
    rw [numberOfDigits, List.foldl_cons, foldl_digits] at h ⊢
    by_cases hd : d = 0
    · -- A zero in front changes neither the number nor the count of the other digits.
      subst hd
      rw [Nat.mul_zero, Nat.zero_add, Nat.zero_mul, Nat.zero_add] at h ⊢
      rw [List.takeWhile_cons_of_pos (by simp), List.length_cons, List.length_cons,
        Nat.add_sub_add_right]
      exact ih h
    · rw [List.takeWhile_cons_of_neg (by simpa using hd), List.length_cons, List.length_nil,
        Nat.sub_zero, Nat.add_sub_cancel]
      -- The first digit is one at least, and the rest only adds to it.
      have hone : 1 ≤ 10 * 0 + d := by omega
      calc 10 ^ ds.length = 1 * 10 ^ ds.length := (Nat.one_mul _).symm
        _ ≤ (10 * 0 + d) * 10 ^ ds.length := Nat.mul_le_mul_right _ hone
        _ ≤ (10 * 0 + d) * 10 ^ ds.length + numberOfDigits ds := Nat.le_add_right ..

section

variable {m : Nat} {e : Int}

/-- What lies between the midpoints around a positive double is of the size of doubles. -/
theorem Reads.bounds (h : IsDouble m e) (hm : 0 < m) {q : ℚ} (hr : Reads m e q) {k : Int}
    (hk : 359 ≤ k) : (10 : ℚ) ^ (-k) ≤ q ∧ q < 10 ^ k := by
  have hp := two_zpow_pos e
  have hm' : (1 : ℚ) ≤ m := by exact_mod_cast hm
  have hmost : (m : ℚ) + 1 ≤ 2 ^ 53 := by exact_mod_cast h.lt
  have hgap := gapBelow_le m e
  have hle := h.least
  have hge := h.most
  -- Two to the third power is below ten.
  have hbig : (2 : ℚ) ^ (3 * k) ≤ 10 ^ k := by
    rw [zpow_mul]
    exact zpow_le_zpow_left₀ (by omega) (by norm_num) (by norm_num)
  constructor
  · -- Below the least double but zero lies no midpoint but half of it.
    calc (10 : ℚ) ^ (-k) ≤ 2 ^ (-(3 * k)) := by
          rw [zpow_neg, zpow_neg]
          exact inv_anti₀ (two_zpow_pos _) hbig
      _ ≤ 2 ^ (e + -1) := zpow_le_zpow_right₀ (by norm_num) (by omega)
      _ = 1 / 2 * 2 ^ e := by rw [two_zpow_add, zpow_neg_one, one_div]
      _ ≤ (m - gapBelow m e) * 2 ^ e := by gcongr; linarith
      _ ≤ q := hr.low
  · -- Above the greatest one lies half a unit more.
    calc q ≤ (m + 1 / 2) * 2 ^ e := hr.high
      _ < 2 ^ 53 * 2 ^ e := by gcongr; linarith
      _ = 2 ^ (e + 53) := (two_zpow_add e 53).symm
      _ ≤ 2 ^ (3 * k) := zpow_le_zpow_right₀ (by norm_num) (by omega)
      _ ≤ 10 ^ k := hbig

end

/-- **Digits whose number lies between the midpoints around a double denote it.** -/
theorem scaledFloat_eq {x : Float} {negative : Bool} {m : Nat} {e : Int}
    (hx : Binary.ofFloat x = .finite negative m e) (hm : 0 < m) {ds : List Nat}
    (hds : ∀ d ∈ ds, d < 10) {i : Int} (hr : Reads m e (numberOfDigits ds * 10 ^ i)) :
    scaledFloat negative ds i = x := by
  have h := (toBits_of_ofFloat hx).1
  obtain ⟨k, hk⟩ : ∃ k : Int, k = 400 := ⟨_, rfl⟩
  obtain ⟨hlow, hhigh⟩ := hr.bounds h hm (k := k) (by omega)
  have hu := ten_zpow_pos i
  have hzero : numberOfDigits ds ≠ 0 := by
    intro hzero
    rw [hzero, Nat.cast_zero, zero_mul] at hlow
    exact absurd (ten_zpow_pos (-k)) (not_lt.2 hlow)
  -- The number is neither too small nor too large to be computed.
  have hsmall : ¬ (ds.length : Int) + i < -400 := by
    intro hlt
    have hsize : (numberOfDigits ds : ℚ) * 10 ^ i < 10 ^ ((ds.length : Int) + i) := by
      rw [zpow_add₀ (by norm_num), zpow_natCast]
      gcongr
      exact_mod_cast numberOfDigits_lt hds
    have := (zpow_lt_zpow_iff_right₀ (by norm_num)).1 (hlow.trans_lt hsize)
    omega
  have hlarge : ¬ (400 < (ds.length : Int) + i ∧
      400 + (ds.takeWhile (· = 0)).length < (ds.length : Int) + i) := by
    rintro ⟨-, hlt⟩
    have hsize : (10 : ℚ) ^ ((ds.length - (ds.takeWhile (· = 0)).length - 1 : Nat) + i)
        ≤ numberOfDigits ds * 10 ^ i := by
      rw [zpow_add₀ (by norm_num), zpow_natCast]
      gcongr
      exact_mod_cast le_numberOfDigits hzero
    have := (zpow_lt_zpow_iff_right₀ (by norm_num)).1 (hsize.trans_lt hhigh)
    omega
  rw [scaledFloat.eq_def]
  dsimp only
  rw [if_neg (by simpa [hzero] using hsmall), if_neg hlarge]
  cases i with
  | ofNat i =>
    refine nearestFloat_eq hx (Nat.mul_ne_zero hzero (Nat.pow_pos (by decide)).ne') ?_
    refine nearestBits_eq h
      (Nat.pos_of_ne_zero (Nat.mul_ne_zero hzero (Nat.pow_pos (by decide)).ne'))
      Nat.one_pos ?_
    have hq : ((numberOfDigits ds * Nat.pow 10 i : Nat) : ℚ) / (1 : Nat)
        = numberOfDigits ds * 10 ^ (Int.ofNat i) := by
      rw [Nat.cast_one, div_one, Nat.pow_eq]
      push_cast
      rfl
    rwa [hq]
  | negSucc i =>
    refine nearestFloat_eq hx hzero ?_
    refine nearestBits_eq h (Nat.pos_of_ne_zero hzero) (Nat.pow_pos (by decide)) ?_
    have hq : (numberOfDigits ds : ℚ) / (Nat.pow 10 (i + 1) : Nat)
        = numberOfDigits ds * 10 ^ (Int.negSucc i) := by
      rw [zpow_negSucc, Nat.pow_eq, div_eq_mul_inv]
      push_cast
      rfl
    rwa [hq]

end SchemaDiagram
