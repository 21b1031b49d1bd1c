import SchemaDiagram.Text.Utf8

/-! # UTF-8 forth and back

A text and its bytes tell each other: bytes are decoded to a text when they are the bytes of that
text, and only then.

* **`utf8Bytes_of_decodeChar`**, **`decodeChar_utf8Bytes`** — a character is decoded where its bytes
  stand, and only there.
* **`decodeUtf8_eq_ok_iff`** — bytes are decoded to the text whose bytes they are. -/

namespace SchemaDiagram

/-! ## First bytes -/

section

variable {first : Nat}

/-- A byte below 80 stands alone. -/
theorem utf8Form?_one (h : first < 0x80) : utf8Form? first = some (0, 0x80, 0xbf) := by
  rw [utf8Form?, if_pos h]

/-- A byte from c2 on and below e0 is followed by one more. -/
theorem utf8Form?_two (h : 0xc2 ≤ first ∧ first < 0xe0) :
    utf8Form? first = some (1, 0x80, 0xbf) := by
  rw [utf8Form?, if_neg (by omega), if_neg (by omega), if_pos h.2]

/-- The second of three bytes keeps away from overlong forms and from surrogates. -/
theorem utf8Form?_three (h : 0xe0 ≤ first ∧ first < 0xf0) : utf8Form? first
    = some (2, if first = 0xe0 then 0xa0 else 0x80, if first = 0xed then 0x9f else 0xbf) := by
  rw [utf8Form?, if_neg (by omega), if_neg (by omega), if_neg (by omega)]
  by_cases h₁ : first = 0xe0
  · simp [h₁]
  · by_cases h₂ : first = 0xed
    · simp [h₂]
    · simp [h₁, h₂, h.2]

/-- The second of four bytes keeps away from overlong forms and from what is no code point. -/
theorem utf8Form?_four (h : 0xf0 ≤ first ∧ first < 0xf5) : utf8Form? first
    = some (3, if first = 0xf0 then 0x90 else 0x80, if first = 0xf4 then 0x8f else 0xbf) := by
  rw [utf8Form?, if_neg (by omega), if_neg (by omega), if_neg (by omega), if_neg (by omega),
    if_neg (by omega), if_neg (by omega)]
  by_cases h₁ : first = 0xf0
  · simp [h₁]
  · by_cases h₂ : first = 0xf4
    · simp [h₂]
    · have h₃ : first < 0xf4 := by omega
      simp [h₁, h₂, h₃]

/-- Every other byte starts no character. -/
theorem utf8Form?_none (h : 0x80 ≤ first ∧ first < 0xc2 ∨ 0xf5 ≤ first) :
    utf8Form? first = none := by
  unfold utf8Form?
  repeat' split
  all_goals first | rfl | omega

end

/-! ## Bytes that continue a character -/

/-- All bytes that are asked for continue the character. -/
theorem continued_succ_iff {low high count : Nat} {rest : List UInt8} :
    continued low high (count + 1) rest = count + 1 ↔ ∃ b after, rest = b :: after ∧
      low ≤ b.toNat ∧ b.toNat ≤ high ∧ continued 0x80 0xbf count after = count := by
  cases rest with
  | nil => simp [continued]
  | cons b after =>
    rw [continued]
    -- The byte is in its bounds, and the others have to continue it.
    split
    next h =>
      rw [Nat.add_comm 1, Nat.add_right_cancel_iff]
      constructor
      · exact fun hcount => ⟨b, after, rfl, h.1, h.2, hcount⟩
      · rintro ⟨b', after', heq, -, -, hcount⟩
        obtain ⟨-, rfl⟩ := List.cons.inj heq
        exact hcount
    next h =>
      refine iff_of_false (by omega) ?_
      rintro ⟨b', after', heq, hlow, hhigh, -⟩
      obtain ⟨rfl, -⟩ := List.cons.inj heq
      exact h ⟨hlow, hhigh⟩

/-- Where nothing is to follow, nothing is counted. -/
theorem continued_zero (low high : Nat) (rest : List UInt8) : continued low high 0 rest = 0 := by
  rw [continued]

/-! ## Characters -/

/-- A code point outside the surrogates is the one of its character. -/
theorem toNat_ofNat_of_valid {n : Nat} (h : n < 0xd800 ∨ 0xdfff < n ∧ n < 0x110000) :
    (Char.ofNat n).toNat = n := by
  rw [Char.ofNat, dif_pos h]
  rfl

/-- The code point of a character is none of the surrogates. -/
theorem toNat_valid (c : Char) : c.toNat < 0xd800 ∨ 0xdfff < c.toNat ∧ c.toNat < 0x110000 :=
  c.valid

/-- A byte is made of its number. -/
theorem uint8_ofNat_eq {n : Nat} {b : UInt8} (h : n = b.toNat) : UInt8.ofNat n = b := by
  rw [h, UInt8.ofNat_toNat]

/-- A number below 100 is that of a byte. -/
theorem toNat_uint8_ofNat {n : Nat} (h : n < 0x100) : (UInt8.ofNat n).toNat = n := by
  rw [UInt8.toNat_ofNat', Nat.mod_eq_of_lt h]

section

variable {first b₁ b₂ b₃ : UInt8}

/-- One byte is a character by itself. -/
theorem utf8Bytes_one (h : first.toNat < 0x80) : utf8Bytes (Char.ofNat first.toNat) = [first] := by
  rw [utf8Bytes, toNat_ofNat_of_valid (by omega), if_pos h, uint8_ofNat_eq rfl]

/-- A character is written in the two bytes that it is read from. -/
theorem utf8Bytes_two (h : 0xc2 ≤ first.toNat ∧ first.toNat < 0xe0)
    (h₁ : 0x80 ≤ b₁.toNat ∧ b₁.toNat ≤ 0xbf) :
    utf8Bytes (Char.ofNat (first.toNat % 0x20 * 0x40 + b₁.toNat % 0x40)) = [first, b₁] := by
  rw [utf8Bytes, toNat_ofNat_of_valid (by omega), if_neg (by omega), if_pos (by omega)]
  dsimp only
  rw [uint8_ofNat_eq (b := first) (by omega), uint8_ofNat_eq (b := b₁) (by omega)]

/-- A character is written in the three bytes that it is read from. -/
theorem utf8Bytes_three (h : 0xe0 ≤ first.toNat ∧ first.toNat < 0xf0)
    (h₁ : 0x80 ≤ b₁.toNat ∧ b₁.toNat ≤ 0xbf) (hlow : first.toNat = 0xe0 → 0xa0 ≤ b₁.toNat)
    (hhigh : first.toNat = 0xed → b₁.toNat ≤ 0x9f) (h₂ : 0x80 ≤ b₂.toNat ∧ b₂.toNat ≤ 0xbf) :
    utf8Bytes (Char.ofNat ((first.toNat % 0x10 * 0x40 + b₁.toNat % 0x40) * 0x40 + b₂.toNat % 0x40))
      = [first, b₁, b₂] := by
  rw [utf8Bytes, toNat_ofNat_of_valid (by omega), if_neg (by omega), if_neg (by omega),
    if_pos (by omega)]
  dsimp only
  rw [uint8_ofNat_eq (b := first) (by omega), uint8_ofNat_eq (b := b₁) (by omega),
    uint8_ofNat_eq (b := b₂) (by omega)]

/-- A character is written in the four bytes that it is read from. -/
theorem utf8Bytes_four (h : 0xf0 ≤ first.toNat ∧ first.toNat < 0xf5)
    (h₁ : 0x80 ≤ b₁.toNat ∧ b₁.toNat ≤ 0xbf) (hlow : first.toNat = 0xf0 → 0x90 ≤ b₁.toNat)
    (hhigh : first.toNat = 0xf4 → b₁.toNat ≤ 0x8f) (h₂ : 0x80 ≤ b₂.toNat ∧ b₂.toNat ≤ 0xbf)
    (h₃ : 0x80 ≤ b₃.toNat ∧ b₃.toNat ≤ 0xbf) :
    utf8Bytes (Char.ofNat (((first.toNat % 0x08 * 0x40 + b₁.toNat % 0x40) * 0x40 + b₂.toNat % 0x40)
      * 0x40 + b₃.toNat % 0x40)) = [first, b₁, b₂, b₃] := by
  rw [utf8Bytes, toNat_ofNat_of_valid (by omega), if_neg (by omega), if_neg (by omega),
    if_neg (by omega)]
  dsimp only
  rw [uint8_ofNat_eq (b := first) (by omega), uint8_ofNat_eq (b := b₁) (by omega),
    uint8_ofNat_eq (b := b₂) (by omega), uint8_ofNat_eq (b := b₃) (by omega)]

end

section

variable {first : UInt8} {rest : List UInt8} {c : Char} {count : Nat}

/-- A character is decoded where enough bytes continue it. -/
theorem decodeChar_of_form {n low high : Nat}
    (hform : utf8Form? first.toNat = some (n, low, high)) :
    decodeChar first rest = .ok (c, count) ↔ continued low high n rest = n ∧
      c = Char.ofNat (utf8Value first.toNat n rest) ∧ count = n := by
  rw [decodeChar, hform]
  dsimp only
  split
  next hfound => simp [hfound, eq_comm]
  next hfound =>
    refine iff_of_false ?_ (fun h => hfound h.1)
    split <;> simp

/-- **The bytes of a decoded character** stand where it is decoded. -/
theorem utf8Bytes_of_decodeChar (h : decodeChar first rest = .ok (c, count)) :
    utf8Bytes c = first :: rest.take count := by
  -- The first byte tells how many bytes follow, and in which bounds the second one lies.
  by_cases hone : first.toNat < 0x80
  · obtain ⟨-, rfl, rfl⟩ := (decodeChar_of_form (utf8Form?_one hone)).1 h
    exact utf8Bytes_one hone
  by_cases htwo : 0xc2 ≤ first.toNat ∧ first.toNat < 0xe0
  · obtain ⟨hrest, rfl, rfl⟩ := (decodeChar_of_form (utf8Form?_two htwo)).1 h
    obtain ⟨b₁, after, rfl, hlow, hhigh, -⟩ := continued_succ_iff.1 hrest
    exact utf8Bytes_two htwo ⟨hlow, hhigh⟩
  by_cases hthree : 0xe0 ≤ first.toNat ∧ first.toNat < 0xf0
  · obtain ⟨hrest, rfl, rfl⟩ := (decodeChar_of_form (utf8Form?_three hthree)).1 h
    obtain ⟨b₁, after, rfl, hlow, hhigh, hrest⟩ := continued_succ_iff.1 hrest
    obtain ⟨b₂, after, rfl, h₂, h₂', -⟩ := continued_succ_iff.1 hrest
    refine utf8Bytes_three hthree ?_ (fun heq => ?_) (fun heq => ?_) ⟨h₂, h₂'⟩
    · split at hlow <;> split at hhigh <;> omega
    · rwa [if_pos heq] at hlow
    · rwa [if_pos heq] at hhigh
  by_cases hfour : 0xf0 ≤ first.toNat ∧ first.toNat < 0xf5
  · obtain ⟨hrest, rfl, rfl⟩ := (decodeChar_of_form (utf8Form?_four hfour)).1 h
    obtain ⟨b₁, after, rfl, hlow, hhigh, hrest⟩ := continued_succ_iff.1 hrest
    obtain ⟨b₂, after, rfl, h₂, h₂', hrest⟩ := continued_succ_iff.1 hrest
    obtain ⟨b₃, after, rfl, h₃, h₃', -⟩ := continued_succ_iff.1 hrest
    refine utf8Bytes_four hfour ?_ (fun heq => ?_) (fun heq => ?_) ⟨h₂, h₂'⟩ ⟨h₃, h₃'⟩
    · split at hlow <;> split at hhigh <;> omega
    · rwa [if_pos heq] at hlow
    · rwa [if_pos heq] at hhigh
  · rw [decodeChar, utf8Form?_none (by omega)] at h
    cases h

end

/-- **A character is decoded from its bytes**, whatever stands behind them. -/
theorem decodeChar_utf8Bytes (c : Char) (after : List UInt8) :
    ∃ first tail, utf8Bytes c = first :: tail ∧
      decodeChar first (tail ++ after) = .ok (c, tail.length) := by
  have hvalid := toNat_valid c
  generalize hn : c.toNat = n at hvalid
  obtain rfl : Char.ofNat n = c := by rw [← hn, Char.ofNat_toNat]
  have htail : ∀ m, (UInt8.ofNat (0x80 + m % 0x40)).toNat = 0x80 + m % 0x40 :=
    fun m => toNat_uint8_ofNat (by omega)
  rw [utf8Bytes, hn]
  dsimp only
  -- The cases are those of the number of bytes; in each one the value is put together again.
  by_cases hone : n < 0x80
  · have hfirst : (UInt8.ofNat n).toNat = n := toNat_uint8_ofNat (by omega)
    rw [if_pos hone]
    refine ⟨_, [], rfl, (decodeChar_of_form (utf8Form?_one (by omega))).2 ⟨rfl, ?_, rfl⟩⟩
    rw [utf8Value, hfirst]
    rfl
  by_cases htwo : n < 0x800
  · have hfirst : (UInt8.ofNat (0xc0 + n / 0x40)).toNat = 0xc0 + n / 0x40 :=
      toNat_uint8_ofNat (by omega)
    rw [if_neg hone, if_pos htwo]
    refine ⟨_, [_], rfl, (decodeChar_of_form (utf8Form?_two (by omega))).2 ⟨?_, ?_, rfl⟩⟩
    · exact continued_succ_iff.2 ⟨_, after, rfl, by rw [htail]; omega, by rw [htail]; omega,
        continued_zero _ _ _⟩
    · simp only [utf8Value, List.cons_append, List.take_succ_cons, List.foldl_cons, hfirst, htail]
      refine congrArg Char.ofNat ?_
      simp only [List.nil_append, List.take_zero, List.foldl_nil]
      omega
  by_cases hthree : n < 0x10000
  · have hfirst : (UInt8.ofNat (0xe0 + n / 0x1000)).toNat = 0xe0 + n / 0x1000 :=
      toNat_uint8_ofNat (by omega)
    rw [if_neg hone, if_neg htwo, if_pos hthree]
    refine ⟨_, [_, _], rfl, (decodeChar_of_form (utf8Form?_three (by omega))).2 ⟨?_, ?_, rfl⟩⟩
    · refine continued_succ_iff.2 ⟨_, _, rfl, ?_, ?_, continued_succ_iff.2 ⟨_, after, rfl, ?_, ?_,
        continued_zero _ _ _⟩⟩ <;> rw [htail]
      · split <;> omega
      · split <;> omega
      · omega
      · omega
    · simp only [utf8Value, List.cons_append, List.take_succ_cons, List.foldl_cons, hfirst, htail]
      refine congrArg Char.ofNat ?_
      simp only [List.nil_append, List.take_zero, List.foldl_nil]
      omega
  · have hfirst : (UInt8.ofNat (0xf0 + n / 0x40000)).toNat = 0xf0 + n / 0x40000 :=
      toNat_uint8_ofNat (by omega)
    rw [if_neg hone, if_neg htwo, if_neg hthree]
    refine ⟨_, [_, _, _], rfl, (decodeChar_of_form (utf8Form?_four (by omega))).2 ⟨?_, ?_, rfl⟩⟩
    · refine continued_succ_iff.2 ⟨_, _, rfl, ?_, ?_, continued_succ_iff.2 ⟨_, _, rfl, ?_, ?_,
        continued_succ_iff.2 ⟨_, after, rfl, ?_, ?_, continued_zero _ _ _⟩⟩⟩ <;> rw [htail]
      · split <;> omega
      · split <;> omega
      all_goals omega
    · simp only [utf8Value, List.cons_append, List.take_succ_cons, List.foldl_cons, hfirst, htail]
      refine congrArg Char.ofNat ?_
      simp only [List.nil_append, List.take_zero, List.foldl_nil]
      omega

/-! ## Texts -/

/-- Two texts are encoded one behind the other. -/
theorem encodeUtf8_append (s t : Text) : encodeUtf8 (s ++ t) = encodeUtf8 s ++ encodeUtf8 t :=
  List.flatMap_append

/-- Bytes that are decoded are those of the text. -/
theorem eq_encodeUtf8_of_decode {position : Nat} {bytes : List UInt8} {s : Text}
    (h : decodeUtf8From position bytes = .ok s) : bytes = encodeUtf8 s := by
  fun_induction decodeUtf8From position bytes generalizing s with
  | case1 =>
    obtain rfl := Except.ok.inj h
    rfl
  | case2 => cases h
  | case3 position first rest c count hchar ih =>
    cases hrest : decodeUtf8From (position + 1 + count) (rest.drop count) with
    | error fault =>
      rw [hrest] at h
      cases h
    | ok s' =>
      rw [hrest] at h
      obtain rfl : c :: s' = s := Except.ok.inj h
      -- The bytes of the first character are those that it was decoded from.
      have hbytes : encodeUtf8 (c :: s') = utf8Bytes c ++ encodeUtf8 s' := rfl
      rw [hbytes, utf8Bytes_of_decodeChar hchar, ← ih hrest, List.cons_append,
        List.take_append_drop]

/-- The bytes of a text are decoded to it. -/
theorem decode_encodeUtf8 (position : Nat) (s : Text) :
    decodeUtf8From position (encodeUtf8 s) = .ok s := by
  induction s generalizing position with
  | nil => rw [encodeUtf8, List.flatMap_nil, decodeUtf8From]
  | cons c s ih =>
    obtain ⟨first, tail, hbytes, hchar⟩ := decodeChar_utf8Bytes c (encodeUtf8 s)
    have hcons : encodeUtf8 (c :: s) = first :: (tail ++ encodeUtf8 s) := by
      rw [encodeUtf8, List.flatMap_cons, hbytes]
      rfl
    rw [hcons, decodeUtf8From, hchar]
    dsimp only
    rw [List.drop_left, ih]
    rfl

/-- **Bytes are decoded to a text** when they are its bytes, and only then. -/
theorem decodeUtf8_eq_ok_iff {bytes : List UInt8} {s : Text} :
    decodeUtf8 bytes = .ok s ↔ bytes = encodeUtf8 s := by
  constructor
  · exact eq_encodeUtf8_of_decode
  · rintro rfl
    exact decode_encodeUtf8 0 s

end SchemaDiagram
