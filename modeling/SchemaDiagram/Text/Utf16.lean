import SchemaDiagram.Text.Basic

/-! # UTF-16

* **`units16`** — the 16-bit units of a character: one, or two past the first 65536 code points.
* **`encodeUtf16`** — the bytes of a text, the lower one of each unit first. -/

namespace SchemaDiagram

/-- The 16-bit units of a character. -/
def units16 (c : Char) : List Nat :=
  let n := c.toNat
  if n < 0x10000 then [n] else [0xd800 + (n - 0x10000) / 0x400, 0xdc00 + (n - 0x10000) % 0x400]

/-- The bytes of a text, the lower one of each unit first. -/
def encodeUtf16 (s : Text) : List UInt8 :=
  (s.flatMap units16).flatMap fun n => [UInt8.ofNat n, UInt8.ofNat (n / 0x100)]

/-- Every unit has 16 bits. -/
theorem lt_of_mem_units16 {c : Char} {n : Nat} (h : n ∈ units16 c) : n < 0x10000 := by
  have hc : c.toNat < 0x110000 := by
    rcases c.valid with h | ⟨_, h⟩
    · exact Nat.lt_trans h (by decide)
    · exact h
  unfold units16 at h
  generalize c.toNat = k at h hc
  dsimp only at h
  split at h
  next hk => rw [List.mem_singleton] at h; omega
  next hk =>
    rw [List.mem_cons, List.mem_singleton] at h
    rcases h with h | h <;> omega

end SchemaDiagram
