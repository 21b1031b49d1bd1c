import SchemaDiagram.Text.Basic

/-! # Splices

A splice replaces one stretch of a text. It is minimal when the stretch and its replacement differ
in their first and in their last characters.

An offset below zero counts from the end of the text, and one outside the text means the nearer end
of it.

* **`Text.place`** — the place in a text that an offset means.
* **`Splice.apply`** — the text with the stretch replaced.
* **`Splice.minimized`** — the smallest splice within a splice that does the same. -/

namespace SchemaDiagram

/-- The place in a text that an offset means. -/
def Text.place (s : Text) (offset : Int) : Nat :=
  if offset < 0 then (s.length + offset).toNat else min offset.toNat s.length

/-- An offset inside the text is its own place. -/
theorem place_natCast {s : Text} {n : Nat} (h : n ≤ s.length) : s.place n = n := by
  rw [Text.place, if_neg (by omega), Int.toNat_natCast, Nat.min_eq_left h]

/-- Every place is inside the text. -/
theorem place_le (s : Text) (offset : Int) : s.place offset ≤ s.length := by
  unfold Text.place
  split <;> omega

/-- The replacement of the characters at offsets `start, …, stop - 1`. -/
structure Splice where
  /-- The first offset that is replaced. -/
  start : Int
  /-- The first offset that is kept again. -/
  stop : Int
  /-- What is written there. -/
  text : Text
deriving DecidableEq, Repr

namespace Splice

/-- The text with the stretch replaced. -/
def apply (s : Splice) (source : Text) : Text :=
  source.take (source.place s.start) ++ s.text ++ source.drop (source.place s.stop)

/-- Whether nothing is removed. -/
def isInsert (s : Splice) : Bool := s.start = s.stop

/-- Whether nothing is removed and nothing is written. -/
def isEmpty (s : Splice) : Bool := s.isInsert && s.text.isEmpty

/-- How many characters two texts have in common at their start. -/
def commonStart : Text → Text → Nat
  | a :: s, b :: t => if a = b then commonStart s t + 1 else 0
  | _, _ => 0

/-- How many characters two texts have in common at their end. -/
def commonEnd (s t : Text) : Nat := commonStart s.reverse t.reverse

/-- The same replacement without the characters that the stretch and its replacement have in common
at the start, and then at the end. -/
def minimized (s : Splice) (source : Text) : Splice :=
  let old := source.slice (source.place s.start) (source.place s.stop)
  let lead := commonStart old s.text
  let old := old.drop lead
  let new := s.text.drop lead
  let tail := commonEnd old new
  ⟨s.start + lead, s.stop - tail, new.take (new.length - tail)⟩

end Splice

end SchemaDiagram
