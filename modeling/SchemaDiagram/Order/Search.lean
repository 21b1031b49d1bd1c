/-! # Searching a place

A place in a list is found by asking of single elements whether they stand before it. Where the
elements that do make up a start of the list, both searches find the length of that start; for any
other answers they still find one definite place.

* **`bisect`** — halves the stretch in which the place is.
* **`gallop`** — walks away from a hint in growing steps and halves the last step. -/

namespace SchemaDiagram

/-- The place from `low` up to `high`; `isBefore i` says whether element `i` stands before it. -/
def bisect (isBefore : Nat → Bool) : (fuel low high : Nat) → Nat
  | 0, low, _ => low
  | fuel + 1, low, high =>
    if low < high then
      let middle := low + (high - low) / 2
      if isBefore middle then bisect isBefore fuel (middle + 1) high
      else bisect isBefore fuel low middle
    else low

/-- The last step that stays on this side of the place, and the first one that does not or reaches
`limit`: each step is one more than twice the one before. -/
def strides (isPassed : Nat → Bool) (limit : Nat) : (fuel last step : Nat) → Nat × Nat
  | 0, last, step => (last, min step limit)
  | fuel + 1, last, step =>
    if step < limit && isPassed step then strides isPassed limit fuel step (2 * step + 1)
    else (last, min step limit)

/-- The place among `size` elements, looked for near `hint`. -/
def gallop (isBefore : Nat → Bool) (size hint : Nat) : Nat :=
  if isBefore hint then
    let (last, step) := strides (fun n => isBefore (hint + n)) (size - hint) size 0 1
    bisect isBefore size (hint + last + 1) (hint + step)
  else
    let (last, step) := strides (fun n => !isBefore (hint - n)) (hint + 1) size 0 1
    bisect isBefore size (hint + 1 - step) (hint - last)

end SchemaDiagram
