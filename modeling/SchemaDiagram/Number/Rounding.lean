/-! # Rounding a quotient

A quotient of two natural numbers is rounded to the nearest natural number, a tie to the even
neighbour. Every decimal and binary notation of this library rounds through it.

* **`divNearest_spec`** — the result is at most half a unit away.
* **`even_divNearest_of_tie`** — a tie goes to the even neighbour. -/

namespace SchemaDiagram

/-- The natural number nearest to `num / den`, the even one of two. -/
def divNearest (num den : Nat) : Nat :=
  let q := num / den
  let r := num % den
  if 2 * r < den then q
  else if den < 2 * r then q + 1
  else if q % 2 = 0 then q else q + 1

/-- The rounded quotient is at most half a unit away from the quotient. -/
theorem divNearest_spec (num den : Nat) (h : 0 < den) :
    2 * num ≤ (2 * divNearest num den + 1) * den ∧
      2 * divNearest num den * den ≤ 2 * num + den := by
  have hdiv := Nat.div_add_mod num den
  have hlt := Nat.mod_lt num h
  unfold divNearest
  generalize num / den = q at *
  generalize num % den = r at *
  subst hdiv
  dsimp only
  split
  next h₁ => constructor <;> grind
  next h₁ =>
    split
    next h₂ => constructor <;> grind
    next h₂ => split <;> constructor <;> grind

/-- A quotient half way between two numbers goes to the even one. -/
theorem even_divNearest_of_tie (num den : Nat) (h : 2 * (num % den) = den) :
    divNearest num den % 2 = 0 := by
  unfold divNearest
  dsimp only
  rw [if_neg (by omega), if_neg (by omega)]
  split <;> omega

end SchemaDiagram
