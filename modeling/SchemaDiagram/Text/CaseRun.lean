import SchemaDiagram.Text.Basic

/-! # Runs of letters

The letters of a script and their other case mostly stand in two parallel runs, so a case mapping is
kept as a list of runs. -/

namespace SchemaDiagram

/-- A run of letters `first, first + step, …, last` whose images under a case mapping start at
`image` and keep the same distances. -/
structure CaseRun where
  /-- The first letter of the run. -/
  first : Nat
  /-- The last letter of the run. -/
  last : Nat
  /-- The distance of two neighbours in the run. -/
  step : Nat
  /-- The image of the first letter. -/
  image : Nat

/-- The image of code point `n`, when `n` belongs to the run. -/
def CaseRun.image? (r : CaseRun) (n : Nat) : Option Nat :=
  if r.first ≤ n ∧ n ≤ r.last ∧ (n - r.first) % r.step = 0 then some (r.image + (n - r.first))
  else none

end SchemaDiagram
