/-! # Sets of code points

A Unicode property is a set of code points made of stretches. It is kept as the increasing list of
the points where membership flips: the first stretch starts at the first entry and ends before the
second, and so on. -/

namespace SchemaDiagram

/-- A set of code points, by the points where membership flips. -/
structure CodePointSet where
  /-- Start of the first stretch, end of it (exclusive), start of the second, … -/
  flips : List Nat

namespace CodePointSet

/-- Membership of `n` where membership is `inside` before the first flip. -/
def containsFrom (inside : Bool) : List Nat → Nat → Bool
  | [], _ => inside
  | flip :: rest, n => if n < flip then inside else containsFrom (!inside) rest n

/-- Whether code point `n` belongs to the set. -/
def contains (s : CodePointSet) (n : Nat) : Bool := containsFrom false s.flips n

@[simp] theorem contains_empty (n : Nat) : contains ⟨[]⟩ n = false := rfl

end CodePointSet

end SchemaDiagram
