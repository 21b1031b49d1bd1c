import SchemaDiagram.Text.Basic

/-! # Similar words

Two words are compared by what they share: the longest part that both contain, then what is shared
before it and behind it. A word is similar to another one if the shared characters make up at least
three fifths of both.

* **`sharedLength`** — how many characters two words share.
* **`similarWords`** — at most three words similar to a given one. -/

namespace SchemaDiagram

/-- The length of the common start of two words. -/
def commonHead : Text → Text → Nat
  | x :: xs, y :: ys => if x = y then commonHead xs ys + 1 else 0
  | _, _ => 0

@[simp] theorem commonHead_self (s : Text) : commonHead s s = s.length := by
  induction s with
  | nil => rfl
  | cons c s ih => simp [commonHead, ih]

/-- A part that two words have in common. -/
structure CommonPart where
  /-- Where it starts in the first word. -/
  first : Nat
  /-- Where it starts in the second word. -/
  second : Nat
  /-- Its length. -/
  length : Nat
deriving DecidableEq, Repr

/-- The longest common part, of several the one that starts first. -/
def longestCommonPart (s t : Text) : CommonPart :=
  (List.range s.length).foldl (fun best i =>
    (List.range t.length).foldl (fun best j =>
      let n := commonHead (s.drop i) (t.drop j)
      if best.length < n then ⟨i, j, n⟩ else best) best) ⟨0, 0, 0⟩

/-- How many characters two words share, with at most `depth` nested common parts. -/
def sharedWithin : (depth : Nat) → Text → Text → Nat
  | 0, _, _ => 0
  | depth + 1, s, t =>
    let part := longestCommonPart s t
    if part.length = 0 then 0
    else
      sharedWithin depth (s.take part.first) (t.take part.second) + part.length +
        sharedWithin depth (s.drop (part.first + part.length)) (t.drop (part.second + part.length))

/-- How many characters two words share. -/
def sharedLength (s t : Text) : Nat := sharedWithin s.length s t

/-- How much of two words is shared, as a fraction. -/
structure Similarity where
  /-- The shared characters. -/
  shared : Nat
  /-- All characters. -/
  total : Nat
deriving DecidableEq, Repr

namespace Similarity

/-- The similarity of two words. -/
def ofWords (s t : Text) : Similarity := ⟨2 * sharedLength s t, s.length + t.length⟩

/-- Whether the words count as similar. -/
def isHigh (a : Similarity) : Bool := 3 * a.total ≤ 5 * a.shared

/-- Whether the first similarity is at least the second one. -/
def atLeast (a b : Similarity) : Bool := b.shared * a.total ≤ a.shared * b.total

end Similarity

/-- The words similar to a given one: at most three, the most similar ones, in code point order. -/
def similarWords (wanted : Text) (words : List Text) : List Text :=
  let rated := (words.map fun w => (Similarity.ofWords w wanted, w)).filter (·.1.isHigh)
  -- Of two equally similar words the later one in code point order is better.
  let better (a b : Similarity × Text) : Bool :=
    a.1.atLeast b.1 && (!b.1.atLeast a.1 || Text.precedes b.2 a.2)
  Text.sort (((rated.mergeSort better).take 3).map (·.2))

end SchemaDiagram
