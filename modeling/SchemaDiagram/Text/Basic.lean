/-! # Texts

A text is a list of characters: offsets count code points, and a cut of a text is a cut of the
list.

* **`Text.slice s start stop`** — the characters at offsets `start, …, stop - 1`.
* **`Text.join sep parts`**, **`Text.splitOn c s`** — pieces of a text and a separator;
  `join_splitOn` says that nothing is lost.
* **`Text.cutLast mark s`** — the parts before and after the last `mark`. -/

namespace SchemaDiagram

/-- A text as the list of its characters. -/
abbrev Text := List Char

instance : Coe String Text := ⟨String.toList⟩

/-- The pieces of a message, one after another. -/
abbrev concat (pieces : List Text) : Text := pieces.flatten

namespace Text

/-- The characters from offset `start` up to, but without, offset `stop`. -/
def slice (s : Text) (start stop : Nat) : Text := (s.drop start).take (stop - start)

@[simp] theorem slice_self (s : Text) (n : Nat) : s.slice n n = [] := by simp [slice]

/-- A whole number in decimal notation. -/
def ofNat (n : Nat) : Text := Nat.toDigits 10 n

/-- An integer in decimal notation, with a minus sign where it is negative. -/
def ofInt : Int → Text
  | .ofNat n => ofNat n
  | .negSucc n => '-' :: ofNat (n + 1)

/-- The parts with `sep` between neighbours. -/
def join (sep : Text) : List Text → Text
  | [] => []
  | [part] => part
  | part :: parts => part ++ sep ++ join sep parts

@[simp] theorem join_nil (sep : Text) : join sep [] = [] := rfl

@[simp] theorem join_singleton (sep part : Text) : join sep [part] = part := rfl

/-- A separator stands between two neighbouring parts. -/
theorem join_cons_cons (sep a b : Text) (parts : List Text) :
    join sep (a :: b :: parts) = a ++ sep ++ join sep (b :: parts) := rfl

/-- The parts between the characters `sep`; a text without one is its only part. -/
def splitOn (sep : Char) : Text → List Text
  | [] => [[]]
  | c :: rest =>
    if c = sep then [] :: splitOn sep rest
    else match splitOn sep rest with
      | [] => [[c]]
      | part :: parts => (c :: part) :: parts

/-- There is always at least one part. -/
theorem splitOn_ne_nil (sep : Char) (s : Text) : splitOn sep s ≠ [] := by
  cases s with
  | nil => simp [splitOn]
  | cons c rest =>
    rw [splitOn]
    split
    next => simp
    next => split <;> simp

/-- Joining the parts with the separator gives the text back. -/
theorem join_splitOn (sep : Char) (s : Text) : join [sep] (splitOn sep s) = s := by
  induction s with
  | nil => rfl
  | cons c rest ih =>
    rw [splitOn]
    split
    next h =>
      subst h
      match hp : splitOn c rest with
      | [] => exact absurd hp (splitOn_ne_nil c rest)
      | part :: parts => rw [join_cons_cons, ← hp, ih]; rfl
    next =>
      match hp : splitOn sep rest with
      | [] => exact absurd hp (splitOn_ne_nil sep rest)
      | [part] => rw [hp] at ih; simpa using ih
      | part :: next :: parts =>
        rw [hp, join_cons_cons] at ih
        rw [join_cons_cons, ← ih]
        rfl

/-- The parts before and after the last `mark`, if there is one. -/
def cutLast (mark : Text) : Text → Option (Text × Text)
  | [] => none
  | c :: rest =>
    match cutLast mark rest with
    | some (head, tail) => some (c :: head, tail)
    | none => if mark.isPrefixOf (c :: rest) then some ([], (c :: rest).drop mark.length) else none

/-- The cut loses only the mark. -/
theorem eq_of_cutLast {mark s head tail : Text} (h : cutLast mark s = some (head, tail)) :
    s = head ++ mark ++ tail := by
  induction s generalizing head with
  | nil => simp [cutLast] at h
  | cons c rest ih =>
    rw [cutLast] at h
    split at h
    next hd tl hcut =>
      simp only [Option.some.injEq, Prod.mk.injEq] at h
      obtain ⟨rfl, rfl⟩ := h
      rw [ih hcut, List.cons_append, List.cons_append]
    next =>
      split at h
      next hmark =>
        simp only [Option.some.injEq, Prod.mk.injEq] at h
        obtain ⟨rfl, rfl⟩ := h
        exact (List.prefix_iff_eq_append.1 (List.isPrefixOf_iff_prefix.1 hmark)).symm
      next => simp at h

/-- The parts before and after the first `sep`, if there is one. -/
def cutFirst (sep : Char) : Text → Option (Text × Text)
  | [] => none
  | c :: rest =>
    if c = sep then some ([], rest)
    else (cutFirst sep rest).map fun (head, tail) => (c :: head, tail)

/-- Whether `part` occurs in the text. -/
def hasPart (part : Text) : Text → Bool
  | [] => part.isEmpty
  | c :: rest => part.isPrefixOf (c :: rest) || hasPart part rest

/-- The text without the start `head`, when it has that start. -/
def dropHead? (head : Text) (s : Text) : Option Text :=
  if head.isPrefixOf s then some (s.drop head.length) else none

/-- Removes `head` from the start of the text where it is there. -/
def dropHead (head : Text) (s : Text) : Text := (dropHead? head s).getD s

/-- The text without the characters `c` at its end. -/
def dropTail (c : Char) (s : Text) : Text := (s.reverse.dropWhile (· = c)).reverse

/-- The text padded with `fill` on the left to `width` characters. -/
def padLeftWith (fill : Char) (width : Nat) (s : Text) : Text :=
  List.replicate (width - s.length) fill ++ s

/-- The order of texts by code points, first difference first. -/
def precedes : (s t : Text) → Bool
  | [], _ => true
  | _ :: _, [] => false
  | c :: s, d :: t => c.toNat < d.toNat || (c = d && precedes s t)

/-- The texts in code point order, equal ones in their old order. -/
def sort (texts : List Text) : List Text := texts.mergeSort precedes

end Text

end SchemaDiagram
