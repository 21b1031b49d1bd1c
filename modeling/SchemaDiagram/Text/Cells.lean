import SchemaDiagram.Text.Basic
import SchemaDiagram.Text.CellWidth

/-! # Texts in cells

A text takes the cells of its characters, with two exceptions: a joiner merges the character
behind it into the one before, and a picture selector widens some characters.

A text is cut only between its *clusters*, a character with all that combines with it. A cut
through the middle of a wide one leaves a space.

* **`Text.cells`** — the cells of a text.
* **`clusters`** — the clusters of a text; `flatten_clusters` says that they make it up.
* **`Text.fitCells`** — a text cut or filled up to a number of cells.
* **`Text.chunks`** — a text in pieces of at most a number of cells. -/

namespace SchemaDiagram

/-- Merges the next character into the one before. -/
def joiner : Char := '\u200d'

/-- Shows the character before it as a picture. -/
def pictureSelector : Char := '\ufe0f'

/-- The cells of a text behind the character `last`, if one can be widened. -/
def cellsAfter (last : Option Char) : Text → Nat
  | [] => 0
  | [c] =>
    if c = joiner then 0
    else if c = pictureSelector then if last.any isWidened then 1 else 0
    else cellWidth c
  | c :: d :: rest =>
    if c = joiner then cellsAfter last rest
    else if c = pictureSelector then
      (if last.any isWidened then 1 else 0) + cellsAfter none (d :: rest)
    else
      cellWidth c + cellsAfter (if cellWidth c = 0 then last else some c) (d :: rest)

/-- The number of cells of a text. -/
def Text.cells (s : Text) : Nat := cellsAfter none s

@[simp] theorem Text.cells_nil : Text.cells [] = 0 := rfl

/-! ## Clusters -/

/-- A character with all that combines with it. -/
structure Cluster where
  /-- Its characters. -/
  text : Text
  /-- Its cells. -/
  width : Nat
deriving DecidableEq, Repr

/-- The clusters of a text behind those in `done`, the last one first. -/
def clustersFrom (done : List Cluster) (last : Option Char) : Text → List Cluster
  | [] => done.reverse
  | c :: rest =>
    let own : Cluster := ⟨[c], cellWidth c⟩
    match done with
    -- Nothing stands before the first character that it could combine with.
    | [] => clustersFrom [own] (if own.width = 0 then none else some c) rest
    | g :: before =>
      if c = joiner then
        match rest with
        | [] => ((⟨g.text ++ [c], g.width⟩ : Cluster) :: before).reverse
        | d :: rest => clustersFrom (⟨g.text ++ [c, d], g.width⟩ :: before) last rest
      else if c = pictureSelector ∧ last.any isWidened then
        clustersFrom (⟨g.text ++ [c], g.width + 1⟩ :: before) none rest
      else if own.width = 0 then clustersFrom (⟨g.text ++ [c], g.width⟩ :: before) last rest
      else clustersFrom (own :: g :: before) (some c) rest

/-- The clusters of a text. -/
def clusters (s : Text) : List Cluster := clustersFrom [] none s

/-- The clusters hold all characters in their order. -/
theorem flatten_clustersFrom (done : List Cluster) (last : Option Char) (s : Text) :
    ((clustersFrom done last s).map Cluster.text).flatten =
      (done.reverse.map Cluster.text).flatten ++ s := by
  fun_induction clustersFrom done last s with
  | case1 => simp
  | case2 last c rest own ih => simpa [own] using ih
  | case3 => simp
  | case4 last g before d rest ih => simpa using ih
  | case5 last c rest g before hj hp ih => simpa using ih
  | case6 last c rest own g before hj hp h0 ih => simpa using ih
  | case7 last c rest own g before hj hp h0 ih => simpa [own] using ih

/-- The clusters of a text make it up. -/
theorem flatten_clusters (s : Text) : ((clusters s).map Cluster.text).flatten = s := by
  simp [clusters, flatten_clustersFrom]

/-! ## Cutting -/

/-- The clusters within some cells; a space stands for the first half of a wide one. -/
def withinCells : Nat → List Cluster → Text
  | _, [] => []
  | cells, g :: rest =>
    if cells = 0 then []
    else if g.width ≤ cells then g.text ++ withinCells (cells - g.width) rest
    else [' ']

namespace Text

/-- A text with spaces up to some cells, or as much of it as they hold. -/
def fitCells (cells : Nat) (s : Text) : Text :=
  if s.cells ≤ cells then s ++ List.replicate (cells - s.cells) ' '
  else withinCells cells (clusters s)

/-- The clusters in pieces of at most `width` cells, where the first piece holds `current` with
`used` cells. -/
def chunksFrom (width used : Nat) (current : Text) : List Cluster → List Text
  | [] => if used = 0 then [] else [current]
  | g :: rest =>
    if width < used + g.width then current :: chunksFrom width g.width g.text rest
    else chunksFrom width (used + g.width) (current ++ g.text) rest

/-- A text in pieces of at most `width` cells. -/
def chunks (width : Nat) (s : Text) : List Text := chunksFrom width 0 [] (clusters s)

end Text

end SchemaDiagram
