import Mathlib.Data.List.Forall2

/-! # Calculations that can fail

A calculation of several parts comes to a result just if each of its parts does.

* **`bind_eq_ok_iff`**, **`exists_bind_bind_iff`** — one part after another.
* **`mapM_eq_ok_iff`**, **`exists_mapM_eq_ok_iff`** — the same for all parts of a list. -/

namespace SchemaDiagram

variable {α β ε : Type} {f : α → Except ε β}

/-- One part after another. -/
theorem bind_eq_ok_iff {x : Except ε α} {y : β} :
    x >>= f = .ok y ↔ ∃ a, x = .ok a ∧ f a = .ok y := by
  constructor
  · intro h
    cases x with
    | error e => cases h
    | ok a => exact ⟨a, rfl, h⟩
  · rintro ⟨a, rfl, h⟩
    exact h

/-- What a result is used for does not fail. -/
theorem exists_bind_iff {γ : Type} {x : Except ε α} {g : α → γ} :
    (∃ c, (do return g (← x) : Except ε γ) = .ok c) ↔ ∃ a, x = .ok a := by
  constructor
  · rintro ⟨c, h⟩
    obtain ⟨a, ha, -⟩ := bind_eq_ok_iff.1 h
    exact ⟨a, ha⟩
  · rintro ⟨a, ha⟩
    exact ⟨g a, bind_eq_ok_iff.2 ⟨a, ha, rfl⟩⟩

/-- **Two parts one after the other** come to a result just if each of them does. -/
theorem exists_bind_bind_iff {γ : Type} {x : Except ε α} {y : Except ε β} {g : α → β → γ} :
    (∃ c, (do return g (← x) (← y) : Except ε γ) = .ok c) ↔ (∃ a, x = .ok a) ∧ ∃ b, y = .ok b := by
  constructor
  · rintro ⟨c, h⟩
    obtain ⟨a, ha, h⟩ := bind_eq_ok_iff.1 h
    obtain ⟨b, hb, -⟩ := bind_eq_ok_iff.1 h
    exact ⟨⟨a, ha⟩, b, hb⟩
  · rintro ⟨⟨a, ha⟩, b, hb⟩
    exact ⟨g a b, bind_eq_ok_iff.2 ⟨a, ha, bind_eq_ok_iff.2 ⟨b, hb, rfl⟩⟩⟩

/-- The parts of a list, each with its result. -/
theorem mapM_eq_ok_iff {xs : List α} {ys : List β} :
    xs.mapM f = .ok ys ↔ List.Forall₂ (fun x y => f x = .ok y) xs ys := by
  induction xs generalizing ys with
  | nil =>
    rw [List.mapM_nil, List.forall₂_nil_left_iff]
    exact ⟨fun h => (Except.ok.inj h).symm, fun h => h ▸ rfl⟩
  | cons x xs ih =>
    rw [List.mapM_cons]
    constructor
    · -- The first part has a result, and so have the others.
      intro h
      obtain ⟨y, hy, h⟩ := bind_eq_ok_iff.1 h
      obtain ⟨ys', hys, h⟩ := bind_eq_ok_iff.1 h
      obtain rfl := Except.ok.inj h
      exact .cons hy (ih.1 hys)
    · rintro (_ | ⟨hy, hys⟩)
      exact bind_eq_ok_iff.2 ⟨_, hy, bind_eq_ok_iff.2 ⟨_, ih.2 hys, rfl⟩⟩

/-- Every result is that of a part. -/
theorem exists_mem_of_mapM_eq_ok {xs : List α} {ys : List β} (h : xs.mapM f = .ok ys) {y : β}
    (hy : y ∈ ys) :
    ∃ x ∈ xs, f x = .ok y := by
  have hall := mapM_eq_ok_iff.1 h
  induction hall with
  | nil => cases hy
  | cons hx hrest ih =>
    rcases List.mem_cons.1 hy with rfl | hy
    · exact ⟨_, List.mem_cons_self, hx⟩
    · obtain ⟨x, hmem, hx⟩ := ih (mapM_eq_ok_iff.2 hrest) hy
      exact ⟨x, List.mem_cons_of_mem _ hmem, hx⟩

/-- **All parts of a list** come to a result just if each of them does. -/
theorem exists_mapM_eq_ok_iff {xs : List α} :
    (∃ ys, xs.mapM f = .ok ys) ↔ ∀ x ∈ xs, ∃ y, f x = .ok y := by
  induction xs with
  | nil => exact ⟨fun _ => nofun, fun _ => ⟨[], rfl⟩⟩
  | cons x xs ih =>
    rw [List.forall_mem_cons, ← ih]
    constructor
    · rintro ⟨ys, h⟩
      obtain _ | ⟨hy, hys⟩ := mapM_eq_ok_iff.1 h
      exact ⟨⟨_, hy⟩, _, mapM_eq_ok_iff.2 hys⟩
    · rintro ⟨⟨y, hy⟩, ys, hys⟩
      exact ⟨y :: ys, mapM_eq_ok_iff.2 (.cons hy (mapM_eq_ok_iff.1 hys))⟩

end SchemaDiagram
