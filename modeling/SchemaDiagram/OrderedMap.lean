import SchemaDiagram.Text.Basic

/-! # Ordered maps

A map from texts that keeps the order in which its keys came: a key keeps the place of its first
writing and the value of its last one.

* **`get?_insert`** — reading after writing.
* **`keys_insert`** — a new key comes last, a known key stays. -/

namespace SchemaDiagram

/-- A map as the list of its entries. -/
abbrev OrderedMap (α : Type) := List (Text × α)

namespace OrderedMap

variable {α β : Type}

/-- The value of a key. -/
def get? (m : OrderedMap α) (key : Text) : Option α := (m.find? (·.1 = key)).map (·.2)

/-- The keys in order. -/
def keys (m : OrderedMap α) : List Text := m.map (·.1)

/-- The values in the order of their keys. -/
def values (m : OrderedMap α) : List α := m.map (·.2)

/-- The map with `key` bound to `value`. -/
def insert (m : OrderedMap α) (key : Text) (value : α) : OrderedMap α :=
  match m with
  | [] => [(key, value)]
  | (k, v) :: rest => if k = key then (k, value) :: rest else (k, v) :: insert rest key value

/-- The first map with all entries of the second one written into it. -/
def update (m other : OrderedMap α) : OrderedMap α :=
  other.foldl (fun m entry => m.insert entry.1 entry.2) m

/-- The map that writing the entries one after another gives. -/
def ofList (entries : List (Text × α)) : OrderedMap α := update [] entries

/-- The map with every value changed by `f`. -/
def mapValues (f : α → β) (m : OrderedMap α) : OrderedMap β := m.map fun (k, v) => (k, f v)

@[simp] theorem get?_nil (key : Text) : get? ([] : OrderedMap α) key = none := rfl

/-- The inserted value is found under its key, and every other key keeps its value. -/
theorem get?_insert (m : OrderedMap α) (key other : Text) (value : α) :
    (m.insert key value).get? other = if key = other then some value else m.get? other := by
  induction m with
  | nil => by_cases h : key = other <;> simp [insert, get?, h]
  | cons entry rest ih =>
    obtain ⟨k, v⟩ := entry
    by_cases hk : k = key
    · subst hk
      by_cases h : k = other <;> simp [insert, get?, h]
    · by_cases ho : k = other
      · subst ho
        simp [insert, get?, hk, Ne.symm hk]
      · simpa [insert, get?, hk, ho] using ih

/-- A new key comes last, and a key that is there keeps its place. -/
theorem keys_insert (m : OrderedMap α) (key : Text) (value : α) :
    (m.insert key value).keys = if key ∈ m.keys then m.keys else m.keys ++ [key] := by
  induction m with
  | nil => simp [insert, keys]
  | cons entry rest ih =>
    obtain ⟨k, v⟩ := entry
    by_cases hk : k = key
    · subst hk
      simp [insert, keys]
    · simp only [insert, hk, if_false, keys, List.map_cons, List.mem_cons, Ne.symm hk, false_or]
      simp only [keys] at ih
      rw [ih]
      split <;> simp_all

end OrderedMap

end SchemaDiagram
