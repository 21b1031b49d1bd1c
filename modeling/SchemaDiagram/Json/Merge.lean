import SchemaDiagram.Json
import SchemaDiagram.Number.Mixed

/-! # Merging data documents

* **`Json.merge`** — one document over another one: maps are merged key by key.
* **`Json.isBlank`** — whether a document counts as nothing.
* **`Json.ofEntries`** — the map that entries with keys of any kind make. -/

namespace SchemaDiagram.Json

/-! ## Keys of any kind -/

/-- The whole number or double of a key that counts as a number; truth values count as one and
zero. -/
def keyNumber? : Json → Option Mixed
  | bool b => some (.whole (if b then 1 else 0))
  | int n => some (.whole n)
  | float x => some (match exactInt? x with
    | some n => .whole n
    | none => .real x)
  | _ => none

/-- Whether two keys are one: numbers by their value, texts and moments by what they are. -/
def isSameKey (a b : Json) : Bool :=
  match a, b with
  | null, null => true
  | text s, text t => s = t
  | moment m, moment n => m = n
  | _, _ =>
    match a.keyNumber?, b.keyNumber? with
    | some (.whole m), some (.whole n) => m = n
    | some (.real x), some (.real y) => x.toBits = y.toBits
    | _, _ => false

/-- The value under a key among some entries. -/
def valueOf? (key : Json) (entries : List (Json × Json)) : Option Json :=
  (entries.find? fun entry => entry.1.isSameKey key).map (·.2)

/-- The entries with a key bound to a value; a known key stays where it is. -/
def placed (key value : Json) : List (Json × Json) → List (Json × Json)
  | [] => [(key, value)]
  | (k, v) :: rest =>
    if k.isSameKey key then (k, value) :: rest else (k, v) :: placed key value rest

/-- The text that a key is. -/
def keyText? : Json → Option Text
  | text s => some s
  | _ => none

/-- The entries whose keys are texts. -/
def textMembers (entries : List (Json × Json)) : OrderedMap Json :=
  entries.filterMap fun (key, value) => key.keyText?.map (·, value)

/-- The map that writing the entries one after another makes. -/
def ofEntries (entries : List (Json × Json)) : Json :=
  let kept := entries.foldl (fun kept (key, value) => placed key value kept) []
  if kept.all fun entry => entry.1.keyText?.isSome then object (textMembers kept) else table kept

/-- The entries of a map. -/
def entries? : Json → Option (List (Json × Json))
  | object members => some (members.map fun (key, value) => (text key, value))
  | table entries => some entries
  | _ => none

/-! ## Merging -/

mutual

/-- A value over another one: maps are merged key by key, any other value replaces the one below. -/
def merge (base : Json) : Json → Json
  | object members =>
    match base with
    | object below => object (mergeMembers below members)
    | table below => table (placeMembers below members)
    | _ => object members
  | table entries =>
    match base.entries? with
    | some below => table (placeEntries below entries)
    | none => table entries
  | value => value

/-- The members of a map over those of another one. -/
def mergeMembers (below : OrderedMap Json) : List (Text × Json) → OrderedMap Json
  | [] => below
  | (key, value) :: rest =>
    mergeMembers (below.insert key (match below.get? key with
      | some base => merge base value
      | none => value)) rest

/-- The members of a map over the entries of one whose keys are of any kind. -/
def placeMembers (below : List (Json × Json)) : List (Text × Json) → List (Json × Json)
  | [] => below
  | (key, value) :: rest =>
    placeMembers (placed (text key) (match valueOf? (text key) below with
      | some base => merge base value
      | none => value) below) rest

/-- The entries of a map over those of another one, both with keys of any kind. -/
def placeEntries (below : List (Json × Json)) : List (Json × Json) → List (Json × Json)
  | [] => below
  | (key, value) :: rest =>
    placeEntries (placed key (match valueOf? key below with
      | some base => merge base value
      | none => value) below) rest

end

/-- Whether a value counts as nothing: no value, false, zero, and whatever is empty. -/
def isBlank : Json → Bool
  | null => true
  | bool b => !b
  | int n => n == 0
  | float x => x == 0
  | text s => s.isEmpty
  | list items => items.isEmpty
  | object members => members.isEmpty
  | moment _ => false
  | table entries => entries.isEmpty

end SchemaDiagram.Json
