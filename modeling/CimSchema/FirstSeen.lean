/-!
# Tables in order of first appearance

## Main definitions

* `FirstSeen` - entries, in the order in which their keys came first.
* `FirstSeen.get?` - the value of a key.
* `FirstSeen.upsert` - changes the value of a key, or appends a new entry.
* `addNew` - appends an element that is not there yet.
-/

namespace CimSchema

/-- Appends `x` unless it is there already. -/
def addNew {α : Type} [DecidableEq α] (xs : List α) (x : α) : List α :=
  if x ∈ xs then xs else xs ++ [x]

/-- A table whose entries stand in the order in which their keys came first. -/
structure FirstSeen (κ α : Type) where
  entries : List (κ × α) := []

namespace FirstSeen

variable {κ α : Type} [DecidableEq κ]

/-- Changes the value of `k` in a list of entries by `f`; a new key starts from `fresh`. -/
def upsertList (k : κ) (fresh : α) (f : α → α) : List (κ × α) → List (κ × α)
  | [] => [(k, f fresh)]
  | (k', a) :: rest => if k' = k then (k', f a) :: rest else (k', a) :: upsertList k fresh f rest

/-- Changes the value of `k` by `f`; a new key starts from `fresh`, at the end. -/
def upsert (t : FirstSeen κ α) (k : κ) (fresh : α) (f : α → α) : FirstSeen κ α :=
  ⟨upsertList k fresh f t.entries⟩

/-- The value of `k`. -/
def get? (t : FirstSeen κ α) (k : κ) : Option α :=
  (t.entries.find? (·.1 = k)).map Prod.snd

/-- Whether `k` is a key. -/
def contains (t : FirstSeen κ α) (k : κ) : Bool :=
  (t.get? k).isSome

/-- The keys, in the order in which they came first. -/
def keys (t : FirstSeen κ α) : List κ :=
  t.entries.map Prod.fst

/-- The values, in the order in which their keys came first. -/
def values (t : FirstSeen κ α) : List α :=
  t.entries.map Prod.snd

end FirstSeen

end CimSchema
