import Scaffold.Text.CodePoint

/-!
# Maps that keep the order of insertion

Generated files and messages show maps in the order in which their keys were first written, so a map
is the list of its entries in that order.

A list may hold a key twice, and then the first entry counts. Maps that are built by `put` never do
(`Proofs.Ordered`), but nothing forbids it, and a document may be read into one.
-/

namespace Scaffold

/-- A map from texts, in the order in which its keys were first put. -/
abbrev Ordered (α : Type) := List (Text × α)

namespace Ordered

variable {α : Type}

/-- The value under a key. -/
def get? (m : Ordered α) (key : Text) : Option α :=
  match m with
  | [] => none
  | (k, v) :: rest => if k = key then some v else get? rest key

/-- The map with a value under a key: in its place if the key is there, else at the end. -/
def put (m : Ordered α) (key : Text) (value : α) : Ordered α :=
  match m with
  | [] => [(key, value)]
  | (k, v) :: rest => if k = key then (k, value) :: rest else (k, v) :: put rest key value

/-- The keys in order. -/
def keys (m : Ordered α) : List Text := m.map (·.1)

/-- The map of a list of entries: the last value of a key, at the place of its first. -/
def ofEntries (entries : List (Text × α)) : Ordered α :=
  entries.foldl (fun m e => put m e.1 e.2) []

/-- All entries of the first map, overridden and extended by those of the second. -/
def extend (m other : Ordered α) : Ordered α :=
  other.foldl (fun m e => put m e.1 e.2) m

@[simp] theorem get?_nil (key : Text) : get? ([] : Ordered α) key = none := rfl

theorem get?_put (m : Ordered α) (key : Text) (value : α) (other : Text) :
    get? (put m key value) other = if key = other then some value else get? m other := by
  induction m with
  | nil => by_cases h : key = other <;> simp [put, get?, h]
  | cons e rest ih =>
    obtain ⟨k, v⟩ := e
    by_cases hk : k = key
    · subst hk
      by_cases h : k = other <;> simp [put, get?, h]
    · by_cases h : k = other
      · subst h
        simp [put, get?, hk, Ne.symm hk]
      · simp [put, get?, hk, h, ih]

end Ordered

end Scaffold
