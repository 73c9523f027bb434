/-!
# Tables

A finite table from keys to values. A key keeps the place at which it was first entered, and
entering it again replaces its value there, so a key has at most one entry in force.
-/
namespace Kaleido

/-- Entries of keys and values, in the order in which the keys were first entered. -/
structure Table (κ α : Type) where
  entries : List (κ × α) := []
deriving Repr, DecidableEq

namespace Table

variable {κ α : Type} [DecidableEq κ]

/-- The table without entries. -/
def empty : Table κ α := ⟨[]⟩

instance : Inhabited (Table κ α) := ⟨empty⟩

/-- The value in force for a key. -/
def find? (table : Table κ α) (key : κ) : Option α := table.entries.lookup key

/-- Whether a key has an entry. -/
def contains (table : Table κ α) (key : κ) : Bool := (table.find? key).isSome

/-- The number of keys. -/
def size (table : Table κ α) : Nat := table.entries.length

/-- The keys in the order of entry. -/
def keys (table : Table κ α) : List κ := table.entries.map (·.1)

/-- The values in the order in which their keys were entered. -/
def values (table : Table κ α) : List α := table.entries.map (·.2)

/-- Entries with one key set to a value: in its place if it is there, at the end if it is not. -/
def put (key : κ) (value : α) : List (κ × α) → List (κ × α)
  | [] => [(key, value)]
  | entry :: rest => if entry.1 = key then (key, value) :: rest else entry :: put key value rest

/-- Sets the value of a key. -/
def insert (table : Table κ α) (key : κ) (value : α) : Table κ α :=
  ⟨put key value table.entries⟩

/-- The table of a list of entries, entered one after the other. -/
def ofList (entries : List (κ × α)) : Table κ α :=
  entries.foldl (fun table entry => table.insert entry.1 entry.2) empty

omit [DecidableEq κ] in
theorem ext_entries {left right : Table κ α} (same : left.entries = right.entries) :
    left = right := by
  cases left; cases right; cases same; rfl

@[simp] theorem find?_empty (key : κ) : (empty : Table κ α).find? key = none := rfl

private theorem lookup_put (key other : κ) (value : α) (entries : List (κ × α)) :
    (put key value entries).lookup other =
      if other = key then some value else entries.lookup other := by
  induction entries with
  | nil =>
    by_cases same : other = key
    · simp [put, same]
    · simp [put, List.lookup_cons, beq_false_of_ne same, same]
  | cons entry rest ih =>
    obtain ⟨first, held⟩ := entry
    by_cases place : first = key
    · subst place
      by_cases same : other = first
      · simp [put, same]
      · simp [put, List.lookup_cons, beq_false_of_ne same, same]
    · by_cases same : other = first
      · subst same
        simp [put, place]
      · simp [put, List.lookup_cons, beq_false_of_ne same, place, ih]

/-- Setting a key answers for that key and leaves every other answer as it was. -/
theorem find?_insert (table : Table κ α) (key other : κ) (value : α) :
    (table.insert key value).find? other =
      if other = key then some value else table.find? other :=
  lookup_put key other value table.entries

@[simp] theorem find?_insert_self (table : Table κ α) (key : κ) (value : α) :
    (table.insert key value).find? key = some value := by
  simp [find?_insert]

theorem find?_insert_of_ne (table : Table κ α) {key other : κ} (value : α)
    (differ : other ≠ key) : (table.insert key value).find? other = table.find? other := by
  simp [find?_insert, differ]

end Table

end Kaleido
