/-!
# Tables

A table holds one value for each of finitely many keys.  `Table.find?` reads it,
`Table.insert` and `Table.erase` change it, and the lemmas say what is read after a
change.
-/

namespace CloudOperator

/-- A table, as a list of its entries. -/
abbrev Table (κ α : Type) :=
  List (κ × α)

namespace Table

variable {κ α : Type} [DecidableEq κ]

/-- The value of a key. -/
def find? (table : Table κ α) (key : κ) : Option α :=
  match table with
  | [] => none
  | (key', value) :: rest => if key' = key then some value else find? rest key

/-- The table with a value for a key, in place of the one it had. -/
def insert (table : Table κ α) (key : κ) (value : α) : Table κ α :=
  match table with
  | [] => [(key, value)]
  | (key', value') :: rest =>
    if key' = key then (key, value) :: rest else (key', value') :: insert rest key value

/-- The table without a value for a key. -/
def erase (table : Table κ α) (key : κ) : Table κ α :=
  table.filter (·.1 ≠ key)

@[simp]
theorem find?_nil (key : κ) :
  find? ([] : Table κ α) key = none
  := rfl

@[simp]
theorem find?_insert (table : Table κ α) (key key' : κ) (value : α) :
  find? (insert table key value) key' = if key = key' then some value else find? table key'
  := by
  induction table with
  | nil => simp [insert, find?]
  | cons entry rest ih =>
    by_cases h : entry.1 = key <;> by_cases h' : entry.1 = key' <;> grind [insert, find?]

@[simp]
theorem find?_erase (table : Table κ α) (key key' : κ) :
  find? (erase table key) key' = if key = key' then none else find? table key'
  := by
  induction table with
  | nil => simp [erase, find?]
  | cons entry rest ih =>
    by_cases h : entry.1 = key <;> by_cases h' : entry.1 = key' <;> grind [erase, find?]

end Table

end CloudOperator
