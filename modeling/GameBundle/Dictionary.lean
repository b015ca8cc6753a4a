/-!
# Dictionaries in key order

A dictionary lists its entries by strictly increasing key, compared by code
point, so two dictionaries with the same entries are the same list. Insertion
replaces the value of a key that is already there.
-/

namespace GameBundle

abbrev Dictionary (α : Type) := List (String × α)

namespace Dictionary

variable {α : Type}

/-- Enters `value` under `key`, at the place the order of keys asks for. -/
def insert (key : String) (value : α) : Dictionary α → Dictionary α
  | [] => [(key, value)]
  | (other, held) :: rest =>
    if key < other then (key, value) :: (other, held) :: rest
    else if key = other then (key, value) :: rest
    else (other, held) :: insert key value rest

/-- The value entered under `key`. -/
def find? (key : String) : Dictionary α → Option α
  | [] => none
  | (other, held) :: rest => if key = other then some held else find? key rest

/-- The dictionary of a list of entries; of entries with one key the last counts. -/
def ofEntries (entries : List (String × α)) : Dictionary α :=
  entries.foldl (fun dictionary entry => dictionary.insert entry.1 entry.2) []

/-- Keys grow strictly, each smaller than all that follow. -/
def Increasing (entries : Dictionary α) : Prop :=
  entries.Pairwise fun one other => one.1 < other.1

theorem find?_insert_self (key : String) (value : α) (entries : Dictionary α) :
    (insert key value entries).find? key = some value := by
  induction entries with
  | nil => simp [insert, find?]
  | cons entry rest ih =>
    obtain ⟨other, held⟩ := entry
    by_cases before : key < other
    · simp [insert, before, find?]
    · by_cases same : key = other
      · simp [insert, same, find?]
      · simp [insert, before, same, find?, ih]

theorem find?_insert_of_ne {key sought : String} (value : α) (entries : Dictionary α)
    (distinct : sought ≠ key) : (insert key value entries).find? sought = entries.find? sought := by
  induction entries with
  | nil => simp [insert, find?, distinct]
  | cons entry rest ih =>
    obtain ⟨other, held⟩ := entry
    by_cases before : key < other
    · simp [insert, before, find?, distinct]
    · by_cases same : key = other
      · subst same
        simp [insert, find?, distinct]
      · simp [insert, before, same, find?, ih]

end Dictionary

end GameBundle
