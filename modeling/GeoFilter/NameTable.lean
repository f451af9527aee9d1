/-!
Tables with one value for each name, kept in the order of the names. Names are
ordered by their code points.
-/

namespace GeoFilter

structure NameTable (α : Type) where
  entries : List (String × α)
deriving Repr

namespace NameTable

variable {α β : Type}

def empty : NameTable α := ⟨[]⟩

/-- Puts an entry in its place. It replaces an entry that has the same name. -/
def insertEntry (name : String) (value : α) : List (String × α) → List (String × α)
  | [] => [(name, value)]
  | (other, held) :: rest =>
      if name < other then
        (name, value) :: (other, held) :: rest
      else if name = other then
        (name, value) :: rest
      else
        (other, held) :: insertEntry name value rest

def insert (table : NameTable α) (name : String) (value : α) : NameTable α :=
  ⟨insertEntry name value table.entries⟩

/-- The table of a list of entries. Of two entries with one name the later counts. -/
def ofList (entries : List (String × α)) : NameTable α :=
  entries.foldl (fun table (name, value) => table.insert name value) empty

def find? (table : NameTable α) (name : String) : Option α :=
  table.entries.lookup name

def contains (table : NameTable α) (name : String) : Bool :=
  (table.find? name).isSome

def names (table : NameTable α) : List String :=
  table.entries.map Prod.fst

def values (table : NameTable α) : List α :=
  table.entries.map Prod.snd

instance [BEq α] : BEq (NameTable α) where
  beq a b := a.entries == b.entries

@[simp] theorem find?_empty (name : String) : (empty : NameTable α).find? name = none := rfl

/-- A name that was just inserted has the inserted value. -/
theorem find?_insert_self (table : NameTable α) (name : String) (value : α) :
    (table.insert name value).find? name = some value := by
  obtain ⟨entries⟩ := table
  simp only [insert, find?]
  induction entries with
  | nil => simp [insertEntry]
  | cons entry rest ih =>
      obtain ⟨other, held⟩ := entry
      rw [insertEntry]
      split
      · simp
      · split
        · simp
        · rename_i _ differs
          have unequal : (name == other) = false := by simpa using differs
          simp only [List.lookup_cons, unequal]
          exact ih

/-- Inserting a name leaves every other name as it was. -/
theorem find?_insert_of_ne (table : NameTable α) {name other : String} (value : α)
    (h : other ≠ name) : (table.insert name value).find? other = table.find? other := by
  obtain ⟨entries⟩ := table
  have unequal : (other == name) = false := by simpa using h
  simp only [insert, find?]
  induction entries with
  | nil => simp [insertEntry, List.lookup_cons, unequal]
  | cons entry rest ih =>
      obtain ⟨next, held⟩ := entry
      rw [insertEntry]
      split
      · simp [List.lookup_cons, unequal]
      · split
        · rename_i _ same
          subst same
          simp [List.lookup_cons, unequal]
        · simp only [List.lookup_cons]
          split
          · rfl
          · exact ih

end NameTable

end GeoFilter
