import GeoFilter.Toml.Value

/-!
Tables under construction. A table can be added to by further lines, but each table is
opened by at most one header, and a key never gets a second value.
-/

namespace GeoFilter.Toml

/-- How a table came to be. -/
inductive Origin where
  /-- By a header of its own. -/
  | header
  /-- By the header of a table inside it. -/
  | outer
  /-- By a dotted key. -/
  | dotted
deriving DecidableEq

/-- What a key of a table under construction holds. -/
inductive Node where
  | value (value : Value)
  | table (origin : Origin) (entries : List (String × Node))
  /-- An array of tables, of which the last is still under construction. -/
  | tables (earlier : List (List (String × Node))) (last : List (String × Node))

abbrev Entries := List (String × Node)

/-- Changes the entry of a key. -/
def alter (change : Option Node → Option Node) (key : String) (entries : Entries) :
    Option Entries :=
  match entries with
  | [] => (change none).map fun node => [(key, node)]
  | (other, node) :: rest =>
      if other = key then
        (change (some node)).map fun node => (key, node) :: rest
      else
        (alter change key rest).map ((other, node) :: ·)

/-- Puts a value under a dotted key. The tables on the way must not have headers of
their own, and the table that receives the value must stem from a dotted key, except
for the table whose lines are being read. -/
def insertDotted (value : Value) : List String → Entries → Option Entries
  | [], _ => none
  | [key], entries =>
      alter (fun held => if held.isSome then none else some (.value value)) key entries
  | key :: next :: later, entries =>
      let direct := later.isEmpty
      let insert := insertDotted value (next :: later)
      alter (fun
        | none => (insert []).map (.table .dotted)
        | some (.table .dotted inner) => (insert inner).map (.table .dotted)
        | some (.table .outer inner) =>
            if direct then none else (insert inner).map (.table .outer)
        | some (.tables earlier last) =>
            if direct then none else (insert last).map (.tables earlier)
        | some _ => none) key entries

/-- Changes what stands under the key of a header. The tables on the way are made if
they are missing. -/
def alterAt (change : Option Node → Option Node) : List String → Entries → Option Entries
  | [], _ => none
  | [key], entries => alter change key entries
  | key :: next :: later, entries =>
      let inside := alterAt change (next :: later)
      alter (fun
        | none => (inside []).map (.table .outer)
        | some (.table origin inner) => (inside inner).map (.table origin)
        | some (.tables earlier last) => (inside last).map (.tables earlier)
        | some (.value _) => none) key entries

/-- Opens a table. It may have been made by the header of a table inside it. -/
def openTable (fill : Entries → Option Entries) : Option Node → Option Node
  | none => (fill []).map (.table .header)
  | some (.table .outer inner) => (fill inner).map (.table .header)
  | some _ => none

/-- Adds a table to an array of tables. -/
def openArrayTable (fill : Entries → Option Entries) : Option Node → Option Node
  | none => (fill []).map (.tables [])
  | some (.tables earlier last) => (fill []).map (.tables (earlier ++ [last]))
  | some _ => none

mutual

/-- The value of a finished node. -/
def Node.finish : Node → Value
  | .value value => value
  | .table _ entries => .table (finishEntries entries)
  | .tables earlier last =>
      .array (finishTables earlier ++ [.table (finishEntries last)])

def finishEntries : List (String × Node) → List (String × Value)
  | [] => []
  | (key, node) :: rest => (key, node.finish) :: finishEntries rest

def finishTables : List (List (String × Node)) → List Value
  | [] => []
  | entries :: rest => .table (finishEntries entries) :: finishTables rest

end

end GeoFilter.Toml
