import DesignRules.Toml.Basic

/-!
# Entries of TOML tables

A table of a TOML document can be written in pieces: under headers, with dotted keys, or in one
go between braces. Which piece may add to which table depends on how the table came about.

## Implementation notes

A header may fill in a table that was only mentioned on the way to another one, but not a table
with a header of its own or one made by dotted keys. A dotted key may pass through tables that
were not given by a header, but may put its value only into a table made by dotted keys. Lists of
tables stand for their last table.

## Main definitions

* `Toml.Origin`, `Toml.Node`, `Toml.Entries` — tables under construction
* `Toml.under` — a change below a path of keys of a header
* `Toml.insertDotted`, `Toml.openTable`, `Toml.appendTable` — the three ways to add
* `Toml.closeEntries` — the finished table
-/

namespace DesignRules.Toml

/-- How a table came about. -/
inductive Origin where
  /-- It stands on the way of a header to another table. -/
  | implied
  /-- It stands on the way of a dotted key. -/
  | dotted
  /-- It has a header of its own. -/
  | explicit
  deriving DecidableEq, Repr

/-- What a key of a table under construction stands for. -/
inductive Node where
  /-- A value that nothing can be added to. -/
  | value (value : Toml)
  | table (origin : Origin) (entries : List (String × Node))
  /-- A list of tables that were given by headers, the last one first. -/
  | tables (items : List (List (String × Node)))

/-- The entries of a table under construction. -/
abbrev Entries := List (String × Node)

/-- The entries with what `change` makes of the node of a key; a new key goes to the end. -/
def modify (key : String) (change : Option Node → Option Node) : Entries → Option Entries
  | [] => (change none).map fun node => [(key, node)]
  | (name, node) :: rest =>
    if name = key then (change (some node)).map fun node => (name, node) :: rest
    else (modify key change rest).map ((name, node) :: ·)

/-- The entries with a change made below the keys of a header. -/
def under (change : Entries → Option Entries) : List String → Entries → Option Entries
  | [], entries => change entries
  | key :: path, entries =>
    modify key (fun
      | none => (under change path []).map (Node.table .implied)
      | some (.table origin sub) => (under change path sub).map (Node.table origin)
      | some (.tables (last :: before)) =>
        (under change path last).map fun last => .tables (last :: before)
      | some _ => none) entries

/-- The entries with a value under a dotted key, given by the keys before the last dot and the
key after it. -/
def insertDotted (key : String) (value : Toml) : List String → Entries → Option Entries
  | [], entries =>
    modify key (fun
      | none => some (.value value)
      | some _ => none) entries
  | first :: path, entries =>
    modify first (fun
      | none => (insertDotted key value path []).map (Node.table .dotted)
      | some (.table .explicit _) => none
      | some (.table .implied sub) =>
        if path.isEmpty then none else (insertDotted key value path sub).map (Node.table .implied)
      | some (.table .dotted sub) => (insertDotted key value path sub).map (Node.table .dotted)
      | some (.tables (last :: before)) =>
        if path.isEmpty then none
        else (insertDotted key value path last).map fun last => .tables (last :: before)
      | some _ => none) entries

/-- The entries after a header for a table of that name. -/
def openTable (key : String) : Entries → Option Entries :=
  modify key fun
    | none => some (.table .explicit [])
    | some (.table .implied sub) => some (.table .explicit sub)
    | some _ => none

/-- The entries after a header for one more table of a list of that name. -/
def appendTable (key : String) : Entries → Option Entries :=
  modify key fun
    | none => some (.tables [[]])
    | some (.tables items) => some (.tables ([] :: items))
    | some _ => none

mutual

/-- The value that a node stands for. -/
def Node.close : Node → Toml
  | .value value => value
  | .table _ entries => .table (closeEntries entries)
  | .tables items => .list (closeTables items).reverse

/-- The finished entries of a table. -/
def closeEntries : List (String × Node) → List (String × Toml)
  | [] => []
  | (key, node) :: rest => (key, node.close) :: closeEntries rest

/-- The finished tables of a list. -/
def closeTables : List (List (String × Node)) → List Toml
  | [] => []
  | entries :: rest => .table (closeEntries entries) :: closeTables rest

end

end DesignRules.Toml
