/-!
# TOML

The data of TOML documents as far as settings need it: texts, integers and tables are
kept, other scalars only count as present.  A table remembers how it came to be,
because that decides what may still be added to it.
-/

namespace Assessment

/-- How a table was written down. -/
inductive TableOrigin where
  /-- Only named as part of the header of another table. -/
  | implied
  /-- Made by a dotted key. -/
  | dotted
  /-- Has a header of its own. -/
  | headed
  deriving DecidableEq, Repr

inductive Toml where
  | text (value : String)
  | integer (value : Int64)
  /-- A float, a boolean or a date. -/
  | other
  | array (items : List Toml)
  | inlineTable (entries : List (String × Toml))
  | table (origin : TableOrigin) (entries : List (String × Toml))
  /-- The elements of an array of tables, the last one first. -/
  | tables (elements : List (List (String × Toml)))

namespace Toml

/-- The entries of a table under construction. -/
abbrev Entries := List (String × Toml)

def find? (key : String) (entries : Entries) : Option Toml :=
  (entries.find? fun entry => entry.1 == key).map (·.2)

/-- Puts a value in the place of the one that the key has. -/
def replace (key : String) (value : Toml) (entries : Entries) : Entries :=
  entries.map fun entry => if entry.1 == key then (key, value) else entry

/-- Adds a key that must be new. -/
def addNew? (key : String) (value : Toml) (entries : Entries) : Option Entries :=
  match find? key entries with
  | some _ => none
  | none => some (entries ++ [(key, value)])

/-- Changes the table at the end of a path of headers.  Tables that are missing on the
way are implied; in an array of tables the last one counts. -/
def underHeader? (change : Entries → Option Entries) :
    List String → Entries → Option Entries
  | [], entries => change entries
  | key :: path, entries =>
      match find? key entries with
      | none =>
          (underHeader? change path []).map fun inner =>
            entries ++ [(key, .table .implied inner)]
      | some (.table origin inner) =>
          (underHeader? change path inner).map fun inner =>
            replace key (.table origin inner) entries
      | some (.tables (last :: earlier)) =>
          (underHeader? change path last).map fun last =>
            replace key (.tables (last :: earlier)) entries
      | some _ => none

/-- Adds a value under a dotted key.  It may only go into tables that dotted keys made. -/
def addDotted? (value : Toml) : List String → Entries → Option Entries
  | [], _ => none
  | [key], entries => addNew? key value entries
  | key :: path, entries =>
      match find? key entries with
      | none =>
          (addDotted? value path []).map fun inner =>
            entries ++ [(key, .table .dotted inner)]
      | some (.table .dotted inner) =>
          (addDotted? value path inner).map fun inner =>
            replace key (.table .dotted inner) entries
      | some (.table .implied inner) =>
          if path.length = 1 then none
          else
            (addDotted? value path inner).map fun inner =>
              replace key (.table .implied inner) entries
      | some _ => none

/-- Gives a table its header.  A table has one header at most, and none if dotted keys
made it. -/
def addHeader? (path : List String) (entries : Entries) : Option Entries :=
  match path.reverse with
  | [] => none
  | key :: parents =>
      underHeader? (fun table =>
        match find? key table with
        | none => some (table ++ [(key, .table .headed [])])
        | some (.table .implied inner) => some (replace key (.table .headed inner) table)
        | some _ => none) parents.reverse entries

/-- Adds an element to an array of tables. -/
def addElement? (path : List String) (entries : Entries) : Option Entries :=
  match path.reverse with
  | [] => none
  | key :: parents =>
      underHeader? (fun table =>
        match find? key table with
        | none => some (table ++ [(key, .tables [[]])])
        | some (.tables elements) => some (replace key (.tables ([] :: elements)) table)
        | some _ => none) parents.reverse entries

/-- The entries of a table, however it was written. -/
def entries? : Toml → Option Entries
  | .inlineTable entries => some entries
  | .table _ entries => some entries
  | _ => none

end Toml

end Assessment
