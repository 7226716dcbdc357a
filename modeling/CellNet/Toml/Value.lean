/-!
# TOML values

A table remembers how it came about, as that decides what may still be added to it; an array of
tables holds its tables last first, as the last is the one being filled. Dates and times are
recognised and otherwise not looked into.
-/

namespace CellNet

/-- How a table came about. -/
inductive Toml.Origin where
  /-- By a header of its own. -/
  | header
  /-- As a place on the way to another table's header. -/
  | implied
  /-- As a place on the way of a dotted key. -/
  | dotted
  /-- In braces. -/
  | inline
deriving DecidableEq, Repr

inductive Toml where
  | text (value : String)
  | bool (value : Bool)
  | integer (value : Int)
  | float (value : Float)
  /-- A date, a time, or both. -/
  | moment
  | array (items : List Toml)
  | table (origin : Toml.Origin) (entries : List (String × Toml))
  /-- An array of tables, last first. -/
  | tables (items : List (List (String × Toml)))

namespace Toml

/-- The entries of a table, in order. -/
abbrev Entries := List (String × Toml)

def Entries.find? (entries : Entries) (key : String) : Option Toml :=
  (List.find? (·.1 = key) entries).map (·.2)

def Entries.set (entries : Entries) (key : String) (value : Toml) : Entries :=
  entries.map fun (k, v) => if k = key then (k, value) else (k, v)

/-! ## Adding to tables

The empty path leads to the table itself. -/

/-- Follows the path of a header into a table and changes what it leads to; tables that are not
there are made. Any table but one in braces may be entered, and of an array of tables the last. -/
def Entries.within (change : Entries → Option Entries) : List String → Entries → Option Entries
  | [], entries => change entries
  | key :: path, entries =>
    match entries.find? key with
    | none => (within change path []).map fun inner => entries ++ [(key, .table .implied inner)]
    | some (.table .inline _) => none
    | some (.table origin inner) =>
      (within change path inner).map fun inner => entries.set key (.table origin inner)
    | some (.tables (last :: earlier)) =>
      (within change path last).map fun last => entries.set key (.tables (last :: earlier))
    | some _ => none

/-- Adds a value under a key that is not there yet. -/
def Entries.add? (key : String) (value : Toml) (entries : Entries) : Option Entries :=
  match entries.find? key with
  | none => some (entries ++ [(key, value)])
  | some _ => none

/-- Adds a value under a dotted key; tables that are not there are made. No table may be entered
that has a header of its own. A table that only headers lead through, or the last of an array of
tables, may be passed on the way, but the one that takes the value must be made by dotted keys. -/
def Entries.addAt? (value : Toml) : List String → Entries → Option Entries
  | [], _ => none
  | [key], entries => entries.add? key value
  | key :: next :: path, entries =>
    match entries.find? key with
    | none =>
      (addAt? value (next :: path) []).map fun inner => entries ++ [(key, .table .dotted inner)]
    | some (.table .dotted inner) =>
      (addAt? value (next :: path) inner).map fun inner => entries.set key (.table .dotted inner)
    | some (.table .implied inner) =>
      if path.isEmpty then none
      else (addAt? value (next :: path) inner).map fun inner =>
        entries.set key (.table .implied inner)
    | some (.tables (last :: earlier)) =>
      if path.isEmpty then none
      else (addAt? value (next :: path) last).map fun last =>
        entries.set key (.tables (last :: earlier))
    | some _ => none

/-- Opens the table of a header: it must not be there yet, save as a place on the way to others. -/
def Entries.openTable? (path : List String) (entries : Entries) : Option Entries :=
  path.getLast?.bind fun key =>
    entries.within
      (fun above =>
        match above.find? key with
        | none => some (above ++ [(key, .table .header [])])
        | some (.table .implied inner) => some (above.set key (.table .header inner))
        | some _ => none)
      path.dropLast

/-- Opens the next table of an array of tables. -/
def Entries.openItem? (path : List String) (entries : Entries) : Option Entries :=
  path.getLast?.bind fun key =>
    entries.within
      (fun above =>
        match above.find? key with
        | none => some (above ++ [(key, .tables [[]])])
        | some (.tables items) => some (above.set key (.tables ([] :: items)))
        | some _ => none)
      path.dropLast

/-! ## Looking at values -/

/-- The fields of a record, by their names in a table, or by their place in an array that holds at
least as many items. A date or time counts as a table with none of them. -/
def fields? (names : List String) : Toml → Option (List (Option Toml))
  | .table _ entries => some (names.map (Entries.find? entries))
  | .array items =>
    if names.length ≤ items.length then some ((items.take names.length).map some) else none
  | .moment => some (names.map fun _ => none)
  | _ => none

def text? : Toml → Option String
  | .text value => some value
  | _ => none

def bool? : Toml → Option Bool
  | .bool value => some value
  | _ => none

/-- A whole number below a limit. -/
def natBelow? (limit : Nat) : Toml → Option Nat
  | .integer value => if 0 ≤ value ∧ value < limit then some value.toNat else none
  | _ => none

end Toml

end CellNet
