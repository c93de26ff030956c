import C64Screen.Value

/-!
# Nested tables

A document is a tree of tables, whose entries are reached along paths of keys. Tables that a path runs
through come into being with it. A path that runs through an array of tables continues in the last of
them, where arrays may be entered at all.
-/

namespace C64Screen.Toml

abbrev Path := List String

abbrev Entries := List (String × Value)

/-- Changes the entries of the table at the end of a path. -/
def within? (throughArrays : Bool) (f : Entries → Option Entries) : Path → Entries → Option Entries
  | [], entries => f entries
  | k :: path, entries =>
    match Value.lookup k entries with
    | none => (within? throughArrays f path []).map (fun t => Value.assign k (.table t) entries)
    | some (.table t) =>
      (within? throughArrays f path t).map (fun t => Value.assign k (.table t) entries)
    | some (.list items) =>
      match throughArrays, items.getLast? with
      | true, some (.table t) =>
        (within? throughArrays f path t).map
          (fun t => Value.assign k (.list (items.dropLast ++ [.table t])) entries)
      | _, _ => none
    | some _ => none

/-- A key is given a value only once. -/
def insert? (throughArrays : Bool) (path : Path) (v : Value) (entries : Entries) : Option Entries :=
  match path.getLast? with
  | none => none
  | some key =>
    within? throughArrays
      (fun t => if (Value.lookup key t).isSome then none else some (Value.assign key v t))
      path.dropLast entries

/-- Opens a table, new or not. -/
def open? (path : Path) (entries : Entries) : Option Entries := within? true some path entries

/-- Adds a table to an array of tables, new or not. -/
def append? (path : Path) (entries : Entries) : Option Entries :=
  match path.getLast? with
  | none => none
  | some key =>
    within? true
      (fun t =>
        match Value.lookup key t with
        | none => some (Value.assign key (.list [.table []]) t)
        | some (.list items) => some (Value.assign key (.list (items ++ [.table []])) t)
        | some _ => none)
      path.dropLast entries

/-- Arrays and tables written as a value are closed: nothing is added to them later. -/
def closes : Value → Bool
  | .list _ => true
  | .table _ => true
  | _ => false

def isWithin (closed : List Path) (path : Path) : Bool := closed.any (·.isPrefixOf path)

/-- A table that is being written as a value, and the paths in it to which nothing is added any more. -/
structure Inline where
  entries : Entries
  closed : List Path

def Inline.empty : Inline := ⟨[], []⟩

def Inline.add? (t : Inline) (path : Path) (v : Value) : Option Inline :=
  if isWithin t.closed path then none
  else
    (insert? false path v t.entries).map
      (fun entries => ⟨entries, if closes v then path :: t.closed else t.closed⟩)

end C64Screen.Toml
