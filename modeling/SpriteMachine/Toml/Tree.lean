/-!
# TOML trees

A document is one table of values and tables. Where a table came from decides what
may still be added to it: a header opens a table once, a header for an inner table
implies its outer ones, a dotted key makes tables that only further dotted keys
extend, and an inline table is complete as it stands.

The tree keeps what readers of settings ask for. Of fractions and moments it is
enough that they are there.
-/

namespace SpriteMachine

/-- How a table came into a document. -/
inductive TableOrigin where
  | header
  | implied
  | dotted
  | inline
deriving DecidableEq, Repr

/-- A value of a document. `tables` are those of repeated headers in double
brackets, each a table. -/
inductive Toml where
  | string (content : String)
  | integer (value : Int)
  | truth (value : Bool)
  | fraction
  | moment
  | array (items : List Toml)
  | table (origin : TableOrigin) (entries : List (String × Toml))
  | tables (items : List Toml)

namespace Toml

/-- The entries of a table in the making. -/
abbrev Entries := List (String × Toml)

/-- Entries with the value of a key replaced, or added behind all others. -/
def put (key : String) (value : Toml) : Entries → Entries
  | [] => [(key, value)]
  | (other, old) :: rest =>
    if other = key then (key, value) :: rest else (other, old) :: put key value rest

/-- Changes the table at the end of a path, making the tables on the way that are
missing. The change is told where that table came from. A path of a dotted key
enters no table that has a header of its own, and no path enters an inline table
or another value. Of repeated tables the last one is entered. -/
def within (dotted : Bool) (change : TableOrigin → Entries → Option Entries) :
    List String → TableOrigin → Entries → Option Entries
  | [], origin, entries => change origin entries
  | key :: path, _, entries =>
    match entries.lookup key with
    | none =>
      let made := if dotted then .dotted else .implied
      (within dotted change path made []).map fun inner => put key (.table made inner) entries
    | some (.table origin inner) =>
      if origin = .inline ∨ (dotted ∧ origin = .header) then none
      else (within dotted change path origin inner).map fun inner =>
        put key (.table origin inner) entries
    | some (.tables items) =>
      match items.getLast? with
      | some (.table origin inner) =>
        (within dotted change path origin inner).map fun inner =>
          put key (.tables (items.dropLast ++ [.table origin inner])) entries
      | _ => none
    | some _ => none

/-- Adds a value under a key that is not taken. A dotted key ends in a table that a
dotted key has made, a plain one in a table that none has made. -/
def addValue (key : String) (value : Toml) (isDotted : Bool) (origin : TableOrigin)
    (entries : Entries) : Option Entries :=
  if decide (origin = .dotted) != isDotted || (entries.lookup key).isSome then none
  else some (entries ++ [(key, value)])

/-- Opens a table by its header. An implied table is taken over, any other is
refused. -/
def openTable (key : String) (_ : TableOrigin) (entries : Entries) : Option Entries :=
  match entries.lookup key with
  | none => some (put key (.table .header []) entries)
  | some (.table .implied inner) => some (put key (.table .header inner) entries)
  | some _ => none

/-- Adds one more of repeated tables. -/
def repeatTable (key : String) (_ : TableOrigin) (entries : Entries) : Option Entries :=
  match entries.lookup key with
  | none => some (put key (.tables [.table .header []]) entries)
  | some (.tables items) => some (put key (.tables (items ++ [.table .header []])) entries)
  | some _ => none

/-- Puts a value at the end of a key's path. -/
def putValue (path : List String) (key : String) (value : Toml) :
    TableOrigin → Entries → Option Entries :=
  within true (addValue key value (path ≠ [])) path

end Toml

end SpriteMachine
