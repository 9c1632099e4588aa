import Syllabary.Toml.DateTime
import Syllabary.Toml.Number

/-!
# Values

A document is a tree of values. Every table remembers how it came to be, because that decides what
may still be added to it.
-/

namespace Syllabary.Toml

/-- How a table came to be. -/
inductive TableKind where
  /-- Written in braces; nothing is added to it. -/
  | inline
  /-- Opened by a header of its own. -/
  | header
  /-- Made by the header of a table below it, so that its own header may still come. -/
  | implied
  /-- Made by a key with dots. -/
  | dotted
deriving DecidableEq

/-- A value. The entries of a table stand in order and have distinct keys. -/
inductive Value where
  | string (t : Text)
  | integer (n : Int)
  | number (x : Number)
  | boolean (b : Bool)
  | dateTime (d : DateTime)
  | array (items : List Value)
  | table (kind : TableKind) (entries : List (Text × Value))
  /-- Tables that were opened by headers in double brackets, each a list of entries. -/
  | tables (elements : List (List (Text × Value)))

/-- The entries of a table. -/
abbrev Table := List (Text × Value)

namespace Table

/-- Puts a value in the place of the value under a key. -/
def replace (table : Table) (key : Text) (value : Value) : Table :=
  table.map fun entry => if entry.1 = key then (key, value) else entry

/-- Adds a value under a key that is not there yet. -/
def add? (table : Table) (key : Text) (value : Value) : Option Table :=
  if (table.lookup key).isSome then none else some (table ++ [(key, value)])

/-- Changes the table at the end of a path. Tables on the way are made where they are missing, and
of several tables under one header the last is meant. Nothing is changed inside braces, and a key
with dots does not enter a table that has a header of its own. -/
def changeAt (dotted : Bool) (change : TableKind → Table → Option Table) :
    List Text → TableKind → Table → Option Table
  | [], kind, table => change kind table
  | key :: path, _, table =>
    match table.lookup key with
    | none => do
      let kind : TableKind := if dotted then .dotted else .implied
      let entries ← changeAt dotted change path kind []
      return table ++ [(key, .table kind entries)]
    | some (.table kind entries) =>
      if kind = .inline ∨ (dotted ∧ kind = .header) then none
      else do
        let entries ← changeAt dotted change path kind entries
        return table.replace key (.table kind entries)
    | some (.tables elements) => do
      let last ← elements.getLast?
      let entries ← changeAt dotted change path .header last
      return table.replace key (.tables (elements.dropLast ++ [entries]))
    | some _ => none

/-- Enters a value. Through dots it goes only into a table that dots have made. -/
def assign (table : Table) (path : Path) (value : Value) : Option Table :=
  changeAt true
    (fun kind table =>
      if path.tables = [] ∨ kind = .dotted then table.add? path.name value else none)
    path.tables .header table

/-- Opens a table: a new one, or one that a header below it has implied. -/
def openTable (table : Table) (path : Path) : Option Table :=
  changeAt false
    (fun _ table =>
      match table.lookup path.name with
      | none => some (table ++ [(path.name, .table .header [])])
      | some (.table .implied entries) => some (table.replace path.name (.table .header entries))
      | some _ => none)
    path.tables .header table

/-- Opens a further table in a row of tables under one header. -/
def openElement (table : Table) (path : Path) : Option Table :=
  changeAt false
    (fun _ table =>
      match table.lookup path.name with
      | none => some (table ++ [(path.name, .tables [[]])])
      | some (.tables elements) =>
        some (table.replace path.name (.tables (elements ++ [[]])))
      | some _ => none)
    path.tables .header table

end Table

end Syllabary.Toml
