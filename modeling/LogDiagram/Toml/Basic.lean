import LogDiagram.Text.Basic

/-!
# Documents in TOML

A document is a tree of tables. `Toml.Value` keeps of it what a reader of settings can tell apart: texts, moments,
lists, tables, and all other values.

* `Toml.Entries` are the entries of a table, and `Toml.change` goes down a path of tables and changes the last one;
* `Toml.define?`, `Toml.openTable?` and `Toml.appendTable?` are what the three kinds of lines of a document do. A key is
  given once, a table is opened once, and a table that was put together by dotted keys is not opened again.
-/

namespace LogDiagram.Toml

/-- How a table came into a document. -/
inductive Origin where
  /-- It was opened by a header, or is the document itself. -/
  | header
  /-- It stands on the path of a header and may still be opened. -/
  | headerPath
  /-- It stands on the path of a dotted key. -/
  | dottedKey
  /-- It is written as a value, and is complete. -/
  | inline
  deriving DecidableEq, Repr

/-- What a key stands for. -/
inductive Value where
  | text (t : Text)
  /-- A number or a truth value. -/
  | scalar
  /-- A date, a time, or both. -/
  | moment
  | list (items : List Value)
  | table (origin : Origin) (entries : List (Text × Value))
  /-- Tables under one key, the last one first; each is given by its entries. -/
  | tables (newestFirst : List (List (Text × Value)))
  deriving Repr

abbrev Entries := List (Text × Value)

namespace Entries

def erase (entries : Entries) (key : Text) : Entries := entries.filter fun entry => entry.1 != key

def put (entries : Entries) (key : Text) (value : Value) : Entries := (key, value) :: erase entries key

end Entries

/--
Goes down a path from a table of the given origin and changes the table at its end. Tables that are missing on the way
are made; under several tables the last one is meant. Dotted keys only go through tables that no header opened.
-/
def change (dotted : Bool) (f : Origin → Entries → Option Entries) :
    (path : List Text) → Origin → Entries → Option Entries
  | [], origin, entries => f origin entries
  | key :: path, _, entries =>
    match entries.lookup key with
    | none =>
      let origin := if dotted then Origin.dottedKey else .headerPath
      (change dotted f path origin []).map fun inner => entries.put key (.table origin inner)
    | some (.table origin inner) =>
      if origin = .inline ∨ (dotted ∧ origin = .header) then none
      else (change dotted f path origin inner).map fun inner => entries.put key (.table origin inner)
    | some (.tables (last :: older)) =>
      (change dotted f path .header last).map fun last => entries.put key (.tables (last :: older))
    | some _ => none

/-- A new key in a table. Behind a path the table has to be one that dotted keys made. -/
def insertNew? (hasPath : Bool) (key : Text) (value : Value) (origin : Origin) (entries : Entries) : Option Entries :=
  if hasPath ∧ origin ≠ .dottedKey ∨ ¬hasPath ∧ origin = .dottedKey then none
  else if (entries.lookup key).isSome then none
  else some ((key, value) :: entries)

/-- A table with a value for a dotted key. -/
def define? (path : List Text) (key : Text) (value : Value) (origin : Origin) (entries : Entries) : Option Entries :=
  change true (insertNew? (!path.isEmpty) key value) path origin entries

/-- A document with a table opened at a path. -/
def openTable? (path : List Text) (key : Text) (document : Entries) : Option Entries :=
  change false
    (fun _ entries =>
      match entries.lookup key with
      | none => some ((key, .table .header []) :: entries)
      | some (.table .headerPath inner) => some (entries.put key (.table .header inner))
      | some _ => none)
    path .header document

/-- A document with one more table under the key at the end of a path. -/
def appendTable? (path : List Text) (key : Text) (document : Entries) : Option Entries :=
  change false
    (fun _ entries =>
      match entries.lookup key with
      | none => some ((key, .tables [[]]) :: entries)
      | some (.tables older) => some (entries.put key (.tables ([] :: older)))
      | some _ => none)
    path .header document

/-- The entries of an inline table, given as dotted keys with their values. -/
def inlineTable? (members : List (List Text × Text × Value)) : Option Value :=
  (members.foldlM (fun entries (path, key, value) => define? path key value .header entries) []).map (.table .inline)

end LogDiagram.Toml
