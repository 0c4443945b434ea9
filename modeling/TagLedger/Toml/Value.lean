/-!
# TOML values

A document is a table.  Tables keep how they came about, for that decides what may still be added to
them: by a header of their own, implied by the header of a table below them, or by a dotted key.
Inline tables and arrays are closed once they are written.
-/

namespace TagLedger

inductive Toml.Form where
  | header
  | implied
  | dotted
  deriving DecidableEq, Repr

inductive Toml where
  | string (value : String)
  | integer (value : Int)
  | float
  | bool (value : Bool)
  | datetime
  | array (items : List Toml)
  | inline (entries : List (String × Toml))
  | table (form : Toml.Form) (entries : List (String × Toml))
  | tables (elements : List (List (String × Toml)))

namespace Toml

abbrev Entries : Type :=
  List (String × Toml)

def setEntry (key : String) (value : Toml) (entries : Entries) : Entries :=
  entries.map fun entry => if entry.1 = key then (key, value) else entry

/-- Changes the table that a path leads to, creating the tables on the way.  A dotted path may not
pass through a table with a header of its own. -/
def editAt (dotted : Bool) (edit : Form → Entries → Option Entries) :
    List String → Form → Entries → Option Entries
  | [], form, entries => edit form entries
  | key :: path, _, entries =>
      match entries.lookup key with
      | none => do
          let form := if dotted then Form.dotted else Form.implied
          return entries ++ [(key, .table form (← editAt dotted edit path form []))]
      | some (.table form inner) =>
          if dotted ∧ form = .header then none
          else do
            return setEntry key (.table form (← editAt dotted edit path form inner)) entries
      | some (.tables elements) => do
          let last ← elements.getLast?
          let changed ← editAt dotted edit path .header last
          return setEntry key (.tables (elements.dropLast ++ [changed])) entries
      | some _ => none

def addEntry (key : String) (value : Toml) (entries : Entries) : Option Entries :=
  match entries.lookup key with
  | none => some (entries ++ [(key, value)])
  | some _ => none

/-- Adds a value under a dotted key, whose tables must all have come about by dotted keys. -/
def assign (path : List String) (key : String) (value : Toml) (entries : Entries) :
    Option Entries :=
  editAt true
    (fun form inner => if path ≠ [] ∧ form ≠ .dotted then none else addEntry key value inner)
    path .header entries

def assignUnder (header path : List String) (key : String) (value : Toml) (root : Entries) :
    Option Entries :=
  editAt false (fun _ inner => assign path key value inner) header .header root

/-- Opens the table of a header: it must be new, or only implied up to now. -/
def openTable (path : List String) (key : String) (root : Entries) : Option Entries :=
  editAt false
    (fun _ inner =>
      match inner.lookup key with
      | none => some (inner ++ [(key, .table .header [])])
      | some (.table .implied entries) => some (setEntry key (.table .header entries) inner)
      | some _ => none)
    path .header root

def openElement (path : List String) (key : String) (root : Entries) : Option Entries :=
  editAt false
    (fun _ inner =>
      match inner.lookup key with
      | none => some (inner ++ [(key, .tables [[]])])
      | some (.tables elements) => some (setEntry key (.tables (elements ++ [[]])) inner)
      | some _ => none)
    path .header root

end Toml

end TagLedger
