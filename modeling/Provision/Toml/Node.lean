import Provision.Decimal.Binary64

/-!
# Tables of a TOML document

A table remembers how it came to be, because that decides whether it may be added to later: a
table that was written as a value is complete, one that was opened by a header cannot be opened
again, and one that only stands on the way to another table can still be opened once.
-/

namespace Provision
namespace Toml

open Decimal

inductive Form where
  /-- Written as a value. -/
  | closed
  /-- Opened by a header. -/
  | opened
  /-- On the way to the table of a header. -/
  | passed
  /-- On the way of a dotted key. -/
  | dotted
deriving DecidableEq, Repr

inductive Node where
  | str (s : String)
  | int (i : Int)
  | real (x : Binary64)
  | bool (b : Bool)
  /-- A date or time in its standard form. -/
  | moment (text : String)
  | array (items : List Node)
  | table (form : Form) (entries : List (String × Node))
  /-- The tables that were opened under one name. -/
  | tables (items : List Node)
deriving Repr, Inhabited

/-- The entries of a table and how it came to be. -/
structure Table where
  form : Form
  entries : List (String × Node)

namespace Table

def toNode (t : Table) : Node := .table t.form t.entries

/-- Sets an entry, in the place of an earlier one of its key. -/
def setEntry (key : String) (node : Node) : List (String × Node) → List (String × Node)
  | [] => [(key, node)]
  | entry :: rest =>
      if entry.1 = key then (key, node) :: rest else entry :: setEntry key node rest

def set (t : Table) (key : String) (node : Node) : Table :=
  { t with entries := setEntry key node t.entries }

/-- Changes the table at the end of a path.  Tables that are not there are made.  A dotted key
does not lead into a table that a header opened; under a name of several tables the last one is
meant. -/
def modifyAt (isDotted : Bool) (f : Table → Option Table) : (path : List String) → Table →
    Option Table
  | [], t => f t
  | key :: path, t =>
      match t.entries.lookup key with
      | none =>
          (modifyAt isDotted f path ⟨if isDotted then .dotted else .passed, []⟩).map
            (fun inner => t.set key inner.toNode)
      | some (.table form entries) =>
          if form = .closed ∨ (isDotted = true ∧ form = .opened) then none
          else (modifyAt isDotted f path ⟨form, entries⟩).map (fun inner => t.set key inner.toNode)
      | some (.tables items) =>
          match items.getLast? with
          | some (.table form entries) =>
              (modifyAt isDotted f path ⟨form, entries⟩).map
                (fun inner => t.set key (.tables (items.dropLast ++ [inner.toNode])))
          | _ => none
      | some _ => none

/-- Adds a new entry to a table that a path of dotted keys leads to. -/
def addEntry (viaDots : Bool) (key : String) (node : Node) (t : Table) : Option Table :=
  if (t.form = .dotted) ≠ (viaDots = true) then none
  else if (t.entries.lookup key).isSome then none
  else some ⟨t.form, t.entries ++ [(key, node)]⟩

/-- Adds the entry of a dotted key. -/
def addAt (path : List String) (key : String) (node : Node) (t : Table) : Option Table :=
  t.modifyAt true (addEntry (!path.isEmpty) key node) path

/-- Opens a table by a header. -/
def openEntry (key : String) (t : Table) : Option Table :=
  match t.entries.lookup key with
  | none => some (t.set key (.table .opened []))
  | some (.table .passed entries) => some (t.set key (.table .opened entries))
  | some _ => none

/-- Opens one more table under the name of several. -/
def openAnother (key : String) (t : Table) : Option Table :=
  match t.entries.lookup key with
  | none => some (t.set key (.tables [.table .opened []]))
  | some (.tables items) => some (t.set key (.tables (items ++ [.table .opened []])))
  | some _ => none

end Table
end Toml
end Provision
