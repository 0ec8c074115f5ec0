import Provision.Manifest.Document
import Provision.Toml.Reader

/-!
# Manifests as TOML

Nothing can be left open.  A record may be written as an array of its fields in the order of the
schema, and a date or time is seen as a record with a field that no schema has.
-/

namespace Provision
namespace Toml
namespace Node

/-- The field under which a date or time keeps its text. -/
def momentField : String := "$__toml_private_datetime"

def text? : Node → Option String
  | .str s => some s
  | _ => none

def scalar? : Node → Option Scalar
  | .str s => some (.text s)
  | .int i => some (.ofInt i)
  | .real x => some (.real x)
  | .bool b => some (.bool b)
  | _ => none

def items? : Node → Option (List Node)
  | .array items => some items
  | .tables items => some items
  | _ => none

def entries? : Node → Option (List (String × Node))
  | .table _ entries => some entries
  | .moment text => some [(momentField, .str text)]
  | _ => none

def fields? (names : List String) (node : Node) : Option (List (String × Node)) :=
  match node.items? with
  | some items => some (names.zip items)
  | none => node.entries?.map (List.filter (fun entry => entry.1 ∈ names))

/-- Whether a value has nothing inside of it. -/
def isEmpty : Node → Bool
  | .array items => items.isEmpty
  | .tables items => items.isEmpty
  | .table _ entries => entries.isEmpty
  | _ => false

/-- A choice by its text, or by the first key of a table with nothing under it; a table that is
written as a value has no other key. -/
def choice? : Node → Option String
  | .str s => some s
  | .table form ((name, inner) :: rest) =>
      if inner.isEmpty && (form ≠ .closed || rest.isEmpty) then some name else none
  | _ => none

instance : Document Node where
  text? := text?
  scalar? := scalar?
  record? := fields?
  map? := entries?
  list? := items?
  choice? := choice?
  optional? := fun node => some (some node)

end Node
end Toml
end Provision
