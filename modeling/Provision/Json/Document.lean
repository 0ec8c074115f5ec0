import Provision.Json.Basic
import Provision.Manifest.Document

/-!
# Manifests as structured values

A record is written as an object, or as an array of its fields in the order of the schema.  A
choice is a text, or an object whose only field has that name and no value.
-/

namespace Provision
namespace Json

def recordFields? (names : List String) : Json → Option (List (String × Json))
  | .obj fields => some (fields.filter (fun field => field.1 ∈ names))
  | .arr items => if items.length ≤ names.length then some (names.zip items) else none
  | _ => none

def scalarValue? : Json → Option Scalar
  | .str s => some (.text s)
  | .int i => some (.ofInt i)
  | .real x => some (.real x)
  | .bool b => some (.bool b)
  | _ => none

instance : Document Json where
  text? := str?
  scalar? := scalarValue?
  record? := recordFields?
  map?
    | .obj fields => some fields
    | _ => none
  list? := arr?
  choice?
    | .str s => some s
    | .obj [(name, .null)] => some name
    | _ => none
  optional?
    | .null => some none
    | value => some (some value)

end Json
end Provision
