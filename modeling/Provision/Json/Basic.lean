import Provision.Decimal.Binary64

/-!
# Structured values

A value with the seven shapes of structured data: whole numbers and binary fractions are kept
apart, and an object keeps its fields in the order in which they were given.
-/

namespace Provision

open Decimal

inductive Json where
  | null
  | bool (b : Bool)
  | int (i : Int)
  | real (x : Binary64)
  | str (s : String)
  | arr (items : List Json)
  | obj (fields : List (String × Json))
deriving Repr, Inhabited

namespace Json

def field? (key : String) : Json → Option Json
  | .obj fields => fields.lookup key
  | _ => none

def str? : Json → Option String
  | .str s => some s
  | _ => none

def arr? : Json → Option (List Json)
  | .arr items => some items
  | _ => none

def strings (texts : List String) : Json :=
  .arr (texts.map .str)

def ofOption (f : α → Json) : Option α → Json
  | none => .null
  | some a => f a

end Json
end Provision
