import Provision.Decimal.Shortest

/-!
# Documents

A manifest may be written in several formats.  A format says which of its values stand for a
text, a scalar, a record, a map, a list, a choice among names or nothing at all; the schema of
manifests is read through these views alone.
-/

namespace Provision

open Decimal

/-- A single value that is read as a text whatever its type. -/
inductive Scalar where
  | text (s : String)
  | int (i : Int)
  | real (x : Binary64)
  | bool (b : Bool)

namespace Scalar

/-- A whole number; outside the signed range of 64 bits it is read as a binary fraction. -/
def ofInt (i : Int) : Scalar :=
  if fitsSigned 64 i then .int i else .real (.ofInt i)

def toText : Scalar → String
  | .text s => s
  | .int i => intText i
  | .real x => x.text
  | .bool b => if b then "true" else "false"

end Scalar

/-- The views of a format's values; each is `none` where the value does not have that shape. -/
class Document (ν : Type) where
  text? : ν → Option String
  scalar? : ν → Option Scalar
  /-- The fields of a record, given the names it may have; other fields are left out. -/
  record? : List String → ν → Option (List (String × ν))
  /-- The entries of a map; the last entry of a key holds. -/
  map? : ν → Option (List (String × ν))
  list? : ν → Option (List ν)
  /-- The name that is chosen out of several. -/
  choice? : ν → Option String
  /-- A value that may be left open: `some none` if it is. -/
  optional? : ν → Option (Option ν)

namespace Document

variable {ν α : Type} [Document ν]

/-- The value of an optional part of the schema. -/
def optionally (read : ν → Option α) (value : ν) : Option (Option α) :=
  match optional? value with
  | none => none
  | some none => some none
  | some (some inner) => (read inner).map some

/-- A field of a record, or its default if the record does not have it. -/
def field (fields : List (String × ν)) (key : String) (default : α) (read : ν → Option α) :
    Option α :=
  match fields.lookup key with
  | none => some default
  | some value => read value

def readEach (read : ν → Option α) : List ν → Option (List α)
  | [] => some []
  | value :: rest =>
      match read value, readEach read rest with
      | some first, some others => some (first :: others)
      | _, _ => none

def listOf (read : ν → Option α) (value : ν) : Option (List α) :=
  (list? value).bind (readEach read)

def readEntries (read : ν → Option α) : List (String × ν) → Option (List (String × α))
  | [] => some []
  | (key, value) :: rest =>
      match read value, readEntries read rest with
      | some first, some others => some ((key, first) :: others)
      | _, _ => none

end Document
end Provision
