import Provision.Manifest.Document
import Provision.Yaml.Lexer
import Provision.Yaml.Node
import Provision.Yaml.Plain

/-!
# Manifests as YAML

Any scalar is a text where a text is asked for, and an empty plain scalar is a record, map or list
without entries.  Where the type of a scalar matters it follows from its tag or, for a plain
scalar, from its text.
-/

namespace Provision
namespace Yaml

open Decimal

/-- A node together with the anchored nodes of its document. -/
structure Value where
  anchored : List (Nat × Node)
  node : Node

mutual

/-- The anchored nodes of a tree, in the order in which they begin. -/
def Node.anchored : Node → List (Nat × Node)
  | .alias _ => []
  | .scalar p plain text =>
      (p.anchor.map (fun n => (n, Node.scalar p plain text))).toList
  | .sequence p items =>
      (p.anchor.map (fun n => (n, Node.sequence p items))).toList ++ anchoredItems items
  | .mapping p entries =>
      (p.anchor.map (fun n => (n, Node.mapping p entries))).toList ++ anchoredEntries entries

def anchoredItems : List Node → List (Nat × Node)
  | [] => []
  | item :: rest => item.anchored ++ anchoredItems rest

def anchoredEntries : List (Node × Node) → List (Nat × Node)
  | [] => []
  | (key, value) :: rest => key.anchored ++ value.anchored ++ anchoredEntries rest

end

namespace Value

/-- The root of a document; of two nodes with one anchor number the later one counts. -/
def root (node : Node) : Value := ⟨node.anchored.reverse, node⟩

/-- The node that is meant, seen through an alias. -/
def target (v : Value) : Node :=
  match v.node with
  | .alias number => (v.anchored.lookup number).getD v.node
  | node => node

def of (v : Value) (node : Node) : Value := ⟨v.anchored, node⟩

def text? (v : Value) : Option String :=
  match v.target with
  | .scalar _ _ text => some (String.ofList text)
  | _ => none

/-- The name of a tag that belongs to the document alone. -/
def localTag? (p : Properties) : Option (List Char) :=
  match p.tag with
  | some ('!' :: name) => some name
  | _ => none

/-- What is left out: an empty plain scalar. -/
def isOmitted : Node → Bool
  | .scalar _ true [] => true
  | _ => false

def coreTag (name : String) : List Char := "tag:yaml.org,2002:".toList ++ name.toList

/-- An integer of at most 64 bits, signed or unsigned. -/
def scalarOfInt? (i : Int) : Option Scalar :=
  if fitsSigned 64 i || fitsUnsigned 64 i then some (.ofInt i) else none

def plainScalar? (text : List Char) : Option Scalar :=
  match resolve text with
  | .null => none
  | .bool b => some (.bool b)
  | .int i => scalarOfInt? i
  | .real x => some (.real x)
  | .text => some (.text (String.ofList text))

def scalar? (v : Value) : Option Scalar :=
  match v.target with
  | .scalar p plain text =>
      if (localTag? p).isSome then none
      else
        match p.tag with
        | none => if plain then plainScalar? text else some (.text (String.ofList text))
        | some tag =>
            if tag = coreTag "bool" then (boolWord? text).map .bool
            else if tag = coreTag "int" then (integer? text).bind scalarOfInt?
            else if tag = coreTag "float" then (real? text).map .real
            else if tag = coreTag "null" then none
            else some (.text (String.ofList text))
  | _ => none

def readKeys (v : Value) : List (Node × Node) → Option (List (String × Value))
  | [] => some []
  | (key, value) :: rest =>
      match (v.of key).text?, readKeys v rest with
      | some name, some others => some ((name, v.of value) :: others)
      | _, _ => none

def entries? (v : Value) : Option (List (String × Value)) :=
  match v.target with
  | .mapping _ entries => readKeys v entries
  | node => if isOmitted node then some [] else none

/-- Whether no key stands twice. -/
def distinctKeys {β : Type} : List (String × β) → Bool
  | [] => true
  | (key, _) :: rest => !rest.any (fun other => other.1 == key) && distinctKeys rest

def fields? (names : List String) (v : Value) : Option (List (String × Value)) :=
  match v.entries? with
  | none => none
  | some entries =>
      let known := entries.filter (fun entry => entry.1 ∈ names)
      if distinctKeys known then some known else none

def items? (v : Value) : Option (List Value) :=
  match v.target with
  | .sequence _ items => some (items.map v.of)
  | node => if isOmitted node then some [] else none

/-- A choice by its text, or by a local tag on nothing. -/
def choice? (v : Value) : Option String :=
  match v.target with
  | .scalar p plain text =>
      match localTag? p with
      | none => some (String.ofList text)
      | some name =>
          if plain && (text.isEmpty || isNullWord text) then some (String.ofList name) else none
  | _ => none

/-- A plain scalar that says nothing leaves a value open, and so does the tag for nothing. -/
def optional? (v : Value) : Option (Option Value) :=
  match v.target with
  | .scalar p true text =>
      match p.tag with
      | none => if text.isEmpty || isNullWord text then some none else some (some v)
      | some tag =>
          if tag = coreTag "null" then (if isNullWord text then some none else none)
          else some (some v)
  | _ => some (some v)

instance : Document Value where
  text? := text?
  scalar? := scalar?
  record? := fields?
  map? := entries?
  list? := items?
  choice? := choice?
  optional? := optional?

end Value

/-- The document of a text: `none` if it cannot be read, `some none` if the text has none. -/
def read? (text : String) : Option (Option Value) :=
  match tokens? text.toList with
  | none => none
  | some tokens => (document? tokens).map (·.map Value.root)

end Yaml
end Provision
