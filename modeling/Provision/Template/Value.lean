import Provision.Decimal.Shortest
import Provision.Json.Basic
import Provision.Template.Tree
import Provision.Text.Quotation

/-!
# Values of templates

Structured data, what can be called, and the absence of a value.  The entries of a map stand in
increasing order of their keys.
-/

namespace Provision
namespace Template

open Decimal

/-- A function that every template can call. -/
inductive Helper where
  | identifier
  | urlIdentifier
  | archiveIdentifier
  | stampIdentifier
  | scopedIdentifier
  | stage
  | reference
  | references
  | inclusion
  | inlineTemplate
  | range
  | map
  | fields
  | inspect
deriving DecidableEq, Repr

def Helper.ofName? : String → Option Helper
  | "identifier" => some .identifier
  | "url_identifier" => some .urlIdentifier
  | "archive_identifier" => some .archiveIdentifier
  | "stamp_identifier" => some .stampIdentifier
  | "scoped_identifier" => some .scopedIdentifier
  | "stage_id" => some .stage
  | "ref" => some .reference
  | "var_dict" => some .references
  | "include" => some .inclusion
  | "tpl" => some .inlineTemplate
  | "range" => some .range
  | "dict" => some .map
  | "namespace" => some .fields
  | "debug" => some .inspect
  | _ => none

/-- What items have been put together as. -/
inductive SeqKind where
  | list
  /-- Items that come out of an operation one after the other. -/
  | stream
  /-- A key and the list of the items that have it. -/
  | group
deriving DecidableEq, Repr

/-- The place of a repetition among its rounds. -/
structure Round where
  index : Nat
  count : Nat
  /-- Under this number the repetition keeps what it was last told. -/
  mark : Nat
deriving DecidableEq, Repr

/-- What entries have been put together as. -/
inductive MapKind where
  | plain
  /-- The named arguments of a call. -/
  | arguments
  /-- Fields that can be bound anew; they are kept under a number. -/
  | fields (cell : Nat)
  /-- The names of a fragment together with its output. -/
  | exports (output : String)
  | round (r : Round)
deriving DecidableEq, Repr

/-- A part of a template that can be called. -/
structure Routine where
  name : String
  parameters : List Parameter
  body : List Stmt
  /-- Whether it makes use of a routine that a call hands to it. -/
  takesCaller : Bool
  /-- Under this number the rendering that it belongs to keeps the variables around its
  definition. -/
  closure : Nat
deriving Repr, Inhabited

inductive Value where
  /-- No value.  Where it may stand for an empty text it is silent. -/
  | undefined (silent : Bool)
  | none
  | bool (b : Bool)
  | int (i : Int)
  | real (x : Binary64)
  /-- A text; a safe one is never escaped. -/
  | str (s : String) (safe : Bool)
  | seq (kind : SeqKind) (items : List Value)
  | map (kind : MapKind) (entries : List (Value × Value))
  | helper (h : Helper)
  | routine (r : Routine)
deriving Repr, Inhabited

namespace Value

def missing : Value := .undefined false

def text (s : String) : Value := .str s false

def ofChars (cs : List Char) : Value := text (String.ofList cs)

def list (items : List Value) : Value := .seq .list items

def stream (items : List Value) : Value := .seq .stream items

/-- The text between list items or map entries. -/
def separator : String := ", "

mutual

/-- How a value is written inside of another one. -/
def quotation : Value → String
  | .undefined _ => "undefined"
  | .str s _ => Text.quotation s
  | .none => "None"
  | .bool b => if b then "True" else "False"
  | .int i => intText i
  | .real x => x.compactText
  | .seq _ items => "[" ++ quotationItems items ++ "]"
  | .map (.exports output) _ => output
  | .map (.round r) _ => "<loop " ++ natText r.index ++ "/" ++ natText r.count ++ ">"
  | .map _ entries => "\x7b" ++ quotationEntries entries ++ "\x7d"
  | .helper _ => "<function>"
  | .routine r => "<macro " ++ r.name ++ ">"

def quotationItems : List Value → String
  | [] => ""
  | [item] => quotation item
  | item :: rest => quotation item ++ separator ++ quotationItems rest

def quotationEntries : List (Value × Value) → String
  | [] => ""
  | [(key, value)] => quotation key ++ ": " ++ quotation value
  | (key, value) :: rest =>
      quotation key ++ ": " ++ quotation value ++ separator ++ quotationEntries rest

end

/-- How a value is written. -/
def display : Value → String
  | .undefined _ => ""
  | .str s _ => s
  | .real x => x.pointedText
  | value => value.quotation

/-- A line end and the blanks before what stands inside of so many values. -/
def freshLine (depth : Nat) : String :=
  String.ofList ('\n' :: List.replicate (4 * depth) ' ')

mutual

/-- How a value is written with each of its parts on a line of its own, inside of so many other
values. -/
def layout (depth : Nat) : Value → String
  | .seq kind items =>
      if items.isEmpty then (Value.seq kind []).quotation
      else "[" ++ layoutItems (depth + 1) items ++ freshLine depth ++ "]"
  | .map .plain entries => layoutMap depth entries
  | .map .arguments entries => layoutMap depth entries
  | .map (.fields _) entries => layoutMap depth entries
  | value => value.quotation

def layoutMap (depth : Nat) (entries : List (Value × Value)) : String :=
  if entries.isEmpty then (Value.map .plain []).quotation
  else "\x7b" ++ layoutEntries (depth + 1) entries ++ freshLine depth ++ "\x7d"

def layoutItems (depth : Nat) : List Value → String
  | [] => ""
  | item :: rest => freshLine depth ++ layout depth item ++ "," ++ layoutItems depth rest

def layoutEntries (depth : Nat) : List (Value × Value) → String
  | [] => ""
  | (key, value) :: rest =>
      freshLine depth ++ layout depth key ++ ": " ++ layout depth value ++ "," ++
        layoutEntries depth rest

end

/-- The text of a value that is a text. -/
def str? : Value → Option String
  | .str s _ => some s
  | _ => Option.none

/-- The text that a value is written as, where a text is asked for. -/
def written? : Value → Option String
  | .undefined _ => Option.none
  | .map .arguments _ => Option.none
  | value => some value.display

def isUndefined : Value → Bool
  | .undefined _ => true
  | _ => false

/-- Whether there is no value and nothing may stand for it. -/
def isMissing : Value → Bool
  | .undefined silent => !silent
  | _ => false

/-- Whether an argument counts as not given. -/
def isOmitted : Value → Bool
  | .undefined _ => true
  | .none => true
  | _ => false

def isSafe : Value → Bool
  | .str _ safe => safe
  | _ => false

/-- Whether a value counts as true. -/
def truth : Value → Bool
  | .undefined _ => false
  | .none => false
  | .bool b => b
  | .int i => i ≠ 0
  | .real x => !x.isZero
  | .str s _ => s ≠ ""
  | .seq _ items => !items.isEmpty
  | .map _ entries => !entries.isEmpty
  | .helper _ => true
  | .routine _ => true

/-- The truth of a condition, which has to have a value. -/
def condition? (value : Value) : Option Bool :=
  if value.isMissing then Option.none else some value.truth

/-- The integer that a value is, if it is one. -/
def int? : Value → Option Int
  | .bool b => some (if b then 1 else 0)
  | .int i => some i
  | .real x => x.toInt?
  | _ => Option.none

def real? : Value → Option Binary64
  | .bool b => some (Binary64.ofInt (if b then 1 else 0))
  | .int i => some (Binary64.ofInt i)
  | .real x => some x
  | _ => Option.none

/-- The parts of a value that has parts: the items of a list, the keys of a map. -/
def parts? : Value → Option (List Value)
  | .seq _ items => some items
  | .map _ entries => some (entries.map Prod.fst)
  | _ => Option.none

/-- The values that a value holds: its parts, or the characters of a text.  Nothing holds
nothing. -/
def items? : Value → Option (List Value)
  | .undefined _ => some []
  | .none => some []
  | .str s _ => some (s.toList.map (fun c => ofChars [c]))
  | value => value.parts?

/-- The values to run through, which may not be missing. -/
def iterated? (value : Value) : Option (List Value) :=
  if value.isMissing then Option.none else value.items?

/-- The number of items, entries or characters. -/
def size? : Value → Option Nat
  | .str s _ => some s.toList.length
  | .seq _ items => some items.length
  | .map _ entries => some entries.length
  | _ => Option.none

end Value
end Template
end Provision
