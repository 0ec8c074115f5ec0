import Provision.Template.Operator

/-!
# The shape of filters

A filter turns a value and its arguments into a value.  Named arguments come last, together in
one map.  A filter on texts takes every value as it is written, but not a missing one, and a safe
text stays safe.
-/

namespace Provision
namespace Template

/-- The operation of a filter, which may fail. -/
abbrev FilterFunction := Value → List Value → Option Value

/-- The arguments of a filter, the named ones apart. -/
structure Given where
  items : List Value
  named : List (Value × Value)

namespace Given

def ofArgs (args : List Value) : Given :=
  match args.getLast? with
  | some (.map .arguments entries) => ⟨args.dropLast, entries⟩
  | _ => ⟨args, []⟩

/-- Whether all named arguments have one of some names. -/
def allows (given : Given) (names : List String) : Bool :=
  given.named.all (fun entry => entry.1.str?.any names.contains)

/-- A named argument, unless it counts as not given. -/
def get? (given : Given) (name : String) : Option Value :=
  (Value.valueAt? (.text name) given.named).filter (fun value => !value.isOmitted)

/-- A truth value by its name; it is false if it is not given. -/
def flag? (given : Given) (name : String) : Option Bool :=
  match given.get? name with
  | none => some false
  | some (.bool b) => some b
  | some _ => none

/-- A text by its name, which may be left out. -/
def word? (given : Given) (name : String) : Option (Option String) :=
  match given.get? name with
  | none => some none
  | some value => value.str?.map some

/-- An argument by its place or by its name, but not by both. -/
def at? (given : Given) (place : Nat) (name : String) : Option (Option Value) :=
  match given.items[place]?, given.get? name with
  | some _, some _ => none
  | some value, none => some (if value.isOmitted then none else some value)
  | none, value? => some value?

end Given

namespace FilterFunction

/-- A text that is as safe as a value. -/
def asSafeAs (value : Value) (cs : List Char) : Value :=
  .str (String.ofList cs) value.isSafe

def ofText (f : List Char → List Char) : FilterFunction
  | value, [] => value.written?.map (fun s => asSafeAs value (f s.toList))
  | _, _ => none

def ofString (f : String → Value) : FilterFunction
  | value, [] => value.written?.map f
  | _, _ => none

def ofItems (f : List Value → Value) : FilterFunction
  | value, [] => value.iterated?.map f
  | _, _ => none

/-- An optional truth value. -/
def flagOf? : Option Value → Option Bool
  | none => some false
  | some (.bool b) => some b
  | some _ => none

/-- A number of items, which is not negative. -/
def count? (value : Value) : Option Nat :=
  value.int?.bind (fun n => if n < 0 then none else some n.toNat)

end FilterFunction
end Template
end Provision
