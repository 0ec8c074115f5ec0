import Provision.Decimal.Reading
import Provision.Template.Filter.Basic

/-!
# Filters on numbers
-/

namespace Provision
namespace Template
namespace FilterFunction

open Decimal

def abs : FilterFunction
  | .int i, [] => Value.bounded? i.natAbs
  | .real x, [] => some (.real x.abs)
  | _, _ => none

def readInt? (s : String) : Option Int :=
  match s.toList with
  | '-' :: digits => (natOfDigits? 10 digits).map (fun n => -(n : Int))
  | '+' :: digits => (natOfDigits? 10 digits).map (fun n => (n : Int))
  | digits => (natOfDigits? 10 digits).map (fun n => (n : Int))

/-- The whole part of a number within 128 bits. -/
def wholePart (x : Binary64) : Value :=
  .int (x.truncateWithin (-(twoTo 127 : Nat)) ((twoTo 127 : Nat) - 1))

def toInt : FilterFunction
  | .none, [] => some (.int 0)
  | .real x, [] => some (wholePart x)
  | .str s _, [] =>
      match (readInt? s).bind Value.bounded? with
      | some i => some i
      | none => (number? s.toList).map wholePart
  | value, [] => value.int?.map .int
  | _, _ => none

def toReal : FilterFunction
  | .none, [] => some (.real (Binary64.ofInt 0))
  | .str s _, [] => (number? s.toList).map .real
  | value, [] => value.real?.map .real
  | _, _ => none

/-- A number of decimal places, none if it is left out. -/
def places? : List Value → Option Int
  | [] => some 0
  | [places] => if places.isOmitted then some 0 else places.int?.filter (fitsSigned 32)
  | _ => none

/-- Rounds to a number of places, a half away from zero. -/
def round : FilterFunction
  | .int i, args => (places? args).map (fun _ => .int i)
  | .real x, args =>
      (places? args).map fun n =>
        let scale := Binary64.ofDecimal false 1 n
        .real ((x.mul scale).round.div scale)
  | _, _ => none

/-- Adds up numbers; a missing one counts as nothing. -/
def sumFrom : Value → List Value → Option Value
  | total, [] => some total
  | total, .undefined _ :: rest => sumFrom total rest
  | total, .int i :: rest => (Value.add? total (.int i)).bind (fun total => sumFrom total rest)
  | total, .real x :: rest => (Value.add? total (.real x)).bind (fun total => sumFrom total rest)
  | _, _ :: _ => none

def sum : FilterFunction
  | value, [] => value.iterated?.bind (sumFrom (.int 0))
  | _, _ => none

def toBool : FilterFunction
  | value, [] => value.condition?.map .bool
  | _, _ => none

end FilterFunction

open FilterFunction

def numberFilter? : String → Option FilterFunction
  | "abs" => some abs
  | "int" => some toInt
  | "float" => some toReal
  | "round" => some round
  | "sum" => some sum
  | "bool" => some toBool
  | _ => none

end Template
end Provision
