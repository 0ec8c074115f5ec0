import Provision.Decimal.Reading
import Provision.Decimal.Numeral

/-!
# Plain scalars with a type

The words for nothing and for truth values, integers in four bases and decimals.  A run of
several digits that starts with a zero is a text.
-/

namespace Provision
namespace Yaml

open Decimal

inductive Resolved where
  | null
  | bool (b : Bool)
  | int (i : Int)
  | real (x : Binary64)
  | text
deriving DecidableEq

def isNullWord (cs : List Char) : Bool :=
  String.ofList cs ∈ ["null", "Null", "NULL", "~"]

def boolWord? (cs : List Char) : Option Bool :=
  let word := String.ofList cs
  if word ∈ ["true", "True", "TRUE"] then some true
  else if word ∈ ["false", "False", "FALSE"] then some false
  else none

def dropSign : List Char → List Char
  | '+' :: rest => rest
  | '-' :: rest => rest
  | cs => cs

/-- Whether a text is digits after a leading zero. -/
def isZeroPadded (cs : List Char) : Bool :=
  match dropSign cs with
  | '0' :: d :: rest => (d :: rest).all Char.isDigit
  | _ => false

/-- The base that a mark at the start of a number stands for, and the digits after it. -/
def based? : List Char → Option (Nat × List Char)
  | '0' :: 'x' :: digits => some (16, digits)
  | '0' :: 'o' :: digits => some (8, digits)
  | '0' :: 'b' :: digits => some (2, digits)
  | _ => none

def magnitude? (cs : List Char) : Option Nat :=
  match (based? cs).bind (fun b => natOfDigits? b.1 b.2) with
  | some n => some n
  | none => if isZeroPadded cs then none else natOfDigits? 10 cs

/-- An integer of 128 bits, signed or unsigned, with an optional sign. -/
def integer? (cs : List Char) : Option Int :=
  let (negative, digits) :=
    match cs with
    | '-' :: rest => (true, rest)
    | '+' :: rest => (false, rest)
    | _ => (false, cs)
  match magnitude? digits with
  | none => none
  | some n =>
      if negative then (if fitsSigned 128 (-(n : Int)) then some (-(n : Int)) else none)
      else if fitsUnsigned 128 n then some n
      else none

/-- A decimal or one of the words for the numbers that are not finite. -/
def real? (cs : List Char) : Option Binary64 :=
  let word := String.ofList cs
  if word ∈ [".inf", ".Inf", ".INF", "+.inf", "+.Inf", "+.INF"] then some (.infinite false)
  else if word ∈ ["-.inf", "-.Inf", "-.INF"] then some (.infinite true)
  else if word ∈ [".nan", ".NaN", ".NAN"] then some .nan
  else (decimal? cs).filter Binary64.isFinite

def resolve (cs : List Char) : Resolved :=
  if cs = [] ∨ isNullWord cs then .null
  else
    match boolWord? cs with
    | some b => .bool b
    | none =>
        match integer? cs with
        | some i => .int i
        | none =>
            match (if isZeroPadded cs then none else real? cs) with
            | some x => .real x
            | none => .text

end Yaml
end Provision
