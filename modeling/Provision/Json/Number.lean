import Provision.Decimal.Binary64
import Provision.Decimal.Numeral
import Provision.Json.Basic

/-!
# Numbers in structured text

A number without fraction and exponent is a whole number when it fits in 64 bits, signed or
unsigned.  Every other number is a binary fraction: as many leading digits as fit in 64 bits are
taken as a whole number, which is then multiplied or divided by the power of ten that places the
decimal point.  The minus sign of a zero makes it a fraction.
-/

namespace Provision
namespace Json

open Decimal

/-- The parts of a number as written. -/
structure Lexeme where
  negative : Bool
  whole : List Char
  /-- The digits after the point, if there is one. -/
  fraction : Option (List Char)
  exponent : Option Int

def isDigit (c : Char) : Bool := c.isDigit

/-- An exponent, whose sign may be left out. -/
def exponent? (cs : List Char) : Option (Int × List Char) :=
  let (negative, cs) :=
    match cs with
    | '-' :: rest => (true, rest)
    | '+' :: rest => (false, rest)
    | _ => (false, cs)
  match natOfDigits? 10 (cs.takeWhile isDigit) with
  | none => none
  | some n => some (if negative then -(n : Int) else n, cs.dropWhile isDigit)

/-- Splits a number off a text; a whole part of several digits has no leading zero. -/
def lexeme? (cs : List Char) : Option (Lexeme × List Char) :=
  let (negative, cs) :=
    match cs with
    | '-' :: rest => (true, rest)
    | _ => (false, cs)
  let whole := cs.takeWhile isDigit
  let rest := cs.dropWhile isDigit
  if whole.isEmpty || (whole.length > 1 && whole.head? == some '0') then none
  else
    let withExponent (fraction : Option (List Char)) (rest : List Char) :
        Option (Lexeme × List Char) :=
      match rest with
      | c :: tail =>
          if c = 'e' ∨ c = 'E' then
            (exponent? tail).map (fun e => (⟨negative, whole, fraction, some e.1⟩, e.2))
          else some (⟨negative, whole, fraction, none⟩, rest)
      | [] => some (⟨negative, whole, fraction, none⟩, [])
    match rest with
    | '.' :: tail =>
        let places := tail.takeWhile isDigit
        if places.isEmpty then none else withExponent (some places) (tail.dropWhile isDigit)
    | _ => withExponent none rest

/-- The leading digits that fit in 64 bits, as a number, and the digits left over. -/
def takeWord (start : Nat) : List Char → Nat × List Char
  | [] => (start, [])
  | c :: rest =>
      let next := start * 10 + (digitValue? c).getD 0
      if fitsUnsigned 64 next then takeWord next rest else (start, c :: rest)

/-- Moves the decimal point by one multiplication or division, in steps where the power of ten
is out of range; a result out of range is no number. -/
def shiftPoint : (fuel : Nat) → Binary64 → Int → Option Binary64
  | 0, x, _ => some x
  | fuel + 1, x, exponent =>
      if 0 ≤ exponent then
        if 308 < exponent then (if x.isZero then some x else none)
        else
          let product := x.mul (.ofDecimal false 1 exponent)
          if product.isInfinite then none else some product
      else if -308 ≤ exponent then some (x.div (.ofDecimal false 1 (-exponent)))
      else if x.isZero then some x
      else shiftPoint fuel (x.div (.ofDecimal false 1 308)) (exponent + 308)

def real? (negative : Bool) (significand : Nat) (exponent : Int) : Option Json :=
  (shiftPoint 8 (.ofInt significand) exponent).map
    (fun x => .real (if negative then x.neg else x))

namespace Lexeme

def toJson? (l : Lexeme) : Option Json :=
  let (significand, excess) := takeWord 0 l.whole
  match l.fraction, l.exponent with
  | none, none =>
      if !excess.isEmpty then real? l.negative significand excess.length
      else if !l.negative then some (.int significand)
      else if significand ≠ 0 ∧ fitsSigned 64 (-(significand : Int)) then
        some (.int (-(significand : Int)))
      else some (.real (Binary64.ofInt significand).neg)
  | fraction, exponent =>
      let places := fraction.getD []
      let (significand, unread) :=
        if excess.isEmpty then takeWord significand places else (significand, places)
      let power : Int := (excess.length : Int) - (places.length - unread.length : Nat)
      real? l.negative significand (power + exponent.getD 0)

end Lexeme
end Json
end Provision
