import Provision.Decimal.Power

/-!
# Binary floating point numbers of 64 bits

A finite number is a sign, a significand of at most 53 bits and a power of two.  Every operation
computes the exact result as a ratio of natural numbers and rounds it once, to the nearest number
and to the even significand when two are equally near.
-/

namespace Provision
namespace Decimal

inductive Binary64 where
  /-- The number `significand * 2 ^ exponent` with a sign. -/
  | finite (negative : Bool) (significand : Nat) (exponent : Int)
  | infinite (negative : Bool)
  | nan
deriving DecidableEq, Repr

/-- The quotient rounded to the nearest natural number, a half to the even neighbour. -/
def roundDiv (num den : Nat) : Nat :=
  let quotient := num / den
  let twice := 2 * (num % den)
  if twice < den then quotient
  else if den < twice then quotient + 1
  else if quotient % 2 = 0 then quotient else quotient + 1

namespace Binary64

def minExponent : Int := -1074

def maxExponent : Int := 971

def zero (negative : Bool) : Binary64 := .finite negative 0 minExponent

/-- The largest exponent of two whose power does not exceed a positive ratio. -/
def binade (num den : Nat) : Int :=
  let guess : Int := (num.log2 : Int) - den.log2
  if den * twoTo guess ≤ num * twoTo (-guess) then guess else guess - 1

/-- The number nearest to a ratio, with a sign. -/
def ofRatio (negative : Bool) (num den : Nat) : Binary64 :=
  if num = 0 then zero negative
  else
    let exponent := max minExponent (binade num den - 52)
    let significand := roundDiv (num * twoTo (-exponent)) (den * twoTo exponent)
    let carried := significand = twoTo 53
    let exponent := if carried then exponent + 1 else exponent
    let significand := if carried then twoTo 52 else significand
    if maxExponent < exponent then .infinite negative
    else .finite negative significand exponent

/-- The number nearest to `value * 2 ^ exponent`, with a sign. -/
def ofScaled (negative : Bool) (value : Nat) (exponent : Int) : Binary64 :=
  ofRatio negative (value * twoTo exponent) (twoTo (-exponent))

def ofInt (i : Int) : Binary64 :=
  ofRatio (i < 0) i.natAbs 1

/-- The number of decimal digits of a natural number, up to one too many. -/
def digitBound (n : Nat) : Nat :=
  n.log2 * 1233 / 4096 + 1

/-- The number nearest to `digits * 10 ^ exponent`, with a sign.  Decimals far outside the range
are settled without computing the power. -/
def ofDecimal (negative : Bool) (digits : Nat) (exponent : Int) : Binary64 :=
  if digits = 0 then zero negative
  else if 330 < exponent + digitBound digits then .infinite negative
  else if exponent + digitBound digits < -340 then zero negative
  else ofRatio negative (digits * tenTo exponent) (tenTo (-exponent))

def isNegative : Binary64 → Bool
  | .finite negative _ _ => negative
  | .infinite negative => negative
  | .nan => false

def isFinite : Binary64 → Bool
  | .finite _ _ _ => true
  | _ => false

def isInfinite : Binary64 → Bool
  | .infinite _ => true
  | _ => false

def isNaN : Binary64 → Bool
  | .nan => true
  | _ => false

def isZero : Binary64 → Bool
  | .finite _ 0 _ => true
  | _ => false

def neg : Binary64 → Binary64
  | .finite negative significand exponent => .finite (!negative) significand exponent
  | .infinite negative => .infinite (!negative)
  | .nan => .nan

def abs : Binary64 → Binary64
  | .finite _ significand exponent => .finite false significand exponent
  | .infinite _ => .infinite false
  | .nan => .nan

def signed (negative : Bool) (n : Nat) : Int :=
  if negative then -(n : Int) else n

/-- Two numbers over the power of two of the smaller exponent. -/
def aligned (sa : Bool) (ma : Nat) (ea : Int) (sb : Bool) (mb : Nat) (eb : Int) :
    Int × Int × Int :=
  let exponent := min ea eb
  (signed sa (ma * twoTo (ea - exponent)), signed sb (mb * twoTo (eb - exponent)), exponent)

def add : Binary64 → Binary64 → Binary64
  | .finite sa ma ea, .finite sb mb eb =>
      let (a, b, exponent) := aligned sa ma ea sb mb eb
      let sum := a + b
      if sum = 0 then zero (sa && sb) else ofScaled (sum < 0) sum.natAbs exponent
  | .nan, _ => .nan
  | _, .nan => .nan
  | .infinite sa, .infinite sb => if sa = sb then .infinite sa else .nan
  | .infinite sa, _ => .infinite sa
  | _, .infinite sb => .infinite sb

def sub (a b : Binary64) : Binary64 := add a (neg b)

def mul : Binary64 → Binary64 → Binary64
  | .finite sa ma ea, .finite sb mb eb => ofScaled (sa != sb) (ma * mb) (ea + eb)
  | .nan, _ => .nan
  | _, .nan => .nan
  | a, b =>
      if a.isZero || b.isZero then .nan else .infinite (a.isNegative != b.isNegative)

def div : Binary64 → Binary64 → Binary64
  | .finite sa ma ea, .finite sb mb eb =>
      if mb = 0 then (if ma = 0 then .nan else .infinite (sa != sb))
      else ofRatio (sa != sb) (ma * twoTo (ea - eb)) (mb * twoTo (eb - ea))
  | .nan, _ => .nan
  | _, .nan => .nan
  | .infinite _, .infinite _ => .nan
  | .infinite sa, b => .infinite (sa != b.isNegative)
  | a, .infinite sb => zero (a.isNegative != sb)

/-- The order of two numbers; a number that is not one has no place in it. -/
def compare? : Binary64 → Binary64 → Option Ordering
  | .nan, _ => none
  | _, .nan => none
  | .infinite sa, .infinite sb => some (compare sb.toNat sa.toNat)
  | .infinite sa, _ => some (if sa then .lt else .gt)
  | _, .infinite sb => some (if sb then .gt else .lt)
  | .finite sa ma ea, .finite sb mb eb =>
      let (a, b, _) := aligned sa ma ea sb mb eb
      some (compare a b)

def beq (a b : Binary64) : Bool := compare? a b == some .eq

/-- The order of all numbers, in which a negative zero comes before a positive one and what is not a
number comes last. -/
def order (a b : Binary64) : Ordering :=
  match compare? a b with
  | some .eq => compare b.isNegative.toNat a.isNegative.toNat
  | some other => other
  | none => compare a.isNaN.toNat b.isNaN.toNat

/-- How a number compares with an integer, without rounding. -/
def compareInt? (a : Binary64) (i : Int) : Option Ordering :=
  match a with
  | .finite negative significand exponent =>
      some (compare (signed negative (significand * twoTo exponent)) (i * twoTo (-exponent)))
  | .infinite negative => some (if negative then .lt else .gt)
  | .nan => none

/-- The integer part, toward zero. -/
def truncate? : Binary64 → Option Int
  | .finite negative significand exponent =>
      some (signed negative (significand * twoTo exponent / twoTo (-exponent)))
  | _ => none

/-- The integer that the number is, if it is one. -/
def toInt? : Binary64 → Option Int
  | .finite negative significand exponent =>
      if significand * twoTo exponent % twoTo (-exponent) = 0 then
        some (signed negative (significand * twoTo exponent / twoTo (-exponent)))
      else none
  | _ => none

/-- The number with its fraction cut off. -/
def trunc : Binary64 → Binary64
  | .finite negative significand exponent =>
      ofRatio negative (significand * twoTo exponent / twoTo (-exponent)) 1
  | other => other

/-- The integer part within an interval: numbers beyond it become its ends, and what is not a
number becomes zero. -/
def truncateWithin (low high : Int) (a : Binary64) : Int :=
  match a with
  | .nan => 0
  | .infinite negative => if negative then low else high
  | .finite negative significand exponent =>
      let whole := signed negative (significand * twoTo exponent / twoTo (-exponent))
      max low (min high whole)

/-- The nearest integer, a half away from zero. -/
def round : Binary64 → Binary64
  | .finite negative significand exponent =>
      let num := significand * twoTo exponent
      let den := twoTo (-exponent)
      ofRatio negative ((2 * num + den) / (2 * den)) 1
  | other => other

/-- The remainder with the sign of the dividend. -/
def rem : Binary64 → Binary64 → Binary64
  | .finite sa ma ea, .finite sb mb eb =>
      if mb = 0 then .nan
      else
        let (a, b, exponent) := aligned sa ma ea sb mb eb
        ofScaled sa (a.natAbs % b.natAbs) exponent
  | .finite sa ma ea, .infinite _ => .finite sa ma ea
  | _, _ => .nan

/-- The whole quotient whose remainder is not negative. -/
def divWhole (a b : Binary64) : Binary64 :=
  let quotient := (div a b).trunc
  if (compare? (rem a b) (zero false)) == some .lt then
    if b.isNegative then add quotient (ofInt 1) else sub quotient (ofInt 1)
  else quotient

end Binary64
end Decimal
end Provision
