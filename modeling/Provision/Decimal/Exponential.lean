import Provision.Decimal.Binary64

/-!
# Powers of binary fractions

A power with a small whole exponent is computed exactly and rounded once.  Any other one goes
through the logarithm to the base two, with many more places than a number keeps.
-/

namespace Provision
namespace Decimal
namespace Binary64

/-- The places of a logarithm behind the point. -/
def logPlaces : Nat := 192

/-- The places that the digits of a logarithm are computed with. -/
def workPlaces : Nat := 448

/-- The digits of the logarithm of a number from one up to two, highest first: whenever the square
is two or more, the digit is one and the square is halved. -/
def logDigits : (count : Nat) → (x digits : Nat) → Nat
  | 0, _, digits => digits
  | count + 1, x, digits =>
      let square := x * x / twoTo workPlaces
      if square < twoTo (workPlaces + 1 : Nat) then logDigits count square (2 * digits)
      else logDigits count (square / 2) (2 * digits + 1)

/-- The logarithm of `significand * 2 ^ exponent` to the base two, scaled. -/
def logarithm (significand : Nat) (exponent : Int) : Int :=
  let whole := significand.log2
  let x := significand * twoTo ((workPlaces : Int) - whole) / twoTo ((whole : Int) - workPlaces)
  (exponent + whole) * twoTo logPlaces + logDigits logPlaces x 0

/-- The natural logarithm of two, scaled. -/
def logTwo : Nat :=
  (List.range workPlaces).foldl
    (fun total k => total + twoTo workPlaces / ((k + 1) * twoTo (k + 1 : Nat))) 0

/-- The series of the exponential function from its term of some index on, scaled. -/
def expSeries (x : Nat) : (count : Nat) → (index term : Nat) → Nat
  | 0, _, _ => 0
  | count + 1, index, term =>
      term + expSeries x count (index + 1) (term * x / ((index + 1) * twoTo workPlaces))

/-- The number two raised to a scaled power. -/
def ofLogarithm (negative : Bool) (scaled : Int) : Binary64 :=
  let whole := scaled / twoTo logPlaces
  let fraction := (scaled % twoTo logPlaces).toNat * twoTo ((workPlaces : Int) - logPlaces)
  let x := fraction * logTwo / twoTo workPlaces
  if 1100 < whole then .infinite negative
  else if whole < -1200 then zero negative
  else ofScaled negative (expSeries x 120 0 (twoTo workPlaces)) (whole - workPlaces)

/-- The largest whole exponent whose powers are computed exactly. -/
def exactExponents : Nat := 64

/-- The power of a positive number. -/
def positivePower (negative : Bool) (significand : Nat) (exponent : Int) (b : Binary64) :
    Binary64 :=
  match b with
  | .finite sb mb eb =>
      match b.toInt? with
      | some n =>
          let count := n.natAbs
          let power := Nat.pow significand count
          let shift := exponent * count
          if count ≤ exactExponents then
            if n < 0 then ofRatio negative (twoTo (-shift)) (power * twoTo shift)
            else ofScaled negative power shift
          else byLogarithm sb mb eb
      | none => byLogarithm sb mb eb
  | _ => .nan
where
  byLogarithm (sb : Bool) (mb : Nat) (eb : Int) : Binary64 :=
    let log := logarithm significand exponent
    let scaled := log * signed sb mb * twoTo eb / twoTo (-eb)
    ofLogarithm negative scaled

/-- How a number compares with one, apart from its sign. -/
def magnitudeOrder (a : Binary64) : Ordering :=
  (compare? a.abs (ofInt 1)).getD .eq

def isOdd (b : Binary64) : Bool :=
  b.toInt?.any (fun n => n % 2 ≠ 0)

/-- A number raised to a power. -/
def pow (a b : Binary64) : Binary64 :=
  if b.isZero || a.beq (ofInt 1) then ofInt 1
  else
    let negative := a.isNegative && isOdd b
    match a, b with
    | .nan, _ => .nan
    | _, .nan => .nan
    | a, .infinite sb =>
        match magnitudeOrder a, sb with
        | .eq, _ => ofInt 1
        | .gt, false => .infinite false
        | .lt, true => .infinite false
        | _, _ => zero false
    | .infinite _, b => if b.isNegative then zero negative else .infinite negative
    | .finite sa ma ea, b =>
        if ma = 0 then (if b.isNegative then .infinite negative else zero negative)
        else if sa && b.toInt?.isNone then .nan
        else positivePower negative ma ea b

end Binary64
end Decimal
end Provision
