import Provision.Decimal.Binary64
import Provision.Decimal.Numeral

/-!
# Shortest decimals

The decimal of a number has the fewest digits that read back as that number, and among those the
nearest to it.  The interval of reals that round to a number includes its ends exactly when the
significand is even.
-/

namespace Provision
namespace Decimal

/-- The reals that round to one number, as numerators over a common denominator. -/
structure Rounding where
  low : Nat
  value : Nat
  high : Nat
  den : Nat
  closed : Bool

namespace Rounding

def ofFinite (significand : Nat) (exponent : Int) : Rounding :=
  let num := twoTo exponent
  let below := if significand = twoTo 52 then 1 else 2
  { low := (4 * significand - below) * num
    value := 4 * significand * num
    high := (4 * significand + 2) * num
    den := 4 * twoTo (-exponent)
    closed := significand % 2 = 0 }

/-- Whether `digits * up / down` lies in the interval. -/
def holds (r : Rounding) (up down digits : Nat) : Bool :=
  let point := digits * up * r.den
  if r.closed then r.low * down ≤ point && point ≤ r.high * down
  else r.low * down < point && point < r.high * down

/-- The largest power of ten that does not exceed the value. -/
def decade (r : Rounding) : Int :=
  let guess : Int := ((r.value.log2 : Int) - r.den.log2) * 1233 / 4096
  let reaches (k : Int) : Bool := r.den * tenTo k ≤ r.value * tenTo (-k)
  if reaches (guess + 1) then guess + 1 else if reaches guess then guess else guess - 1

/-- The decimal `digits * 10 ^ power` on the grid of a power of ten, if one reads back. -/
def onGrid (r : Rounding) (power : Int) : Option (Nat × Int) :=
  let up := tenTo power
  let down := tenTo (-power)
  let below := r.value * down / (r.den * up)
  let above := below + 1
  match r.holds up down below, r.holds up down above with
  | false, false => none
  | true, false => some (below, power)
  | false, true => some (above, power)
  | true, true =>
      if r.value * down * 2 < (below + above) * up * r.den then some (below, power)
      else some (above, power)

def search (r : Rounding) (decade : Int) : (fuel count : Nat) → Nat × Int
  | 0, _ => (0, 0)
  | fuel + 1, count =>
      match r.onGrid (decade + 1 - count) with
      | some found => found
      | none => search r decade fuel (count + 1)

/-- A decimal without zeros at the end of its digits, of which there are at most so many. -/
def withoutZeros : (count : Nat) → Nat × Int → Nat × Int
  | 0, found => found
  | count + 1, (digits, power) =>
      if digits ≠ 0 && digits % 10 = 0 then withoutZeros count (digits / 10, power + 1)
      else (digits, power)

/-- The digits and the power of ten of the shortest decimal; seventeen digits always suffice. -/
def shortest (r : Rounding) : Nat × Int :=
  withoutZeros 17 (r.search r.decade 17 1)

end Rounding

/-- A decimal without an exponent. -/
def positional (digits : Nat) (power : Int) : List Char :=
  if 0 ≤ power then natDigits digits ++ List.replicate power.toNat '0'
  else
    let places := (-power).toNat
    let text := natDigits digits
    let text := List.replicate (places + 1 - text.length) '0' ++ text
    text.take (text.length - places) ++ '.' :: text.drop (text.length - places)

namespace Binary64

/-- The shortest decimal of a number, never with an exponent. -/
def text : Binary64 → String
  | .nan => "NaN"
  | .infinite negative => if negative then "-inf" else "inf"
  | .finite negative significand exponent =>
      let sign := if negative then "-" else ""
      if significand = 0 then sign ++ "0"
      else
        let (digits, power) := (Rounding.ofFinite significand exponent).shortest
        sign ++ String.ofList (positional digits power)

/-- The shortest decimal, in which a whole number keeps one place. -/
def pointedText (a : Binary64) : String :=
  let plain := a.text
  if !a.isFinite || plain.toList.contains '.' then plain else plain ++ ".0"

/-- A decimal as one digit, its places and an exponent. -/
def scientific (digits : Nat) (power : Int) : List Char :=
  let exponent := power + (natDigits digits).length - 1
  let mantissa :=
    match natDigits digits with
    | [] => []
    | [d] => [d]
    | d :: rest => d :: '.' :: rest
  mantissa ++ 'e' :: (if exponent < 0 then ['-'] else []) ++ natDigits exponent.natAbs

/-- The shortest decimal, with an exponent from ten to the sixteenth on and below a
ten-thousandth. -/
def compactText : Binary64 → String
  | .finite negative significand exponent =>
      let a := Binary64.finite negative significand exponent
      let (digits, power) := (Rounding.ofFinite significand exponent).shortest
      let size := power + (natDigits digits).length
      if significand ≠ 0 && (16 < size || size < -3) then
        (if negative then "-" else "") ++ String.ofList (scientific digits power)
      else a.pointedText
  | a => a.text

end Binary64
end Decimal
end Provision
