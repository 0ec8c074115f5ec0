/-!
# Sets of characters given by spans

A character property is listed as spans of code points.  A span of step two holds every second
code point, which is how alphabets that alternate capital and small letters are laid out.  A
shift is a span together with the distance its members move under a case mapping.
-/

namespace Provision
namespace Text

/-- The code points `first`, `first + step`, and so on up to `last`. -/
structure Span where
  first : Nat
  last : Nat
  step : Nat

namespace Span

def contains (span : Span) (code : Nat) : Bool :=
  span.first ≤ code && code ≤ span.last && (code - span.first) % span.step == 0

/-- Whether one of the spans holds the code point; the spans stand in increasing order. -/
def anyContains : List Span → Nat → Bool
  | [], _ => false
  | span :: rest, code =>
      if code < span.first then false
      else span.contains code || anyContains rest code

end Span

/-- A span whose members all move by the same distance. -/
structure Shift where
  span : Span
  distance : Int

namespace Shift

/-- The image of a code point under the first shift that holds it. -/
def image? : List Shift → Nat → Option Nat
  | [], _ => none
  | shift :: rest, code =>
      if shift.span.contains code then some (Int.toNat (code + shift.distance))
      else image? rest code

end Shift

end Text
end Provision
