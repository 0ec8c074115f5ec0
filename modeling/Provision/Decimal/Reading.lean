import Provision.Decimal.Binary64
import Provision.Decimal.Numeral

/-!
# Reading decimals

A decimal is a run of digits with at most one point, of which one side may be empty, and an
optional exponent.  It is read as the nearest number.
-/

namespace Provision
namespace Decimal

/-- An exponent after its letter, at the end of a text. -/
def exponentOf? (cs : List Char) : Option Int :=
  match cs with
  | '+' :: digits => (natOfDigits? 10 digits).map (fun n => (n : Int))
  | '-' :: digits => (natOfDigits? 10 digits).map (fun n => -(n : Int))
  | digits => (natOfDigits? 10 digits).map (fun n => (n : Int))

/-- The digits of a decimal without its exponent, and the power of ten of the last of them. -/
def mantissa? (cs : List Char) : Option (List Char × Int) :=
  let whole := cs.takeWhile Char.isDigit
  match cs.dropWhile Char.isDigit with
  | [] => if whole.isEmpty then none else some (whole, 0)
  | '.' :: places =>
      if places.all Char.isDigit && !(whole.isEmpty && places.isEmpty) then
        some (whole ++ places, -(places.length : Int))
      else none
  | _ => none

def isExponentMark (c : Char) : Bool := c == 'e' || c == 'E'

/-- The number nearest to a decimal without a sign. -/
def unsignedDecimal? (negative : Bool) (cs : List Char) : Option Binary64 :=
  match mantissa? (cs.takeWhile (fun c => !isExponentMark c)) with
  | none => none
  | some (digits, power) =>
      let number := foldDigits 10 0 digits
      match cs.dropWhile (fun c => !isExponentMark c) with
      | [] => some (.ofDecimal negative number power)
      | _ :: rest => (exponentOf? rest).map (fun e => .ofDecimal negative number (power + e))

/-- The number nearest to a decimal, which may have a sign. -/
def decimal? : List Char → Option Binary64
  | '+' :: rest => unsignedDecimal? false rest
  | '-' :: rest => unsignedDecimal? true rest
  | cs => unsignedDecimal? false cs

/-- The words for an infinite number. -/
def infinityWords : List String := ["inf", "infinity"]

/-- The number that a decimal or a word for an infinite number or for none stands for. -/
def number? (cs : List Char) : Option Binary64 :=
  let negative := cs.head? = some '-'
  let unsigned := if negative || cs.head? = some '+' then cs.tail else cs
  let word := String.ofList (unsigned.map Char.toLower)
  if word ∈ infinityWords then some (.infinite negative)
  else if word = "nan" then some .nan
  else decimal? cs

end Decimal
end Provision
