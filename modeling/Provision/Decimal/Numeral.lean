/-!
# Numerals

Natural numbers and integers as digit strings, and digit strings as numbers.  A digit string is
read in any base up to sixteen.
-/

namespace Provision
namespace Decimal

def digitChar (d : Nat) : Char :=
  if d < 10 then Char.ofNat (0x30 + d) else Char.ofNat (0x57 + d)

/-- The value of a digit, letters counting from ten. -/
def digitValue? (c : Char) : Option Nat :=
  if '0' ≤ c ∧ c ≤ '9' then some (c.toNat - 0x30)
  else if 'a' ≤ c ∧ c ≤ 'f' then some (c.toNat - 0x57)
  else if 'A' ≤ c ∧ c ≤ 'F' then some (c.toNat - 0x37)
  else none

def isDigitOf (base : Nat) (c : Char) : Bool :=
  (digitValue? c).any (· < base)

/-- The numeral of a number in front of some text, the given number of divisions at most. -/
def digitsOnto : Nat → Nat → List Char → List Char
  | 0, _, acc => acc
  | fuel + 1, n, acc =>
      let acc := digitChar (n % 10) :: acc
      if n < 10 then acc else digitsOnto fuel (n / 10) acc

/-- The decimal numeral of a natural number. -/
def natDigits (n : Nat) : List Char :=
  digitsOnto (n.log2 + 1) n []

def natText (n : Nat) : String :=
  String.ofList (natDigits n)

def intText (i : Int) : String :=
  if i < 0 then "-" ++ natText i.natAbs else natText i.natAbs

/-- The number that a string of digits denotes, going on from what stands before it. -/
def foldDigits (base : Nat) (start : Nat) (cs : List Char) : Nat :=
  cs.foldl (fun n c => n * base + (digitValue? c).getD 0) start

/-- The number that a non-empty string of digits denotes. -/
def natOfDigits? (base : Nat) (cs : List Char) : Option Nat :=
  if cs.isEmpty || !cs.all (isDigitOf base) then none else some (foldDigits base 0 cs)

end Decimal
end Provision
