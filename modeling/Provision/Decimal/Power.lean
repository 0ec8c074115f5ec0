/-!
# Powers and words

Powers of two and of ten with an integer exponent, of which a negative one counts as zero, so that
a scaled number is a ratio `n * twoTo e / twoTo (-e)`.  The ranges of machine words are intervals
between such powers.
-/

namespace Provision
namespace Decimal

def twoTo (exponent : Int) : Nat := Nat.pow 2 exponent.toNat

def tenTo (exponent : Int) : Nat := Nat.pow 10 exponent.toNat

/-- Whether an integer fits in a signed word of so many bits. -/
def fitsSigned (bits : Nat) (i : Int) : Bool :=
  -(twoTo (bits - 1 : Nat) : Int) ≤ i && i < twoTo (bits - 1 : Nat)

/-- Whether an integer fits in an unsigned word of so many bits. -/
def fitsUnsigned (bits : Nat) (i : Int) : Bool :=
  0 ≤ i && i < twoTo bits

end Decimal
end Provision
