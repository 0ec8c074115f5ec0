import Provision.Decimal.Reading
import Provision.Toml.Node

/-!
# Numbers of a TOML document

Integers have 64 bits and may be written in four bases; underscores stand between digits only.
-/

namespace Provision
namespace Toml

open Decimal

/-- The run of digits at the start of a text, in which single underscores may stand between two
digits; `none` if an underscore stands elsewhere or there is no digit. -/
def digitRun? (isDigit : Char → Bool) (cs : List Char) : Option (List Char × List Char) :=
  let run := cs.takeWhile (fun c => isDigit c || c == '_')
  if wellPlaced true run then some (run.filter (· ≠ '_'), cs.drop run.length) else none
where
  wellPlaced : (needsDigit : Bool) → List Char → Bool
    | needsDigit, [] => !needsDigit
    | needsDigit, c :: rest => if c = '_' then !needsDigit && wellPlaced true rest
        else wellPlaced false rest

def int64? (i : Int) : Option Node :=
  if fitsSigned 64 i then some (.int i) else none

def basedInteger? (base : Nat) (cs : List Char) : Option (Node × List Char) := do
  let (digits, rest) ← digitRun? (isDigitOf base) cs
  let node ← int64? (foldDigits base 0 digits)
  some (node, rest)

/-- The whole part of a decimal; a zero at its start stands alone. -/
def wholePart? (cs : List Char) : Option (List Char × List Char) :=
  match cs with
  | '0' :: rest => some (['0'], rest)
  | cs => digitRun? Char.isDigit cs

/-- The fraction after its point, if there is one. -/
def fractionPart? : List Char → Option (List Char × List Char)
  | '.' :: rest => (digitRun? Char.isDigit rest).map (fun r => ('.' :: r.1, r.2))
  | cs => some ([], cs)

/-- The exponent after its letter, if there is one. -/
def exponentPart? : List Char → Option (List Char × List Char)
  | c :: rest =>
      if c = 'e' ∨ c = 'E' then
        match rest with
        | '+' :: digits => (digitRun? Char.isDigit digits).map (fun r => ('e' :: r.1, r.2))
        | '-' :: digits => (digitRun? Char.isDigit digits).map (fun r => ('e' :: '-' :: r.1, r.2))
        | digits => (digitRun? Char.isDigit digits).map (fun r => ('e' :: r.1, r.2))
      else some ([], c :: rest)
  | [] => some ([], [])

def afterText? (word : List Char) (cs : List Char) : Option (List Char) :=
  if word.isPrefixOf cs then some (cs.drop word.length) else none

/-- A decimal after its sign.  One that is too large to be finite is refused unless it is
negative. -/
def decimalNumber? (negative : Bool) (cs : List Char) : Option (Node × List Char) := do
  let (whole, rest) ← wholePart? cs
  let (places, rest) ← fractionPart? rest
  let (exponent, rest) ← exponentPart? rest
  if places.isEmpty && exponent.isEmpty then do
    let n := (foldDigits 10 0 whole : Int)
    let node ← int64? (if negative then -n else n)
    some (node, rest)
  else do
    let x ← unsignedDecimal? negative (whole ++ places ++ exponent)
    if x = .infinite false then none else some (.real x, rest)

def signedNumber? (negative : Bool) (cs : List Char) : Option (Node × List Char) :=
  match afterText? "inf".toList cs, afterText? "nan".toList cs with
  | some rest, _ => some (.real (.infinite negative), rest)
  | _, some rest => some (.real .nan, rest)
  | none, none => decimalNumber? negative cs

def number? (cs : List Char) : Option (Node × List Char) :=
  match cs with
  | '+' :: rest => signedNumber? false rest
  | '-' :: rest => signedNumber? true rest
  | '0' :: 'x' :: rest => basedInteger? 16 rest
  | '0' :: 'o' :: rest => basedInteger? 8 rest
  | '0' :: 'b' :: rest => basedInteger? 2 rest
  | cs => signedNumber? false cs

end Toml
end Provision
