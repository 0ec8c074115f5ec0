import Provision.Decimal.Numeral

/-!
# Dates and times

A date, a time of day, or both with an optional offset.  The standard form has a capital `T`
between them and no zeros at the end of a fraction of a second.
-/

namespace Provision
namespace Toml

open Decimal

/-- Reads a number of exactly so many digits. -/
def fixedDigits? (count : Nat) (cs : List Char) : Option (Nat × List Char) :=
  let digits := cs.take count
  if digits.length = count && digits.all Char.isDigit then
    some (foldDigits 10 0 digits, cs.drop count)
  else none

def afterChar? (c : Char) : List Char → Option (List Char)
  | [] => none
  | d :: rest => if d = c then some rest else none

def isLeap (year : Nat) : Bool :=
  year % 4 = 0 && (year % 100 ≠ 0 || year % 400 = 0)

def daysIn (year month : Nat) : Nat :=
  if month = 2 then (if isLeap year then 29 else 28)
  else if month ∈ [4, 6, 9, 11] then 30
  else 31

/-- A number with zeros in front of it. -/
def paddedDigits (width n : Nat) : String :=
  let digits := natDigits n
  String.ofList (List.replicate (width - digits.length) '0' ++ digits)

def date? (cs : List Char) : Option (String × List Char) := do
  let (year, cs) ← fixedDigits? 4 cs
  let cs ← afterChar? '-' cs
  let (month, cs) ← fixedDigits? 2 cs
  let cs ← afterChar? '-' cs
  let (day, cs) ← fixedDigits? 2 cs
  if month < 1 || 12 < month || day < 1 || daysIn year month < day then none
  else
    some (paddedDigits 4 year ++ "-" ++ paddedDigits 2 month ++ "-" ++ paddedDigits 2 day, cs)

/-- The fraction of a second, nine places at most, without zeros at its end. -/
def fractionText (digits : List Char) : String :=
  let kept := ((digits.take 9).reverse.dropWhile (· = '0')).reverse
  if kept.isEmpty then "" else "." ++ String.ofList kept

def fraction? : List Char → Option (String × List Char)
  | '.' :: rest =>
      let digits := rest.takeWhile Char.isDigit
      if digits.isEmpty then none else some (fractionText digits, rest.dropWhile Char.isDigit)
  | cs => some ("", cs)

def time? (cs : List Char) : Option (String × List Char) := do
  let (hour, cs) ← fixedDigits? 2 cs
  let cs ← afterChar? ':' cs
  let (minute, cs) ← fixedDigits? 2 cs
  let cs ← afterChar? ':' cs
  let (second, cs) ← fixedDigits? 2 cs
  let (fraction, cs) ← fraction? cs
  if 23 < hour || 59 < minute || 60 < second then none
  else
    let text := paddedDigits 2 hour ++ ":" ++ paddedDigits 2 minute ++ ":" ++ paddedDigits 2 second
    some (text ++ fraction, cs)

/-- The sign of an offset; an offset of nothing has a plus. -/
def offsetSign (sign : Char) (hour minute : Nat) : Char :=
  if hour = 0 && minute = 0 then '+' else sign

/-- The offset of a time, if one follows. -/
def offset? : List Char → Option (String × List Char)
  | 'Z' :: rest => some ("Z", rest)
  | 'z' :: rest => some ("Z", rest)
  | c :: rest =>
      if c = '+' ∨ c = '-' then do
        let (hour, rest) ← fixedDigits? 2 rest
        let rest ← afterChar? ':' rest
        let (minute, rest) ← fixedDigits? 2 rest
        if 23 < hour || 59 < minute then none
        else
          let sign := String.ofList [offsetSign c hour minute]
          some (sign ++ paddedDigits 2 hour ++ ":" ++ paddedDigits 2 minute, rest)
      else some ("", c :: rest)
  | [] => some ("", [])

/-- Whether a date or time has to stand here: its digits and first mark do. -/
def startsMoment (cs : List Char) : Bool :=
  match fixedDigits? 4 cs, fixedDigits? 2 cs with
  | some (_, '-' :: _), _ => true
  | _, some (_, ':' :: _) => true
  | _, _ => false

/-- Whether a time of day follows a date. -/
def timeFollows : List Char → Bool
  | c :: rest =>
      (c == 'T' || c == 't' || c == ' ') &&
        (match fixedDigits? 2 rest with
        | some (hour, ':' :: _) => hour ≤ 23
        | _ => false)
  | [] => false

def moment? (cs : List Char) : Option (String × List Char) :=
  match fixedDigits? 4 cs with
  | some (_, '-' :: _) => do
      let (date, rest) ← date? cs
      if timeFollows rest then do
        let (time, rest) ← time? rest.tail
        let (offset, rest) ← offset? rest
        some (date ++ "T" ++ time ++ offset, rest)
      else some (date, rest)
  | _ => time? cs

end Toml
end Provision
