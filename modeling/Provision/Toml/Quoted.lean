import Provision.Decimal.Numeral

/-!
# Strings of a TOML document

A basic string has escapes and a literal one has none.  Both may span several lines between
three quotation marks; a line end at the start of such a string is not part of it.
-/

namespace Provision
namespace Toml

open Decimal

/-- Characters that may stand in a comment or on a line of a string. -/
def isPlain (c : Char) : Bool :=
  c == '\t' || (0x20 ≤ c.toNat && c.toNat ≠ 0x7F)

/-- The character of a code point, if it is one. -/
def charOf? (code : Nat) : Option Char :=
  if code < 0xD800 ∨ (0xDFFF < code ∧ code < 0x110000) then some (Char.ofNat code) else none

def codePoint? (width : Nat) (cs : List Char) : Option (Char × List Char) := do
  let digits := cs.take width
  if digits.length < width then none
  else do
    let code ← natOfDigits? 16 digits
    let c ← charOf? code
    some (c, cs.drop width)

/-- Reads an escape after its backslash. -/
def escaped? : List Char → Option (Char × List Char)
  | 'b' :: rest => some ('\x08', rest)
  | 'f' :: rest => some ('\x0C', rest)
  | 'n' :: rest => some ('\n', rest)
  | 'r' :: rest => some ('\r', rest)
  | 't' :: rest => some ('\t', rest)
  | '\\' :: rest => some ('\\', rest)
  | '"' :: rest => some ('"', rest)
  | 'u' :: rest => codePoint? 4 rest
  | 'U' :: rest => codePoint? 8 rest
  | _ => none

/-- Reads a string on one line up to its quotation mark. -/
def lineString? (quote : Char) : (fuel : Nat) → List Char → Option (List Char × List Char)
  | 0, _ => none
  | _ + 1, [] => none
  | fuel + 1, c :: rest =>
      if c = quote then some ([], rest)
      else if c = '\\' ∧ quote = '"' then do
        let (d, rest) ← escaped? rest
        let (later, rest) ← lineString? quote fuel rest
        some (d :: later, rest)
      else if isPlain c then do
        let (later, rest) ← lineString? quote fuel rest
        some (c :: later, rest)
      else none

/-- A line end at the start of a text, which may have two characters. -/
def lineEnd? : List Char → Option (List Char)
  | '\n' :: rest => some rest
  | '\r' :: '\n' :: rest => some rest
  | _ => none

def isGap (c : Char) : Bool := c == ' ' || c == '\t'

/-- Skips blanks and line ends. -/
def skipGaps : (fuel : Nat) → List Char → List Char
  | 0, cs => cs
  | fuel + 1, cs =>
      match lineEnd? cs with
      | some rest => skipGaps fuel rest
      | none =>
          match cs with
          | c :: rest => if isGap c then skipGaps fuel rest else cs
          | [] => []

/-- What follows a backslash at the end of a line, with the blanks and empty lines after it. -/
def joinedLine? (cs : List Char) : Option (List Char) :=
  (lineEnd? (cs.dropWhile isGap)).map (fun rest => skipGaps rest.length rest)

/-- Up to two quotation marks right before the three that end a string belong to it. -/
def closingQuotes? (quote : Char) (cs : List Char) : Option (List Char × List Char) :=
  let marks := cs.takeWhile (· = quote)
  if marks.length < 3 then none
  else
    let inside := min 2 (marks.length - 3)
    some (List.replicate inside quote, cs.drop (inside + 3))

/-- Reads a string of several lines up to its three quotation marks. -/
def linesString? (quote : Char) : (fuel : Nat) → List Char → Option (List Char × List Char)
  | 0, _ => none
  | fuel + 1, cs =>
      match closingQuotes? quote cs with
      | some found => some found
      | none =>
          match lineEnd? cs with
          | some rest => (linesString? quote fuel rest).map (fun r => ('\n' :: r.1, r.2))
          | none =>
              match cs with
              | [] => none
              | c :: rest =>
                  if c = '\\' ∧ quote = '"' then
                    match joinedLine? rest with
                    | some rest => linesString? quote fuel rest
                    | none => do
                        let (d, rest) ← escaped? rest
                        let (later, rest) ← linesString? quote fuel rest
                        some (d :: later, rest)
                  else if isPlain c then
                    (linesString? quote fuel rest).map (fun r => (c :: r.1, r.2))
                  else none

/-- Reads a string that starts with its quotation mark. -/
def string? : List Char → Option (String × List Char)
  | '"' :: '"' :: '"' :: rest => many '"' rest
  | '\x27' :: '\x27' :: '\x27' :: rest => many '\x27' rest
  | '"' :: rest => single '"' rest
  | '\x27' :: rest => single '\x27' rest
  | _ => none
where
  many (quote : Char) (rest : List Char) : Option (String × List Char) :=
    let rest := (lineEnd? rest).getD rest
    (linesString? quote (rest.length + 1) rest).map (fun r => (String.ofList r.1, r.2))
  single (quote : Char) (rest : List Char) : Option (String × List Char) :=
    (lineString? quote (rest.length + 1) rest).map (fun r => (String.ofList r.1, r.2))

end Toml
end Provision
