import Provision.Decimal.Numeral

/-!
# String literals

A text between quotation marks, in which the quotation mark, the backslash and the control
characters are escaped.  Reading accepts every escape of the notation, and a character outside
the basic plane may be written as a pair of surrogates.
-/

namespace Provision
namespace Json

open Decimal

def hexDigit (n : Nat) : Char :=
  digitChar (n % 16)

def escape (c : Char) : List Char :=
  if c = '"' then ['\\', '"']
  else if c = '\\' then ['\\', '\\']
  else if c = '\x08' then ['\\', 'b']
  else if c = '\x0C' then ['\\', 'f']
  else if c = '\n' then ['\\', 'n']
  else if c = '\r' then ['\\', 'r']
  else if c = '\t' then ['\\', 't']
  else if c.toNat < 0x20 then
    ['\\', 'u', '0', '0', hexDigit (c.toNat / 16), hexDigit c.toNat]
  else [c]

/-- The literal of a text, quotation marks included. -/
def quoted (cs : List Char) : List Char :=
  '"' :: cs.flatMap escape ++ ['"']

def quotedText (text : String) : String :=
  String.ofList (quoted text.toList)

/-- The character that one letter after a backslash stands for. -/
def simpleEscape? : Char → Option Char
  | '"' => some '"'
  | '\\' => some '\\'
  | '/' => some '/'
  | 'b' => some '\x08'
  | 'f' => some '\x0C'
  | 'n' => some '\n'
  | 'r' => some '\r'
  | 't' => some '\t'
  | _ => none

def fourDigits? (a b c d : Char) : Option Nat :=
  natOfDigits? 16 [a, b, c, d]

def isHighSurrogate (code : Nat) : Bool := 0xD800 ≤ code && code < 0xDC00

def isLowSurrogate (code : Nat) : Bool := 0xDC00 ≤ code && code < 0xE000

/-- Reads what follows the opening quotation mark, up to the closing one; answers the text and
what comes after the literal. -/
def unquote? : List Char → Option (List Char × List Char)
  | [] => none
  | '"' :: rest => some ([], rest)
  | '\\' :: 'u' :: a :: b :: c :: d :: '\\' :: 'u' :: e :: f :: g :: h :: rest =>
      match fourDigits? a b c d with
      | none => none
      | some first =>
          if isHighSurrogate first then
            match fourDigits? e f g h with
            | none => none
            | some second =>
                if isLowSurrogate second then
                  let code := 0x10000 + (first - 0xD800) * 0x400 + (second - 0xDC00)
                  (unquote? rest).map (fun r => (Char.ofNat code :: r.1, r.2))
                else none
          else if isLowSurrogate first then none
          else
            (unquote? ('\\' :: 'u' :: e :: f :: g :: h :: rest)).map
              (fun r => (Char.ofNat first :: r.1, r.2))
  | '\\' :: 'u' :: a :: b :: c :: d :: rest =>
      match fourDigits? a b c d with
      | none => none
      | some code =>
          if isHighSurrogate code || isLowSurrogate code then none
          else (unquote? rest).map (fun r => (Char.ofNat code :: r.1, r.2))
  | '\\' :: c :: rest =>
      match simpleEscape? c with
      | none => none
      | some plain => (unquote? rest).map (fun r => (plain :: r.1, r.2))
  | c :: rest =>
      if c.toNat < 0x20 || c = '\\' then none
      else (unquote? rest).map (fun r => (c :: r.1, r.2))

end Json
end Provision
