import Provision.Decimal.Numeral
import Provision.Yaml.Cursor
import Provision.Yaml.Token

/-!
# Anchors, tags and directives

Names of anchors are made of word characters.  A tag is a handle and a suffix, or a whole URI
between angle brackets; octets of a URI may be escaped.  The two directives declare a version and
the URI that a tag handle stands for.
-/

namespace Provision
namespace Yaml

/-- Reads the name of an anchor or alias after its indicator. -/
def scanAnchor (c : Cursor) : Option (List Char × Cursor) :=
  let (name, next) := c.span isWordChar
  let ended := endsWord next.peek || next.peek.any (· ∈ "?:,]\x7d%@\x60".toList)
  if name.isEmpty || !ended then none else some (name, next)

def isUriChar (verbatim : Bool) (c : Char) : Bool :=
  isWordChar c || c ∈ ";/?:@&=+$.!~*\x27()".toList || (verbatim && c ∈ ",[]".toList)

/-- An escaped octet. -/
def octet? : List Char → Option Nat
  | '%' :: a :: b :: _ => Decimal.natOfDigits? 16 [a, b]
  | _ => none

/-- The number of octets of a character and the bits that the first of them holds. -/
def leadOctet? (octet : Nat) : Option (Nat × Nat) :=
  if octet < 0x80 then some (1, octet)
  else if 0xC0 ≤ octet ∧ octet < 0xE0 then some (2, octet % 0x20)
  else if 0xE0 ≤ octet ∧ octet < 0xF0 then some (3, octet % 0x10)
  else if 0xF0 ≤ octet ∧ octet < 0xF8 then some (4, octet % 0x08)
  else none

def laterOctets? : (count : Nat) → (code : Nat) → List Char → Option Nat
  | 0, code, _ => some code
  | count + 1, code, cs =>
      match octet? cs with
      | none => none
      | some octet =>
          if octet / 0x40 = 2 then laterOctets? count (code * 0x40 + octet % 0x40) (cs.drop 3)
          else none

/-- A character written in escaped octets, and their number. -/
def escapedChar? (cs : List Char) : Option (Char × Nat) :=
  match (octet? cs).bind leadOctet? with
  | none => none
  | some (count, bits) =>
      (laterOctets? (count - 1) bits (cs.drop 3)).map (fun code => (Char.ofNat code, count))

def scanUri (verbatim : Bool) : (fuel : Nat) → Cursor → Option (List Char × Cursor)
  | 0, _ => none
  | fuel + 1, c =>
      match c.peek with
      | none => some ([], c)
      | some d =>
          if d == '%' then
            match escapedChar? c.rest with
            | none => none
            | some (e, octets) =>
                (scanUri verbatim fuel (c.skip (3 * octets))).map (fun r => (e :: r.1, r.2))
          else if isUriChar verbatim d then
            (scanUri verbatim fuel (c.skip 1)).map (fun r => (d :: r.1, r.2))
          else some ([], c)

/-- Reads a handle: an exclamation mark, and word characters with another one. -/
def scanHandle (c : Cursor) : Option (List Char × Cursor) :=
  if c.peek == some '!' then
    let (name, next) := (c.skip 1).span isWordChar
    if next.peek == some '!' then some ('!' :: name ++ ['!'], next.skip 1)
    else some ('!' :: name, next)
  else none

def isNamedHandle (handle : List Char) : Bool :=
  handle.length > 1 && handle.getLast? == some '!'

/-- The handle and suffix of a tag before what has to follow it. -/
def scanTagBody (c : Cursor) : Option (List Char × List Char × Cursor) :=
  if c.ahead 1 == some '<' then
    match scanUri true (c.rest.length + 1) (c.skip 2) with
    | none => none
    | some (uri, c) =>
        if uri.isEmpty || c.peek != some '>' then none else some ([], uri, c.skip 1)
  else
    match scanHandle c with
    | none => none
    | some (handle, c) =>
        match scanUri false (c.rest.length + 1) c with
        | none => none
        | some (uri, c) =>
            if isNamedHandle handle then
              if uri.isEmpty then none else some (handle, uri, c)
            else
              match handle.drop 1 ++ uri with
              | [] => some ([], ['!'], c)
              | suffix => some (['!'], suffix, c)

def scanTag (inFlow : Bool) (c : Cursor) : Option (List Char × List Char × Cursor) :=
  match scanTagBody c with
  | none => none
  | some (handle, suffix, c) =>
      if endsWord c.peek || (inFlow && c.peek == some ',') then some (handle, suffix, c) else none

/-- Reads a number of a version, of nine digits at most. -/
def scanVersionNumber (c : Cursor) : Option (Nat × Cursor) :=
  let (digits, next) := c.span Char.isDigit
  if digits.length > 9 then none
  else (Decimal.natOfDigits? 10 digits).map (fun n => (n, next))

def scanVersion (c : Cursor) : Option (Token × Cursor) :=
  match scanVersionNumber (c.skipWhile isBlank) with
  | none => none
  | some (major, c) =>
      if c.peek == some '.' then
        (scanVersionNumber (c.skip 1)).map (fun r => (.version major r.1, r.2))
      else none

def scanTagDirective (c : Cursor) : Option (Token × Cursor) :=
  match scanHandle (c.skipWhile isBlank) with
  | none => none
  | some (handle, c) =>
      if !(handle == ['!'] || isNamedHandle handle) || !c.atBlank then none
      else
        match scanUri true (c.rest.length + 1) (c.skipWhile isBlank) with
        | none => none
        | some (uri, c) =>
            if uri.isEmpty || !endsWord c.peek then none else some (.tagDirective handle uri, c)

/-- Reads a directive with the rest of its line. -/
def scanDirective (c : Cursor) : Option (Token × Cursor) :=
  let (name, next) := (c.skip 1).span isWordChar
  let body :=
    if !endsWord next.peek then none
    else if name == "YAML".toList then scanVersion next
    else if name == "TAG".toList then scanTagDirective next
    else none
  match body with
  | none => none
  | some (token, c) =>
      let c := (c.skipWhile isBlank).skipComment
      if c.atEnd then some (token, c) else if c.atBreak then some (token, c.skipBreak) else none

end Yaml
end Provision
