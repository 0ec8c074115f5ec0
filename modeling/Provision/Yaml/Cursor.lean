/-!
# Characters and positions in YAML text

A line ends at a line feed, a carriage return, both together, or one of three further characters;
the end of the text counts as a line end for whatever has to be followed by one.  A cursor is the
rest of a text with the position at which it starts.
-/

namespace Provision
namespace Yaml

/-- Whether a character may occur in a text at all. -/
def isPrintable (c : Char) : Bool :=
  let code := c.toNat
  code == 0x09 || code == 0x0A || code == 0x0D || (0x20 ≤ code && code ≤ 0x7E) || code == 0x85 ||
    (0xA0 ≤ code && code ≤ 0xFFFD && code != 0xFEFF) || 0x10000 ≤ code

def isBreak (c : Char) : Bool :=
  c == '\n' || c == '\r' || c == '\u0085' || c == '\u2028' || c == '\u2029'

def isBlank (c : Char) : Bool :=
  c == ' ' || c == '\t'

def isSpaceOrBreak (c : Char) : Bool :=
  isBlank c || isBreak c

/-- Whether what comes next is white space or the end of the text. -/
def endsWord : Option Char → Bool
  | none => true
  | some c => isSpaceOrBreak c

/-- A character of an anchor, a tag handle or a directive name. -/
def isWordChar (c : Char) : Bool :=
  c.isAlphanum || c == '-' || c == '_'

structure Cursor where
  rest : List Char
  index : Nat
  line : Nat
  column : Nat

namespace Cursor

def start (cs : List Char) : Cursor := ⟨cs, 0, 0, 0⟩

def peek (c : Cursor) : Option Char := c.rest.head?

/-- The character the given number of places ahead. -/
def ahead (c : Cursor) (n : Nat) : Option Char := c.rest[n]?

def atEnd (c : Cursor) : Bool := c.rest.isEmpty

/-- Passes over characters of one line. -/
def skip (c : Cursor) (n : Nat) : Cursor :=
  ⟨c.rest.drop n, c.index + n, c.line, c.column + n⟩

/-- Splits off the characters of one line that satisfy a condition. -/
def span (c : Cursor) (p : Char → Bool) : List Char × Cursor :=
  let taken := c.rest.takeWhile p
  (taken, c.skip taken.length)

def skipWhile (c : Cursor) (p : Char → Bool) : Cursor := (c.span p).2

/-- Passes over the line end that comes next. -/
def skipBreak (c : Cursor) : Cursor :=
  match c.rest with
  | '\r' :: '\n' :: rest => ⟨rest, c.index + 2, c.line + 1, 0⟩
  | _ :: rest => ⟨rest, c.index + 1, c.line + 1, 0⟩
  | [] => c

/-- The line end that comes next as it is kept in a scalar. -/
def breakText (c : Cursor) : List Char :=
  match c.rest with
  | [] => []
  | d :: _ => if d == '\u2028' || d == '\u2029' then [d] else ['\n']

def atBreak (c : Cursor) : Bool := c.peek.any isBreak

def atBlank (c : Cursor) : Bool := c.peek.any isBlank

def skipComment (c : Cursor) : Cursor :=
  if c.peek == some '#' then c.skipWhile (fun d => !isBreak d) else c

/-- Whether a marker that starts or ends a document stands here. -/
def atMarker (c : Cursor) (marker : List Char) : Bool :=
  c.column == 0 && marker.isPrefixOf c.rest && endsWord (c.ahead 3)

def atDocumentMarker (c : Cursor) : Bool :=
  c.atMarker ['-', '-', '-'] || c.atMarker ['.', '.', '.']

end Cursor
end Yaml
end Provision
