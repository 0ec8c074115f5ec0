import Provision.Yaml.Cursor

/-!
# Literal and folded scalars

A block scalar holds the lines below its header that are indented deeper than what surrounds it.
The header may give the indentation and says what becomes of the line ends at the end.  A folded
scalar joins lines that start with a word.
-/

namespace Provision
namespace Yaml

/-- What becomes of the line ends at the end of a block scalar. -/
inductive Chomping where
  | clip
  | strip
  | keep
deriving DecidableEq, Repr

structure BlockHeader where
  chomping : Chomping
  /-- How much deeper than the surrounding block the lines stand, if it is given. -/
  increment : Option Nat

def chomping? (c : Char) : Option Chomping :=
  if c == '+' then some .keep else if c == '-' then some .strip else none

def increment? (c : Char) : Option Nat :=
  if c.isDigit then some (c.toNat - 0x30) else none

/-- Reads the indicators of a header in either order. -/
def scanHeader (c : Cursor) : Option (BlockHeader × Cursor) :=
  let nonZero (header : BlockHeader) (c : Cursor) : Option (BlockHeader × Cursor) :=
    if header.increment == some 0 then none else some (header, c)
  match c.peek.bind chomping? with
  | some chomping =>
      match (c.ahead 1).bind increment? with
      | some n => nonZero ⟨chomping, some n⟩ (c.skip 2)
      | none => some (⟨chomping, none⟩, c.skip 1)
  | none =>
      match c.peek.bind increment? with
      | some n =>
          match (c.ahead 1).bind chomping? with
          | some chomping => nonZero ⟨chomping, some n⟩ (c.skip 2)
          | none => nonZero ⟨.clip, some n⟩ (c.skip 1)
      | none => some (⟨.clip, none⟩, c)

/-- The line ends before the next line with text. -/
structure BreakScan where
  indent : Nat
  breaks : List Char
  cursor : Cursor

/-- Passes over indentation and empty lines.  An indentation of zero is still to be found: it
becomes that of the deepest line passed over, and at least the given minimum. -/
def scanBreaks (minimum : Nat) : (fuel indent deepest : Nat) → List Char → Cursor →
    Option BreakScan
  | 0, _, _, _, _ => none
  | fuel + 1, indent, deepest, breaks, c =>
      let spaces := (c.rest.takeWhile (· == ' ')).length
      let c := c.skip (if indent = 0 then spaces else min spaces (indent - c.column))
      let deepest := max deepest c.column
      if (indent = 0 || c.column < indent) && c.peek == some '\t' then none
      else if c.atBreak then
        scanBreaks minimum fuel indent deepest (breaks ++ c.breakText) c.skipBreak
      else some ⟨if indent = 0 then max deepest minimum else indent, breaks, c⟩

/-- The text read so far and the line ends that have not been added to it. -/
structure BlockScan where
  text : List Char
  lastBreak : List Char
  breaks : List Char
  cursor : Cursor

/-- Reads the lines of a block scalar. -/
def scanLines (literal : Bool) (indent : Nat) : (fuel : Nat) → (afterBlank : Bool) → BlockScan →
    Option BlockScan
  | 0, _, _ => none
  | fuel + 1, afterBlank, s =>
      if s.cursor.column ≠ indent || s.cursor.atEnd then some s
      else
        let blank := s.cursor.atBlank
        let folds := !literal && s.lastBreak.head? == some '\n' && !afterBlank && !blank
        let joint :=
          if folds then (if s.breaks.isEmpty then [' '] else s.breaks)
          else s.lastBreak ++ s.breaks
        let (line, c) := s.cursor.span (fun d => !isBreak d)
        let text := s.text ++ joint ++ line
        match scanBreaks 0 (c.rest.length + 1) indent 0 [] c.skipBreak with
        | none => none
        | some next =>
            scanLines literal indent fuel blank ⟨text, c.breakText, next.breaks, next.cursor⟩

/-- Reads a block scalar after its indicator.  The indentation is that of the surrounding block,
one less than nothing at the top level. -/
def scanBlock (literal : Bool) (indent : Int) (c : Cursor) : Option (List Char × Cursor) :=
  match scanHeader c with
  | none => none
  | some (header, c) =>
      let c := (c.skipWhile isBlank).skipComment
      if !(c.atEnd || c.atBreak) then none
      else
        let c := c.skipBreak
        let fuel := c.rest.length + 2
        let given := header.increment.map (fun n => indent.toNat + n)
        match scanBreaks (max (indent + 1).toNat 1) fuel (given.getD 0) 0 [] c with
        | none => none
        | some first =>
            match scanLines literal first.indent fuel false ⟨[], [], first.breaks, first.cursor⟩ with
            | none => none
            | some s =>
                let ending :=
                  match header.chomping with
                  | .strip => []
                  | .clip => s.lastBreak
                  | .keep => s.lastBreak ++ s.breaks
                some (s.text ++ ending, s.cursor)

end Yaml
end Provision
