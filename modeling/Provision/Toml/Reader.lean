import Provision.Toml.Moment
import Provision.Toml.Number
import Provision.Toml.Quoted

/-!
# Reading a TOML document

A document is a sequence of lines, each of which opens a table, adds an entry to the table that
was opened last, or says nothing.
-/

namespace Provision
namespace Toml

def skipBlanks (cs : List Char) : List Char :=
  cs.dropWhile isGap

def isBareKeyChar (c : Char) : Bool :=
  c.isAlphanum || c == '_' || c == '-'

/-- One part of a key; a quoted one stays on its line. -/
def simpleKey? (cs : List Char) : Option (String × List Char) :=
  match cs with
  | '"' :: rest => (lineString? '"' (rest.length + 1) rest).map (fun r => (String.ofList r.1, r.2))
  | '\x27' :: rest =>
      (lineString? '\x27' (rest.length + 1) rest).map (fun r => (String.ofList r.1, r.2))
  | cs =>
      let word := cs.takeWhile isBareKeyChar
      if word.isEmpty then none else some (String.ofList word, cs.drop word.length)

/-- A key has at most this many parts, and a value at most this many levels. -/
def nestingLimit : Nat := 79

/-- A key of a number of parts at most, and the blanks around them. -/
def keyWithin? : (count : Nat) → List Char → Option (List String × String × List Char)
  | 0, _ => none
  | count + 1, cs => do
      let (part, cs) ← simpleKey? (skipBlanks cs)
      match skipBlanks cs with
      | '.' :: cs => do
          let (path, last, cs) ← keyWithin? count cs
          some (part :: path, last, cs)
      | cs => some ([], part, cs)

/-- A key as the dotted parts before its last one, and the last one. -/
def key? (cs : List Char) : Option (List String × String × List Char) :=
  keyWithin? nestingLimit cs

/-- What follows a comment, if one starts here. -/
def afterComment? : List Char → Option (List Char)
  | '#' :: rest =>
      match rest.dropWhile isPlain with
      | [] => some []
      | rest => if (lineEnd? rest).isSome then some rest else none
  | cs => some cs

/-- Skips blanks, line ends and comments. -/
def skipLines? : (fuel : Nat) → List Char → Option (List Char)
  | 0, _ => none
  | fuel + 1, cs =>
      match skipGaps cs.length cs with
      | '#' :: rest => (afterComment? ('#' :: rest)).bind (skipLines? fuel)
      | cs => some cs

mutual

/-- A value with a number of levels of arrays and tables at most. -/
def value? : (fuel levels : Nat) → List Char → Option (Node × List Char)
  | 0, _, _ => none
  | fuel + 1, levels, cs =>
      match cs, levels with
      | [], _ => none
      | '[' :: _, 0 => none
      | '\x7b' :: _, 0 => none
      | '[' :: rest, levels + 1 => (items? fuel levels rest).map (fun r => (.array r.1, r.2))
      | '\x7b' :: rest, levels + 1 =>
          match skipBlanks rest with
          | '\x7d' :: rest => some (.table .closed [], rest)
          | rest =>
              (entries? fuel levels ⟨.closed, []⟩ rest).map
                (fun r => (.table .closed r.1.entries, r.2))
      | c :: _, _ =>
          if c = '"' ∨ c = '\x27' then (string? cs).map (fun r => (.str r.1, r.2))
          else if c = 't' then (afterText? "true".toList cs).map (fun rest => (.bool true, rest))
          else if c = 'f' then (afterText? "false".toList cs).map (fun rest => (.bool false, rest))
          else if startsMoment cs then (moment? cs).map (fun r => (.moment r.1, r.2))
          else number? cs

/-- The items of an array up to its bracket. -/
def items? : (fuel levels : Nat) → List Char → Option (List Node × List Char)
  | 0, _, _ => none
  | fuel + 1, levels, cs => do
      match ← skipLines? (cs.length + 1) cs with
      | ']' :: rest => some ([], rest)
      | cs => do
          let (item, cs) ← value? fuel levels cs
          match ← skipLines? (cs.length + 1) cs with
          | ']' :: rest => some ([item], rest)
          | ',' :: rest => do
              let (items, rest) ← items? fuel levels rest
              some (item :: items, rest)
          | _ => none

/-- The entries of a table that is written as a value, up to its brace. -/
def entries? : (fuel levels : Nat) → Table → List Char → Option (Table × List Char)
  | 0, _, _, _ => none
  | fuel + 1, levels, t, cs => do
      let (path, key, cs) ← key? cs
      let cs ← afterChar? '=' cs
      let (node, cs) ← value? fuel levels (skipBlanks cs)
      let t ← t.addAt path key node
      match skipBlanks cs with
      | '\x7d' :: rest => some (t, rest)
      | ',' :: rest => entries? fuel levels t rest
      | _ => none

end

/-- The document so far and the path of the table that was opened last. -/
structure Reading where
  root : Table
  current : List String

/-- Reads a header after its opening bracket. -/
def header? (r : Reading) (cs : List Char) : Option (Reading × List Char) :=
  match cs with
  | '[' :: cs => do
      let (path, key, cs) ← key? cs
      let cs ← afterChar? ']' cs
      let cs ← afterChar? ']' cs
      let root ← r.root.modifyAt false (Table.openAnother key) path
      some (⟨root, path ++ [key]⟩, cs)
  | cs => do
      let (path, key, cs) ← key? cs
      let cs ← afterChar? ']' cs
      let root ← r.root.modifyAt false (Table.openEntry key) path
      some (⟨root, path ++ [key]⟩, cs)

/-- Reads an entry of the table that was opened last. -/
def keyValue? (r : Reading) (cs : List Char) : Option (Reading × List Char) := do
  let (path, key, cs) ← key? cs
  let cs ← afterChar? '=' cs
  let cs := skipBlanks cs
  let (node, cs) ← value? (cs.length + 1) nestingLimit cs
  let root ← r.root.modifyAt false (Table.addAt path key node) r.current
  some ({ r with root := root }, cs)

/-- Reads what a line says. -/
def statement? (r : Reading) (cs : List Char) : Option (Reading × List Char) :=
  match cs with
  | '[' :: rest => header? r rest
  | cs => keyValue? r cs

/-- Reads lines up to the end of the document. -/
def readLines : (fuel : Nat) → Reading → List Char → Option Reading
  | 0, _, _ => none
  | fuel + 1, r, cs => do
      match ← skipLines? (cs.length + 1) cs with
      | [] => some r
      | cs => do
          let (r, cs) ← statement? r cs
          match ← afterComment? (skipBlanks cs) with
          | [] => some r
          | cs => do
              let cs ← lineEnd? cs
              readLines fuel r cs

/-- The entries of a document; a byte order mark may stand before them. -/
def read? (text : String) : Option (List (String × Node)) :=
  let cs := text.toList
  let cs := if cs.head? = some '\uFEFF' then cs.tail else cs
  (readLines (cs.length + 1) ⟨⟨.opened, []⟩, []⟩ cs).map (fun r => r.root.entries)

end Toml
end Provision
