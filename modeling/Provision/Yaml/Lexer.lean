import Provision.Yaml.BlockScalar
import Provision.Yaml.FlowScalar
import Provision.Yaml.Property

/-!
# From YAML text to tokens

Block collections open where indentation grows and close where it shrinks.  A key without an
indicator is only known as such at the colon behind it, so every token that may be one is
remembered with its place among the tokens, and the key is put there when the colon comes.
-/

namespace Provision
namespace Yaml

/-- A token that may turn out to be a key. -/
structure KeyMark where
  /-- Nothing but a key may stand here. -/
  required : Bool
  /-- How many tokens come before it. -/
  number : Nat
  index : Nat
  line : Nat
  column : Nat

structure Lexer where
  cursor : Cursor
  /-- The tokens so far, the latest first, and their number. -/
  tokens : List Token := []
  count : Nat := 0
  /-- The indentation of the innermost block collection and of those around it. -/
  indent : Int := -1
  outerIndents : List Int := []
  /-- The possible key of the innermost flow collection, or of the blocks outside all of them. -/
  mark : Option KeyMark := none
  /-- The same for the surrounding ones; there are as many as open flow collections. -/
  outerMarks : List (Option KeyMark) := []
  keyAllowed : Bool := true

namespace Lexer

def inFlow (l : Lexer) : Bool := !l.outerMarks.isEmpty

def push (l : Lexer) (token : Token) : Lexer :=
  { l with tokens := token :: l.tokens, count := l.count + 1 }

/-- Puts a token where the given number of tokens come before it. -/
def insertAt (l : Lexer) (number : Nat) (token : Token) : Lexer :=
  let later := l.count - number
  { l with
    tokens := l.tokens.take later ++ token :: l.tokens.drop later
    count := l.count + 1 }

/-- Opens a block collection if its column is deeper than the current indentation. -/
def openBlock (l : Lexer) (column : Nat) (number : Nat) (token : Token) : Lexer :=
  if l.inFlow then l
  else if l.indent < column then
    { l.insertAt number token with outerIndents := l.indent :: l.outerIndents, indent := column }
  else l

/-- Closes the block collections that are deeper than a column. -/
def closeBlocks (l : Lexer) (column : Int) : Lexer :=
  if l.inFlow then l else go l.outerIndents l
where
  go : List Int → Lexer → Lexer
    | [], l => l
    | outer :: rest, l =>
        if column < l.indent then
          go rest { l.push .blockEnd with indent := outer, outerIndents := rest }
        else l

/-- Gives up the possible key of the innermost collection. -/
def dropMark (l : Lexer) : Option Lexer :=
  if l.mark.any KeyMark.required then none else some { l with mark := none }

/-- Remembers that the token that comes next may be a key. -/
def saveMark (l : Lexer) : Option Lexer :=
  if l.keyAllowed then
    let c := l.cursor
    (l.dropMark).map (fun l =>
      { l with
        mark := some
          { required := !l.inFlow && l.indent == (c.column : Int)
            number := l.count
            index := c.index
            line := c.line
            column := c.column } })
  else some l

/-- A key stands on one line and is not longer than 1024 characters. -/
def isStale (c : Cursor) (mark : KeyMark) : Bool :=
  mark.line < c.line || mark.index + 1024 < c.index

def dropStale (l : Lexer) : Option Lexer :=
  let stale (mark : Option KeyMark) : Bool := mark.any (isStale l.cursor)
  let lost (mark : Option KeyMark) : Bool :=
    mark.any (fun m => isStale l.cursor m && m.required)
  if lost l.mark || l.outerMarks.any lost then none
  else
    some { l with
      mark := if stale l.mark then none else l.mark
      outerMarks := l.outerMarks.map (fun mark => if stale mark then none else mark) }

/-- Passes over white space, comments and line ends up to the next token.  A tab separates tokens
only where no block collection could start. -/
def skipSpace : (fuel : Nat) → Lexer → Lexer
  | 0, l => l
  | fuel + 1, l =>
      let tabs := l.inFlow || !l.keyAllowed
      let c := (l.cursor.skipWhile (fun d => d == ' ' || (tabs && d == '\t'))).skipComment
      if c.atBreak then
        skipSpace fuel
          { l with cursor := c.skipBreak, keyAllowed := if l.inFlow then l.keyAllowed else true }
      else { l with cursor := c }

def advance (l : Lexer) (n : Nat) : Lexer :=
  { l with cursor := l.cursor.skip n }

def allowKey (l : Lexer) (allowed : Bool) : Lexer :=
  { l with keyAllowed := allowed }

def endStream (l : Lexer) : Option Lexer :=
  ((l.closeBlocks (-1)).dropMark).map (fun l => (l.allowKey false).push .streamEnd)

def directive (l : Lexer) : Option Lexer :=
  match (l.closeBlocks (-1)).dropMark with
  | none => none
  | some l =>
      (scanDirective l.cursor).map (fun r =>
        { (l.allowKey false).push r.1 with cursor := r.2 })

def documentMarker (l : Lexer) (token : Token) : Option Lexer :=
  ((l.closeBlocks (-1)).dropMark).map (fun l => ((l.allowKey false).push token).advance 3)

def openFlow (l : Lexer) (token : Token) : Option Lexer :=
  l.saveMark.map (fun l =>
    ({ l with mark := none, outerMarks := l.mark :: l.outerMarks, keyAllowed := true }.push
      token).advance 1)

def closeFlow (l : Lexer) (token : Token) : Option Lexer :=
  l.dropMark.map (fun l =>
    let l :=
      match l.outerMarks with
      | [] => l
      | mark :: rest => { l with mark, outerMarks := rest }
    ((l.allowKey false).push token).advance 1)

def flowEntry (l : Lexer) : Option Lexer :=
  l.dropMark.map (fun l => ((l.allowKey true).push .flowEntry).advance 1)

/-- Opens a block collection for an indicator, where one is allowed. -/
def openForIndicator (l : Lexer) (token : Token) : Option Lexer :=
  if l.inFlow then some l
  else if l.keyAllowed then some (l.openBlock l.cursor.column l.count token)
  else none

def blockEntry (l : Lexer) : Option Lexer :=
  match (l.openForIndicator .blockSequenceStart).bind dropMark with
  | none => none
  | some l => some (((l.allowKey true).push .blockEntry).advance 1)

def explicitKey (l : Lexer) : Option Lexer :=
  match (l.openForIndicator .blockMappingStart).bind dropMark with
  | none => none
  | some l => some (((l.allowKey (!l.inFlow)).push .key).advance 1)

def value (l : Lexer) : Option Lexer :=
  match l.mark with
  | some mark =>
      let l := { l with mark := none }.insertAt mark.number .key
      let l := l.openBlock mark.column mark.number .blockMappingStart
      some (((l.allowKey false).push .value).advance 1)
  | none =>
      (l.openForIndicator .blockMappingStart).map (fun l =>
        ((l.allowKey (!l.inFlow)).push .value).advance 1)

/-- Takes a token that may be a key, given how it is read. -/
def content (l : Lexer) (scan : Cursor → Option (Token × Cursor)) : Option Lexer :=
  match l.saveMark with
  | none => none
  | some l =>
      (scan l.cursor).map (fun r => { (l.allowKey false).push r.1 with cursor := r.2 })

def anchor (l : Lexer) (token : List Char → Token) : Option Lexer :=
  l.content (fun c => (scanAnchor (c.skip 1)).map (fun r => (token r.1, r.2)))

def tag (l : Lexer) : Option Lexer :=
  l.content (fun c => (scanTag l.inFlow c).map (fun r => (.tag r.1 r.2.1, r.2.2)))

def quoted (l : Lexer) (quote : Char) : Option Lexer :=
  l.content (fun c =>
    (scanQuoted quote (c.rest.length + 1) (c.skip 1)).map (fun r => (.scalar false r.1, r.2)))

def block (l : Lexer) (literal : Bool) : Option Lexer :=
  match l.dropMark with
  | none => none
  | some l =>
      (scanBlock literal l.indent (l.cursor.skip 1)).map (fun r =>
        { (l.allowKey true).push (.scalar false r.1) with cursor := r.2 })

def plain (l : Lexer) : Option Lexer :=
  match l.saveMark with
  | none => none
  | some l =>
      (scanPlain l.inFlow l.indent (l.cursor.rest.length + 1) {} l.cursor).map (fun r =>
        { (l.allowKey r.broken).push (.scalar true r.text) with cursor := r.cursor })

/-- Characters that no plain scalar starts with. -/
def isIndicator (c : Char) : Bool :=
  c ∈ "-?:,[]\x7b\x7d#&*!|>\x27\"%@\x60".toList

/-- Whether a plain scalar may start with a character, given the one after it. -/
def startsPlain (inFlow : Bool) (c : Char) (next : Option Char) : Bool :=
  (!isIndicator c && !isBlank c) || (c == '-' && !next.any isBlank) ||
    (!inFlow && (c == '?' || c == ':') && !endsWord next)

/-- Reads the next token, with the ends of blocks before it. -/
def step (l : Lexer) : Option Lexer :=
  match (skipSpace (l.cursor.rest.length + 1) l).dropStale with
  | none => none
  | some l =>
      let l := l.closeBlocks l.cursor.column
      let next := l.cursor.ahead 1
      match l.cursor.peek with
      | none => l.endStream
      | some c =>
          if l.cursor.column == 0 && c == '%' then l.directive
          else if l.cursor.atMarker ['-', '-', '-'] then l.documentMarker .documentStart
          else if l.cursor.atMarker ['.', '.', '.'] then l.documentMarker .documentEnd
          else if c == '[' then l.openFlow .flowSequenceStart
          else if c == '\x7b' then l.openFlow .flowMappingStart
          else if c == ']' then l.closeFlow .flowSequenceEnd
          else if c == '\x7d' then l.closeFlow .flowMappingEnd
          else if c == ',' then l.flowEntry
          else if c == '-' && endsWord next then l.blockEntry
          else if c == '?' && (l.inFlow || endsWord next) then l.explicitKey
          else if c == ':' && (l.inFlow || endsWord next) then l.value
          else if c == '*' then l.anchor .alias
          else if c == '&' then l.anchor .anchor
          else if c == '!' then l.tag
          else if c == '|' && !l.inFlow then l.block true
          else if c == '>' && !l.inFlow then l.block false
          else if c == '\x27' || c == '"' then l.quoted c
          else if startsPlain l.inFlow c next then l.plain
          else none

/-- Reads tokens up to the end of the text. -/
def run : (fuel : Nat) → Lexer → Option Lexer
  | 0, _ => none
  | fuel + 1, l =>
      match l.step with
      | none => none
      | some l => if l.tokens.head? == some .streamEnd then some l else run fuel l

end Lexer

/-- A byte order mark may stand before a text. -/
def dropByteOrderMark : List Char → List Char
  | '\uFEFF' :: rest => rest
  | cs => cs

/-- The tokens of a text; every one but the last takes some of its characters. -/
def tokens? (text : List Char) : Option (List Token) :=
  let cs := dropByteOrderMark text
  if cs.all isPrintable then
    (Lexer.run (cs.length + 1) { cursor := .start cs }).map (fun l => l.tokens.reverse)
  else none

end Yaml
end Provision
