import Provision.Decimal.Reading
import Provision.Text.Blank

/-!
# Tokens of template text

Text outside of tags is kept, apart from white space that the tags beside it remove: a block or
comment removes the line end behind it, and the blanks before it when nothing else precedes it
on its line.  A minus sign at the edge of a tag removes all white space on that side and a plus
sign keeps all of it.
-/

namespace Provision
namespace Template

open Decimal

inductive Token where
  | text (cs : List Char)
  | exprStart
  | exprEnd
  | blockStart
  | blockEnd
  | word (s : String)
  | str (s : String)
  | int (n : Nat)
  | real (x : Binary64)
  | symbol (s : String)
deriving DecidableEq, Repr

/-- The sign at the edge of a tag. -/
inductive Edge where
  | plain
  | keep
  | remove
deriving DecidableEq, Repr

def edgeOf : Option Char → Edge
  | some '-' => .remove
  | some '+' => .keep
  | _ => .plain

inductive Tag where
  | expr
  | block
  | comment
deriving DecidableEq, Repr

def tagOf? : Char → Option Tag
  | '\x7b' => some .expr
  | '%' => some .block
  | '#' => some .comment
  | _ => none

/-- Splits a text at its first tag: what stands before it, and what follows its two characters. -/
def splitTag : List Char → List Char × Option (Tag × List Char)
  | [] => ([], none)
  | [c] => ([c], none)
  | c :: d :: rest =>
      match (if c = '\x7b' then tagOf? d else none) with
      | some tag => ([], some (tag, rest))
      | none =>
          let (before, found) := splitTag (d :: rest)
          (c :: before, found)

/-- Whether only blanks follow the last line end of a text, given whether that is so for the text
before it. -/
def opensLine (before : Bool) (cs : List Char) : Bool :=
  let line := cs.reverse.takeWhile (· ≠ '\n')
  line.all Text.isBlank && (before || line.length < cs.length)

/-- A text without the blanks after its last line end, if there is nothing else after it. -/
def dropIndent (cs : List Char) : List Char :=
  let kept := (cs.reverse.dropWhile (fun c => Text.isBlank c && c ≠ '\n')).reverse
  if kept.isEmpty || kept.getLast? = some '\n' then kept else cs

/-- The text before a tag, less what the tag removes. -/
def textBefore (tag : Tag) (edge : Edge) (lineOpen : Bool) (cs : List Char) : List Char :=
  match edge with
  | .remove => Text.trimEnd cs
  | .keep => cs
  | .plain => if tag ≠ .expr && opensLine lineOpen cs then dropIndent cs else cs

/-- A text without the line end at its start. -/
def dropLineEnd (cs : List Char) : List Char :=
  let cs := if cs.head? = some '\r' then cs.tail else cs
  if cs.head? = some '\n' then cs.tail else cs

/-- What follows a block or comment, less what its end removes. -/
def textAfter (edge : Edge) (cs : List Char) : List Char :=
  match edge with
  | .remove => Text.trimStart cs
  | .keep => cs
  | .plain => dropLineEnd cs

def isTagSpace (c : Char) : Bool :=
  c == ' ' || c == '\t' || c == '\n' || c == '\r' || c == '\x0C'

/-- Splits a text at the first occurrence of two characters. -/
def splitPair (a b : Char) : List Char → Option (List Char × List Char)
  | c :: d :: rest =>
      if c = a ∧ d = b then some ([], rest)
      else (splitPair a b (d :: rest)).map (fun r => (c :: r.1, r.2))
  | _ => none

/-- Reads the inside of a block that consists of one word; answers the sign at its end and what
follows. -/
def afterBareBlock? (word : List Char) (cs : List Char) : Option (Edge × List Char) :=
  let cs := if cs.head? = some '-' ∨ cs.head? = some '+' then cs.tail else cs
  let cs := cs.dropWhile isTagSpace
  if word.isPrefixOf cs then
    let cs := (cs.drop word.length).dropWhile isTagSpace
    let edge := edgeOf cs.head?
    let cs := if edge = .plain then cs else cs.tail
    match cs with
    | '%' :: '\x7d' :: rest => some (edge, rest)
    | _ => none
  else none

/-- Reads literal text up to the block that ends it; answers the text, the signs at both edges of
that block and what follows. -/
def splitRaw : (fuel : Nat) → List Char → Option (List Char × Edge × Edge × List Char)
  | 0, _ => none
  | fuel + 1, cs =>
      match splitPair '\x7b' '%' cs with
      | none => none
      | some (before, rest) =>
          match afterBareBlock? "endraw".toList rest with
          | some (edge, after) => some (before, edgeOf rest.head?, edge, after)
          | none =>
              (splitRaw fuel rest).map (fun r => (before ++ '\x7b' :: '%' :: r.1, r.2))

/-- A hexadecimal number of so many characters, the first of which may be a plus sign. -/
def hexCode? (count : Nat) (cs : List Char) : Option Nat :=
  match cs.take count with
  | '+' :: digits => if cs.length < count then none else natOfDigits? 16 digits
  | digits => if cs.length < count then none else natOfDigits? 16 digits

def isHighHalf (code : Nat) : Bool := 0xD800 ≤ code && code < 0xDC00

def isLowHalf (code : Nat) : Bool := 0xDC00 ≤ code && code < 0xE000

/-- The character after the letter of an escape by code, and what follows it.  A character of
more than sixteen bits is written as two halves. -/
def wideChar? (cs : List Char) : Option (Char × List Char) :=
  match hexCode? 4 cs with
  | none => none
  | some high =>
      if isHighHalf high then
        match cs.drop 4 with
        | '\\' :: 'u' :: more =>
            match hexCode? 4 more with
            | some low =>
                if isLowHalf low then
                  some (Char.ofNat (0x10000 + (high - 0xD800) * 0x400 + (low - 0xDC00)),
                    more.drop 4)
                else none
            | none => none
        | _ => none
      else if isLowHalf high then none
      else some (Char.ofNat high, cs.drop 4)

/-- The character of an escape by a letter. -/
def letterEscape? : Char → Option Char
  | '"' => some '"'
  | '\\' => some '\\'
  | '/' => some '/'
  | '\x27' => some '\x27'
  | 'b' => some '\x08'
  | 'f' => some '\x0C'
  | 'n' => some '\n'
  | 'r' => some '\r'
  | 't' => some '\t'
  | _ => none

/-- The text of a string between its quotation marks.  What is no escape stands for itself. -/
def unescape? : (fuel : Nat) → List Char → Option (List Char)
  | 0, _ => none
  | _ + 1, [] => some []
  | _ + 1, ['\\'] => none
  | fuel + 1, '\\' :: c :: rest =>
      match letterEscape? c with
      | some d => (unescape? fuel rest).map (d :: ·)
      | none =>
          if c = 'x' then
            match hexCode? 2 rest with
            | some code => (unescape? fuel (rest.drop 2)).map (Char.ofNat code :: ·)
            | none => none
          else if c = 'u' then
            match wideChar? rest with
            | some (d, after) => (unescape? fuel after).map (d :: ·)
            | none => none
          else if isDigitOf 8 c then
            let digits := c :: (rest.take 2).takeWhile (isDigitOf 8)
            let code := foldDigits 8 0 digits
            if 0xFF < code then none
            else (unescape? fuel (rest.drop (digits.length - 1))).map (Char.ofNat code :: ·)
          else (unescape? fuel rest).map (fun cs => '\\' :: c :: cs)
  | fuel + 1, c :: rest => (unescape? fuel rest).map (c :: ·)

/-- Reads a string after its opening quotation mark, with its escapes still in it. -/
def splitString (quote : Char) : List Char → Option (List Char × List Char)
  | [] => none
  | '\\' :: c :: rest => (splitString quote rest).map (fun r => ('\\' :: c :: r.1, r.2))
  | c :: rest =>
      if c = quote then some ([], rest)
      else (splitString quote rest).map (fun r => (c :: r.1, r.2))

/-- How far the number at hand has been read. -/
inductive NumberPart where
  | whole
  | based (base : Nat)
  | fraction
  | exponentMark
  | exponent
deriving DecidableEq

/-- The part of a number that a character continues, if it continues one. -/
def NumberPart.next? (part : NumberPart) (c : Char) : Option NumberPart :=
  match part with
  | .whole =>
      if c = '.' then some .fraction
      else if c = 'e' ∨ c = 'E' then some .exponentMark
      else if c.isDigit ∨ c = '_' then some .whole
      else none
  | .based base =>
      if c.isDigit ∨ c = '_' ∨ (base = 16 ∧ isDigitOf 16 c) then some (.based base) else none
  | .fraction =>
      if c = 'e' ∨ c = 'E' then some .exponentMark
      else if c.isDigit ∨ c = '_' then some .fraction
      else none
  | .exponentMark =>
      if c = '+' ∨ c = '-' ∨ c.isDigit then some .exponent
      else if c = '_' then some .exponentMark
      else none
  | .exponent => if c.isDigit ∨ c = '_' then some .exponent else none

def isWordStart (c : Char) : Bool := c.isAlpha || c == '_'

/-- Whether a point behind a whole number leads to an attribute and not to places. -/
def leadsToAttribute (part : NumberPart) (c : Char) (rest : List Char) : Bool :=
  part == .whole && c == '.' &&
    rest.head?.any (fun d => isWordStart d && d != 'e' && d != 'E')

def splitNumber (part : NumberPart) : List Char → List Char × NumberPart × List Char
  | [] => ([], part, [])
  | c :: rest =>
      match (if leadsToAttribute part c rest then none else part.next? c) with
      | none => ([], part, c :: rest)
      | some next =>
          let (digits, last, after) := splitNumber next rest
          (c :: digits, last, after)

/-- The base marked at the start of a number, and what follows the mark. -/
def numberStart (cs : List Char) : NumberPart × List Char :=
  match cs with
  | '0' :: c :: rest =>
      if c = 'x' ∨ c = 'X' then (.based 16, rest)
      else if c = 'o' ∨ c = 'O' then (.based 8, rest)
      else if c = 'b' ∨ c = 'B' then (.based 2, rest)
      else (.whole, cs)
  | _ => (.whole, cs)

/-- Reads a number of at most 128 bits or a decimal. -/
def readNumber (cs : List Char) : Option (Token × List Char) :=
  let (start, cs) := numberStart cs
  let (written, last, after) := splitNumber start cs
  let digits := written.filter (· ≠ '_')
  let integer (base : Nat) : Option (Token × List Char) :=
    match natOfDigits? base digits with
    | some n => if fitsUnsigned 128 n then some (.int n, after) else none
    | none => none
  if written.getLast? = some '_' then none
  else
    match last with
    | .whole => integer 10
    | .based base => integer base
    | _ => (decimal? digits).map (fun x => (.real x, after))

def isWordChar (c : Char) : Bool := c.isAlphanum || c == '_'

def pairSymbols : List String := ["//", "**", "==", "!=", ">=", "<="]

def singleSymbols : List Char := "+-*/%.,:~|=><()[]\x7b\x7d".toList

def symbol? (cs : List Char) : Option (Token × List Char) :=
  let pair := String.ofList (cs.take 2)
  if pair ∈ pairSymbols then some (.symbol pair, cs.drop 2)
  else
    match cs with
    | c :: rest => if c ∈ singleSymbols then some (.symbol (String.ofList [c]), rest) else none
    | [] => none

/-- The token at the start of the inside of a tag. -/
def insideToken? (cs : List Char) : Option (Token × List Char) :=
  match symbol? cs with
  | some found => some found
  | none =>
      match cs with
      | [] => none
      | c :: rest =>
          if c = '\x27' ∨ c = '"' then
            match splitString c rest with
            | none => none
            | some (body, after) =>
                (unescape? (body.length + 1) body).map (fun s => (.str (String.ofList s), after))
          else if c.isDigit then readNumber cs
          else if isWordStart c then
            some (.word (String.ofList (cs.takeWhile isWordChar)), cs.dropWhile isWordChar)
          else none

/-- How a bracket changes the number of open ones. -/
def balanceChange : Token → Int
  | .symbol "(" => 1
  | .symbol "[" => 1
  | .symbol "\x7b" => 1
  | .symbol ")" => -1
  | .symbol "]" => -1
  | .symbol "\x7d" => -1
  | _ => 0

/-- The end of a tag at the start of a text: the sign at its edge and what follows. -/
def tagEnd? (block : Bool) (cs : List Char) : Option (Edge × List Char) :=
  let edge := edgeOf cs.head?
  let cs := if edge = .plain then cs else cs.tail
  match cs with
  | '%' :: '\x7d' :: rest => if block then some (edge, rest) else none
  | '\x7d' :: '\x7d' :: rest => if block then none else some (edge, rest)
  | _ => none

/-- Reads the inside of a tag.  The end of a tag does not count inside of brackets. -/
def insideTokens (block : Bool) : (fuel : Nat) → (balance : Int) → List Char →
    Option (List Token × Edge × List Char)
  | 0, _, _ => none
  | fuel + 1, balance, cs =>
      let cs := cs.dropWhile isTagSpace
      match (if balance = 0 then tagEnd? block cs else none) with
      | some (edge, after) => some ([], edge, after)
      | none =>
          match insideToken? cs with
          | none => none
          | some (token, after) =>
              (insideTokens block fuel (balance + balanceChange token) after).map
                (fun r => (token :: r.1, r.2))

def textToken (cs : List Char) : List Token :=
  if cs.isEmpty then [] else [.text cs]

/-- The rest of a text after a block or comment, with what is known about its first line. -/
structure Remainder where
  text : List Char
  lineOpen : Bool

def Remainder.after (edge : Edge) (cs : List Char) : Remainder :=
  let text := textAfter edge cs
  ⟨text, text.length < cs.length⟩

/-- The tokens of literal text between two bare blocks, the first of which ends with a sign. -/
def rawTokens (start finish : Edge) (cs : List Char) : List Token :=
  let cs := textAfter start cs
  textToken (textBefore .block finish true cs)

def tokensFrom : (fuel : Nat) → Remainder → Option (List Token)
  | 0, _ => none
  | fuel + 1, r =>
      match splitTag r.text with
      | (before, none) => some (textToken before)
      | (before, some (tag, rest)) =>
          let edge := edgeOf rest.head?
          let inner := if edge = .plain then rest else rest.tail
          let lead := textToken (textBefore tag edge r.lineOpen before)
          match tag with
          | .comment =>
              match splitPair '#' '\x7d' inner with
              | none => none
              | some (comment, after) =>
                  (tokensFrom fuel (.after (edgeOf comment.getLast?) after)).map (lead ++ ·)
          | .expr =>
              match insideTokens false (inner.length + 1) 0 inner with
              | none => none
              | some (tokens, finish, after) =>
                  let after := if finish = .remove then Text.trimStart after else after
                  (tokensFrom fuel ⟨after, false⟩).map
                    (fun later => lead ++ .exprStart :: tokens ++ .exprEnd :: later)
          | .block =>
              match afterBareBlock? "raw".toList rest with
              | some (start, rest) =>
                  match splitRaw (rest.length + 1) rest with
                  | none => none
                  | some (raw, edge, finish, after) =>
                      (tokensFrom fuel (.after finish after)).map
                        (fun later => lead ++ rawTokens start edge raw ++ later)
              | none =>
                  match insideTokens true (inner.length + 1) 0 inner with
                  | none => none
                  | some (tokens, finish, after) =>
                      (tokensFrom fuel (.after finish after)).map
                        (fun later => lead ++ .blockStart :: tokens ++ .blockEnd :: later)

/-- The tokens of a template's text; every tag is at least four characters long. -/
def tokens? (source : List Char) : Option (List Token) :=
  tokensFrom (source.length + 1) ⟨source, true⟩

end Template
end Provision
