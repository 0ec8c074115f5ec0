import Provision.Artifact.Literal
import Provision.Template.Filter.Basic
import Provision.Text.Blank
import Provision.Text.Case
import Provision.Text.Indent

/-!
# Filters on texts
-/

namespace Provision
namespace Template
namespace FilterFunction

/-! ## Letters -/

def isSymbol (c : Char) : Bool :=
  (0x21 ≤ c.toNat && c.toNat ≤ 0x2F) || (0x3A ≤ c.toNat && c.toNat ≤ 0x40) ||
    (0x5B ≤ c.toNat && c.toNat ≤ 0x60) || (0x7B ≤ c.toNat && c.toNat ≤ 0x7E)

/-- Capitalizes the first letter of every word. -/
def titleFrom : (atStart : Bool) → List Char → List Char
  | _, [] => []
  | atStart, c :: rest =>
      if isSymbol c || Text.isBlank c then c :: titleFrom true rest
      else (if atStart then Text.upper c else Text.lower c) ++ titleFrom false rest

def capitalize : List Char → List Char
  | [] => []
  | c :: rest => Text.upper c ++ (Text.lowerText (String.ofList rest)).toList

def upper (cs : List Char) : List Char :=
  (Text.upperText (String.ofList cs)).toList

def lower (cs : List Char) : List Char :=
  (Text.lowerText (String.ofList cs)).toList

/-! ## Pieces -/

/-- Splits a text at every occurrence of another one, from the left. -/
def splitAtText (cut : List Char) : (fuel : Nat) → List Char → List (List Char)
  | 0, cs => [cs]
  | _ + 1, [] => [[]]
  | fuel + 1, c :: rest =>
      if cut.isPrefixOf (c :: rest) then
        [] :: splitAtText cut fuel ((c :: rest).drop cut.length)
      else
        match splitAtText cut fuel rest with
        | [] => [[c]]
        | first :: others => (c :: first) :: others

/-- The pieces of a text between the occurrences of another one; an empty one occurs around every
character. -/
def splitAt (cut cs : List Char) : List (List Char) :=
  if cut.isEmpty then [] :: cs.map (fun c => [c]) ++ [[]]
  else splitAtText cut (cs.length + 1) cs

def joinWith (glue : List Char) : List (List Char) → List Char
  | [] => []
  | [piece] => piece
  | piece :: rest => piece ++ glue ++ joinWith glue rest

/-- Pieces of which those behind the first cuts are put together again. -/
def withinCuts (cuts : Nat) (glue : List Char) (pieces : List (List Char)) : List (List Char) :=
  if pieces.length ≤ cuts + 1 then pieces
  else pieces.take cuts ++ [joinWith glue (pieces.drop cuts)]

/-- The words of a text, which blank characters set apart. -/
def wordsOf (word : List Char) : List Char → List (List Char)
  | [] => if word.isEmpty then [] else [word.reverse]
  | c :: rest =>
      if Text.isBlank c then
        if word.isEmpty then wordsOf [] rest else word.reverse :: wordsOf [] rest
      else wordsOf (c :: word) rest

/-- The pieces of a text between its first blank characters. -/
def splitBlanks : (cuts : Nat) → List Char → List (List Char)
  | _, [] => [[]]
  | 0, cs => [cs]
  | cuts + 1, c :: rest =>
      if Text.isBlank c then [] :: splitBlanks cuts rest
      else
        match splitBlanks (cuts + 1) rest with
        | [] => [[c]]
        | first :: others => (c :: first) :: others

def textItems (pieces : List (List Char)) : Value :=
  .list (pieces.map Value.ofChars)

/-- Splits a text at another one or at blanks, as often as it is asked to. -/
def split : FilterFunction
  | value, args => do
      let cs := (← value.str?).toList
      let cut? ←
        match args.head? with
        | none => some none
        | some cut => if cut.isOmitted then some none else cut.str?.map some
      let cuts? ←
        match args.tail with
        | [] => some none
        | [cuts] => if cuts.isOmitted then some none else cuts.int?.map some
        | _ => none
      let cuts? := cuts?.filter (fun n => 0 ≤ n)
      some (textItems (match cut?, cuts? with
        | none, none => wordsOf [] cs
        | none, some n => splitBlanks n.toNat cs
        | some cut, none => splitAt cut.toList cs
        | some cut, some n => withinCuts n.toNat cut.toList (splitAt cut.toList cs)))

def lines : FilterFunction
  | value, [] => value.str?.map (fun s => textItems (Text.lines s.toList))
  | _, _ => none

/-! ## Changes -/

/-- Replaces every occurrence of a text. -/
def replaceText (old new cs : List Char) : List Char :=
  joinWith new (splitAt old cs)

def replace : FilterFunction
  | value, [old, new] =>
      match value.written?, old.written?, new.written? with
      | some s, some old, some new =>
          some (asSafeAs value (replaceText old.toList new.toList s.toList))
      | _, _, _ => none
  | _, _ => none

/-- A text without some characters at its ends. -/
def trimChars (chars cs : List Char) : List Char :=
  let kept := cs.dropWhile (fun c => c ∈ chars)
  (kept.reverse.dropWhile (fun c => c ∈ chars)).reverse

def trim : FilterFunction
  | value, [] => value.written?.map (fun s => asSafeAs value (Text.trim s.toList))
  | value, [chars] =>
      match value.written? with
      | none => none
      | some s =>
          if chars.isOmitted then some (asSafeAs value (Text.trim s.toList))
          else chars.written?.map (fun chars => asSafeAs value (trimChars chars.toList s.toList))
  | _, _ => none

/-- A text without one line end at its end. -/
def dropFinalLineEnd (cs : List Char) : List Char :=
  let cs := if cs.getLast? = some '\n' then cs.dropLast else cs
  if cs.getLast? = some '\r' then cs.dropLast else cs

/-- Puts a margin before the lines of a text. -/
def indentLines (margin : List Char) (first blank : Bool) (cs : List Char) : List Char :=
  let pad (line : List Char) := if line.isEmpty && !blank then line else margin ++ line
  match Text.pieces '\n' (dropFinalLineEnd cs) with
  | [] => []
  | line :: rest =>
      let lines := (if first then pad line else line) :: rest.map pad
      dropFinalLineEnd (Text.joinPieces '\n' lines ++ ['\n'])

/-- Puts blanks before every line but the first; the first line and empty lines if asked to. -/
def indent : FilterFunction
  | value, args => do
      let given := Given.ofArgs args
      let s ← value.written?
      let width ← given.at? 0 "width"
      let width ← (width.map count?).getD (some 4)
      let first ← (← given.at? 1 "first") |> flagOf?
      let blank ← (← given.at? 2 "blank") |> flagOf?
      if 3 < given.items.length || !given.allows ["width", "first", "blank"] then none
      else some (asSafeAs value (indentLines (List.replicate width ' ') first blank s.toList))

/-- Nests a text by a number of levels. -/
def nest : FilterFunction
  | value, [depth] =>
      match value.written?, count? depth with
      | some s, some n => some (.ofChars (Text.indentWrap n s.toList))
      | _, _ => none
  | _, _ => none

/-- A text as a value of an artifact. -/
def literal (f : List Char → List Char) : FilterFunction :=
  ofString (fun s => .ofChars (f s.toList))

/-! ## Markup -/

def escapeChar : Char → List Char
  | '&' => "&amp;".toList
  | '<' => "&lt;".toList
  | '>' => "&gt;".toList
  | '"' => "&quot;".toList
  | '\x27' => "&#x27;".toList
  | '/' => "&#x2f;".toList
  | c => [c]

/-- A text in which the characters of markup are escaped. -/
def escapeMarkup (s : String) : String :=
  String.ofList (s.toList.flatMap escapeChar)

/-- How a value is written where the characters of markup are escaped. -/
def escaped (value : Value) : String :=
  if value.isSafe then value.display else escapeMarkup value.display

def escape : FilterFunction
  | value, [] => some (.str (escaped value) true)
  | _, _ => none

/-- Joins texts behind a first one; there is no glue behind an empty text. -/
def joinTexts (glue : String) : String → List String → String
  | text, [] => text
  | text, item :: rest =>
      joinTexts glue ((if text = "" then "" else text ++ glue) ++ item) rest

/-- Joins the items of a value.  Where output is escaped and an item is safe, the result is safe
and all else in it is escaped. -/
def join (escaping : Bool) : FilterFunction
  | value, args => do
      let glue ←
        match args with
        | [] => some ""
        | [glue] => if glue.isOmitted then some "" else glue.written?
        | _ => none
      let items ← value.items?
      if escaping && items.any Value.isSafe then
        some (.str (joinTexts (escapeMarkup glue) "" (items.map escaped)) true)
      else some (.text (joinTexts glue "" (items.map Value.display)))

/-- A text stays as it is, and any other value becomes the text that it is written as. -/
def string : FilterFunction
  | .str s safe, [] => some (.str s safe)
  | value, [] => value.written?.map .text
  | _, _ => none

end FilterFunction

open FilterFunction

def textFilter? (escaping : Bool) : String → Option FilterFunction
  | "upper" => some (ofText upper)
  | "lower" => some (ofText lower)
  | "title" => some (ofText (titleFrom true))
  | "capitalize" => some (ofText capitalize)
  | "replace" => some replace
  | "trim" => some trim
  | "split" => some split
  | "lines" => some lines
  | "string" => some string
  | "safe" => some (ofString (fun s => .str s true))
  | "escape" => some escape
  | "e" => some escape
  | "join" => some (join escaping)
  | "indent" => some indent
  | "indent_wrap" => some nest
  | "make_value" => some (literal makeValue)
  | "arg_value" => some (literal argValue)
  | _ => none

end Template
end Provision
