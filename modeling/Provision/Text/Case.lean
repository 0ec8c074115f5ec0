import Provision.Text.Table.Alphanumeric
import Provision.Text.Table.Case
import Provision.Text.Table.CaseIgnorable
import Provision.Text.Table.CaseMap

/-!
# Character classes and letter case

The classes and case forms of a single character over the whole code space.  Letter case forms
may have several characters: the German sharp s becomes two capitals.
-/

namespace Provision
namespace Text

def isAlphanumeric (c : Char) : Bool :=
  Span.anyContains Table.alphanumeric c.toNat

def isUpper (c : Char) : Bool :=
  Span.anyContains Table.upperCase c.toNat

def isLower (c : Char) : Bool :=
  Span.anyContains Table.lowerCase c.toNat

def isCased (c : Char) : Bool :=
  isUpper c || isLower c || (Shift.image? Table.toLower c.toNat).isSome

/-- The form of a character under a mapping: its expansion if it has one, else its shifted
character, else the character itself. -/
def caseForm (expansions : List (Nat × List Nat)) (shifts : List Shift) (c : Char) : List Char :=
  match (if c.toNat < 0x80 then none else expansions.lookup c.toNat) with
  | some codes => codes.map Char.ofNat
  | none =>
      match Shift.image? shifts c.toNat with
      | some code => [Char.ofNat code]
      | none => [c]

def lower (c : Char) : List Char :=
  caseForm Table.expandLower Table.toLower c

def upper (c : Char) : List Char :=
  caseForm Table.expandUpper Table.toUpper c

def upperText (text : String) : String :=
  String.ofList (text.toList.flatMap upper)

/-- Whether the search for a neighbouring letter in `lowerText` skips the character. -/
def isCaseIgnorable (c : Char) : Bool :=
  Span.anyContains Table.caseIgnorable c.toNat

/-- Whether a capital sigma between these characters stands at the end of a word. -/
def isFinalSigma (before after : List Char) : Bool :=
  let nearest (cs : List Char) := (cs.dropWhile isCaseIgnorable).head?
  (nearest before).any isCased && !(nearest after).any isCased

def lowerFrom (before : List Char) : List Char → List Char
  | [] => []
  | c :: rest =>
      (if c == 'Σ' then [if isFinalSigma before rest then 'ς' else 'σ'] else lower c) ++
        lowerFrom (c :: before) rest

/-- The lower-case form of a whole text, in which a capital sigma at the end of a word has a form
of its own. -/
def lowerText (text : String) : String :=
  String.ofList (lowerFrom [] text.toList)

end Text
end Provision
