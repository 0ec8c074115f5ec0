import Provision.Decimal.Numeral
import Provision.Yaml.Cursor

/-!
# Plain and quoted scalars

These scalars may go over several lines.  White space inside a line is kept, white space around a
line end is dropped, and a single line end between two words is folded into a space.
-/

namespace Provision
namespace Yaml

/-- The white space between two words of a scalar. -/
structure Gap where
  blanks : List Char := []
  firstBreak : List Char := []
  moreBreaks : List Char := []
  broken : Bool := false

namespace Gap

/-- What a gap contributes to the text. -/
def text (g : Gap) : List Char :=
  if g.broken then
    if g.firstBreak = ['\n'] then
      if g.moreBreaks = [] then [' '] else g.moreBreaks
    else g.firstBreak ++ g.moreBreaks
  else g.blanks

/-- Reads white space.  Below a given column a tab may not stand at the start of a line. -/
def scan (tabLimit : Option Int) : (fuel : Nat) → Gap → Cursor → Option (Gap × Cursor)
  | 0, _, _ => none
  | fuel + 1, g, c =>
      match c.peek with
      | none => some (g, c)
      | some d =>
          if isBlank d then
            if g.broken && d == '\t' && tabLimit.any ((c.column : Int) < ·) then none
            else
              scan tabLimit fuel
                (if g.broken then g else { g with blanks := g.blanks ++ [d] }) (c.skip 1)
          else if isBreak d then
            scan tabLimit fuel
              (if g.broken then { g with moreBreaks := g.moreBreaks ++ c.breakText }
               else { g with blanks := [], firstBreak := c.breakText, broken := true })
              c.skipBreak
          else some (g, c)

end Gap

def isFlowIndicator (c : Char) : Bool :=
  c == ',' || c == '[' || c == ']' || c == '\x7b' || c == '\x7d'

/-- The word of a plain scalar at the start of a text.  In a flow collection a colon may not stand
before an indicator. -/
def plainWord (inFlow : Bool) : List Char → Option (List Char)
  | [] => some []
  | c :: rest =>
      if isSpaceOrBreak c then some []
      else if inFlow && c == ':' && rest.head?.any (fun d => isFlowIndicator d || d == '?') then
        none
      else if (c == ':' && endsWord rest.head?) || (inFlow && isFlowIndicator c) then some []
      else (plainWord inFlow rest).map (c :: ·)

/-- A scalar's text, whether a line end came after its last word, and what follows. -/
structure PlainScan where
  text : List Char
  broken : Bool
  cursor : Cursor

/-- Reads a plain scalar that stands deeper than the given indentation. -/
def scanPlain (inFlow : Bool) (indent : Int) : (fuel : Nat) → Gap → Cursor → Option PlainScan
  | 0, _, _ => none
  | fuel + 1, before, c =>
      if c.atDocumentMarker || c.peek == some '#' then some ⟨[], before.broken, c⟩
      else
        match plainWord inFlow c.rest with
        | none => none
        | some [] => some ⟨[], before.broken, c⟩
        | some word =>
            let text := before.text ++ word
            let c := c.skip word.length
            match Gap.scan (some (indent + 1)) (c.rest.length + 1) {} c with
            | none => none
            | some (gap, next) =>
                if !inFlow && (next.column : Int) < indent + 1 then
                  some ⟨text, gap.broken, next⟩
                else
                  (scanPlain inFlow indent fuel gap next).map
                    (fun r => { r with text := text ++ r.text })

/-- The character of a one-letter escape. -/
def simpleEscape? : Char → Option Char
  | '0' => some '\x00'
  | 'a' => some '\x07'
  | 'b' => some '\x08'
  | 't' => some '\t'
  | '\t' => some '\t'
  | 'n' => some '\n'
  | 'v' => some '\x0B'
  | 'f' => some '\x0C'
  | 'r' => some '\r'
  | 'e' => some '\x1B'
  | ' ' => some ' '
  | '"' => some '"'
  | '/' => some '/'
  | '\\' => some '\\'
  | 'N' => some '\u0085'
  | '_' => some '\u00A0'
  | 'L' => some '\u2028'
  | 'P' => some '\u2029'
  | _ => none

/-- The number of hexadecimal digits after the letter of an escape. -/
def hexEscape? : Char → Option Nat
  | 'x' => some 2
  | 'u' => some 4
  | 'U' => some 8
  | _ => none

/-- The character of an escape and its length, given what follows the backslash. -/
def escape? : List Char → Option (Char × Nat)
  | [] => none
  | c :: rest =>
      match simpleEscape? c with
      | some d => some (d, 1)
      | none =>
          match hexEscape? c with
          | none => none
          | some count =>
              if rest.length < count then none
              else
                match Decimal.natOfDigits? 16 (rest.take count) with
                | none => none
                | some code =>
                    if code.isValidChar then some (Char.ofNat code, count + 1) else none

/-- Reads a scalar after its opening quotation mark, up to the closing one.  Between double
quotation marks a backslash escapes a character or a line end. -/
def scanQuoted (quote : Char) : (fuel : Nat) → Cursor → Option (List Char × Cursor)
  | 0, _ => none
  | fuel + 1, c =>
      let gapThen (gap : Gap) (c : Cursor) : Option (List Char × Cursor) :=
        match Gap.scan none (c.rest.length + 1) gap c with
        | none => none
        | some (gap, c) =>
            (scanQuoted quote fuel c).map (fun r => (gap.text ++ r.1, r.2))
      if c.atDocumentMarker then none
      else
        match c.rest with
        | [] => none
        | d :: rest =>
            if d == quote then
              if quote == '\x27' && rest.head? == some quote then
                (scanQuoted quote fuel (c.skip 2)).map (fun r => (quote :: r.1, r.2))
              else some ([], c.skip 1)
            else if d == '\\' && quote == '"' then
              if rest.head?.any isBreak then gapThen { broken := true } (c.skip 1).skipBreak
              else
                match escape? rest with
                | none => none
                | some (e, length) =>
                    (scanQuoted quote fuel (c.skip (length + 1))).map (fun r => (e :: r.1, r.2))
            else if isSpaceOrBreak d then gapThen {} c
            else (scanQuoted quote fuel (c.skip 1)).map (fun r => (d :: r.1, r.2))

end Yaml
end Provision
