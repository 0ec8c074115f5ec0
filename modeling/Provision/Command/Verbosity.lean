import Provision.Decimal.Numeral
import Provision.Text.Blank
import Provision.Text.Case
import Provision.Text.Lines

/-!
# Verbosity

A setting of the verbosity is a list of directives between commas.  A directive is a level, a
source, a source with its level, or one of these with a detail that a report has to have.  The
narrowest directive that fits a report decides whether it is shown.
-/

namespace Provision

inductive Level where
  | off
  | error
  | warn
  | info
  | debug
  | trace
deriving DecidableEq, Repr

namespace Level

def rank : Level → Nat
  | .off => 0
  | .error => 1
  | .warn => 2
  | .info => 3
  | .debug => 4
  | .trace => 5

def ofName? : String → Option Level
  | "off" => some .off
  | "error" => some .error
  | "warn" => some .warn
  | "info" => some .info
  | "debug" => some .debug
  | "trace" => some .trace
  | _ => none

def ofRank? : Nat → Option Level
  | 0 => some .off
  | 1 => some .error
  | 2 => some .warn
  | 3 => some .info
  | 4 => some .debug
  | 5 => some .trace
  | _ => none

/-- A number without a sign or after a plus sign. -/
def number? : List Char → Option Nat
  | '+' :: digits => Decimal.natOfDigits? 10 digits
  | digits => Decimal.natOfDigits? 10 digits

/-- A level by its number or by its name in any letter case. -/
def ofText? (cs : List Char) : Option Level :=
  match number? cs with
  | some n => ofRank? n
  | none => ofName? (String.ofList (cs.map Char.toLower))

end Level

/-- What the program reports while it runs: how serious it is, where it comes from and which
details it has. -/
structure Notice where
  level : Level
  source : String
  details : List String
deriving DecidableEq, Repr

structure Directive where
  /-- What the source of a notice starts with. -/
  source : List Char
  /-- A detail that the notice has. -/
  detail : Option (List Char)
  level : Level
deriving DecidableEq, Repr

namespace Directive

def fits (d : Directive) (n : Notice) : Bool :=
  d.source.isPrefixOf n.source.toList &&
    d.detail.all (fun detail => n.details.any (fun name => name.toList == detail))

/-- The narrower of two directives that fit a notice has the longer source, or as long a source
and a detail; all such directives have one source, so the detail that sorts later comes next. -/
def narrower (d e : Directive) : Bool :=
  match compare d.source.length e.source.length with
  | .gt => true
  | .lt => false
  | .eq =>
      match d.detail, e.detail with
      | some _, none => true
      | some a, some b => b < a
      | none, _ => false

/-- Whether a directive may start with a character. -/
def isStart (c : Char) : Bool :=
  c == '[' || c == '-' || c == ':' || c == '_' || Text.isAlphanumeric c

/-- What stands after an equals sign: a level, or nothing for all levels. -/
def levelAfter? : List Char → Option Level
  | [] => some .trace
  | cs => Level.ofText? cs

/-- What ends a directive after its brackets: nothing, or a level. -/
def levelAtEnd? (form text : List Char) : Option Level :=
  match form with
  | [] => some .trace
  | '=' :: _ => levelAfter? (text.drop 1)
  | _ => none

/-- The part in brackets and what follows it.  An activity in front of the detail and a value of
the detail can be named, but as there are neither, such a directive fits no notice. -/
def bracketed? (source form text : List Char) : Option (Option Directive) :=
  let width := (form.takeWhile (fun c => c ≠ ']' && c ≠ '{')).length
  match form.drop width with
  | ']' :: rest => (levelAtEnd? rest (text.drop (width + 1))).map (fun _ => none)
  | '{' :: inner =>
      let text := text.drop (width + 1)
      let size := (inner.takeWhile (· ≠ '}')).length
      match inner.drop size with
      | '}' :: ']' :: rest =>
          if size = 0 then none
          else
            let detail := text.take size
            (levelAtEnd? rest (text.drop (size + 2))).map fun level =>
              if width = 0 && !detail.contains '=' then some ⟨source, some detail, level⟩ else none
      | _ => none
  | _ => none

/-- Reads a directive.  Its form is that of the text without the blanks around it, but its parts
are cut out of the whole text, so blanks in front of it shift them. -/
def ofText? (text : List Char) : Option (Option Directive) :=
  let form := Text.trim text
  if !form.head?.any isStart then none
  else
    let width := (form.takeWhile (fun c => c ≠ '=' && c ≠ '[')).length
    match form.drop width with
    | '=' :: _ => (levelAfter? (text.drop (width + 1))).map (fun l => some ⟨text.take width, none, l⟩)
    | '[' :: inner => bracketed? (text.take width) inner (text.drop (width + 1))
    | _ =>
        match Level.ofText? text with
        | some l => some (some ⟨[], none, l⟩)
        | none => some (some ⟨text, none, .trace⟩)

end Directive

/-- The directives of a setting. -/
structure Verbosity where
  directives : List Directive
deriving DecidableEq, Repr

namespace Verbosity

/-- What the sources of all notices of this program start with. -/
def programSource : String := "make_env"

def level (l : Level) : Verbosity := ⟨[⟨[], none, l⟩]⟩

/-- How much is reported when nothing is set. -/
def standard : Verbosity := level .warn

/-- How much is reported when debugging was asked for. -/
def debugging : Verbosity := ⟨[⟨programSource.toList, none, .debug⟩]⟩

def directives? : List (List Char) → Option (List (Option Directive))
  | [] => some []
  | cs :: rest =>
      match Directive.ofText? cs, directives? rest with
      | some first, some others => some (first :: others)
      | _, _ => none

/-- The verbosity of a setting, if it can be read; an empty setting reports errors alone. -/
def ofSetting? (setting : String) : Option Verbosity :=
  match directives? ((Text.pieces ',' setting.toList).filter (fun cs => !cs.isEmpty)) with
  | none => none
  | some [] => some (level .error)
  | some directives => some ⟨directives.filterMap id⟩

/-- The verbosity of a run: a wish for debugging comes before the setting. -/
def ofRun (debug : Bool) (setting : Option String) : Verbosity :=
  if debug then debugging else (setting.bind ofSetting?).getD standard

/-- The narrowest directive that fits a notice; of equally narrow ones the last. -/
def deciding? (v : Verbosity) (n : Notice) : Option Directive :=
  (v.directives.filter (Directive.fits · n)).foldl (fun best d =>
    match best with
    | some b => if b.narrower d then best else some d
    | none => some d) none

/-- Whether a notice is shown: a directive fits it and the deciding one asks for its level. -/
def shows (v : Verbosity) (n : Notice) : Bool :=
  (v.deciding? n).any (fun d => n.level.rank ≤ d.level.rank)

end Verbosity
end Provision
