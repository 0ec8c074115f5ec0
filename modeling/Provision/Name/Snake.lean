import Provision.Text.Case

/-!
# Snake case

A name is read as a sequence of words.  Anything but a letter or digit separates words, and so
does the step from a small letter or digit to a capital, and the last capital of a run before a
small letter: `HTTPServer` reads as `http_server`.  The words are written in lower case with one
underscore between them.
-/

namespace Provision
namespace Name

open Text

/-- What stands before the character that is read next. -/
inductive Before where
  /-- No letter or digit yet. -/
  | start
  /-- A separator after some word. -/
  | separator
  /-- A letter or digit. -/
  | letter (c : Char)

/-- Whether a word starts at a letter or digit that directly follows another. -/
def startsWord (previous c : Char) (next : Option Char) : Bool :=
  isUpper c && (isLower previous || previous.isDigit || (isUpper previous && next.any isLower))

namespace Before

def needsUnderscore (before : Before) (c : Char) (next : Option Char) : Bool :=
  match before with
  | .start => false
  | .separator => true
  | .letter previous => startsWord previous c next

def afterSeparator : Before → Before
  | .start => .start
  | .separator => .separator
  | .letter _ => .separator

end Before

def snakeFrom (before : Before) : List Char → List Char
  | [] => []
  | c :: rest =>
      if isAlphanumeric c then
        (if before.needsUnderscore c rest.head? then ['_'] else []) ++ lower c ++
          snakeFrom (.letter c) rest
      else snakeFrom before.afterSeparator rest

/-- The words of a name in lower case, one underscore between them. -/
def snakeCase (name : String) : String :=
  String.ofList (snakeFrom .start name.toList)

end Name
end Provision
