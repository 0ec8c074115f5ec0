import Provision.Json.Quoted
import Provision.Text.Blank

/-!
# Literal values in artifacts

How a text is written as the value of a make variable and as the default of a build argument.
-/

namespace Provision

/-- The right-hand side of a make assignment, where a number sign would start a comment. -/
def makeValue (cs : List Char) : List Char :=
  cs.flatMap (fun c => if c = '#' then ['\\', '#'] else [c])

/-- Whether a build argument's default has to stand between quotation marks. -/
def needsQuotes (cs : List Char) : Bool :=
  cs.isEmpty || cs.any (fun c => Text.isBlank c || c == '"' || c == '\x27' || c == '\\')

def argValue (cs : List Char) : List Char :=
  if needsQuotes cs then Json.quoted cs else cs

end Provision
