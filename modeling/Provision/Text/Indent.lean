import Provision.Text.Lines

/-!
# Nested blocks of text

Nesting a text by a number of levels puts as many tabs before each of its lines that is not
empty, and a line end before the text unless it starts with one.
-/

namespace Provision
namespace Text

def indentLine (depth : Nat) (line : List Char) : List Char :=
  if line = [] then [] else List.replicate depth '\t' ++ line

/-- Nesting by no level changes nothing. -/
def indentWrap (depth : Nat) (cs : List Char) : List Char :=
  if depth = 0 then cs
  else
    (if cs.head? = some '\n' then [] else ['\n']) ++
      joinPieces '\n' ((pieces '\n' cs).map (indentLine depth))

end Text
end Provision
