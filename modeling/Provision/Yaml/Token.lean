/-!
# Tokens of YAML text

The punctuation of flow and block collections, node properties and scalars.  The starts and ends
of block collections have no text of their own: they follow from indentation.
-/

namespace Provision
namespace Yaml

inductive Token where
  | version (major minor : Nat)
  | tagDirective (handle uri : List Char)
  | documentStart
  | documentEnd
  | streamEnd
  | blockSequenceStart
  | blockMappingStart
  | blockEnd
  | flowSequenceStart
  | flowSequenceEnd
  | flowMappingStart
  | flowMappingEnd
  | blockEntry
  | flowEntry
  | key
  | value
  | alias (name : List Char)
  | anchor (name : List Char)
  | tag (handle suffix : List Char)
  /-- A scalar; `plain` if it is written without quotation marks and block indicator. -/
  | scalar (plain : Bool) (text : List Char)
deriving DecidableEq, Repr

end Yaml
end Provision
