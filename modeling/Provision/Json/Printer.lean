import Provision.Decimal.Shortest
import Provision.Json.Basic
import Provision.Json.Quoted

/-!
# Compact text of structured values

Values are written without any white space, object fields in the order in which they stand.
-/

namespace Provision
namespace Json

open Decimal

mutual

def compact : Json → List Char
  | .null => "null".toList
  | .bool b => (if b then "true" else "false").toList
  | .int i => (intText i).toList
  | .real x => if x.isFinite then x.pointedText.toList else "null".toList
  | .str s => quoted s.toList
  | .arr items => '[' :: compactItems items ++ [']']
  | .obj fields => '\x7b' :: compactFields fields ++ ['\x7d']

def compactItems : List Json → List Char
  | [] => []
  | [item] => compact item
  | item :: rest => compact item ++ ',' :: compactItems rest

def compactFields : List (String × Json) → List Char
  | [] => []
  | [(key, value)] => quoted key.toList ++ ':' :: compact value
  | (key, value) :: rest =>
      quoted key.toList ++ ':' :: compact value ++ ',' :: compactFields rest

end

def compactText (value : Json) : String :=
  String.ofList (compact value)

end Json
end Provision
