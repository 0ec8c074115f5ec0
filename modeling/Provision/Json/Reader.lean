import Provision.Json.Number
import Provision.Json.Quoted

/-!
# Reading structured text

One value per text, with white space around every part.  Of two fields with one key the later
one holds, in the place of the first.
-/

namespace Provision
namespace Json

def isSpace (c : Char) : Bool :=
  c == ' ' || c == '\t' || c == '\n' || c == '\r'

def skipSpace (cs : List Char) : List Char :=
  cs.dropWhile isSpace

/-- What follows a fixed word. -/
def afterWord? (word : List Char) (cs : List Char) : Option (List Char) :=
  if word.isPrefixOf cs then some (cs.drop word.length) else none

/-- Sets a field, in the place of an earlier one with its key. -/
def putField (key : String) (value : Json) : List (String × Json) → List (String × Json)
  | [] => [(key, value)]
  | field :: rest =>
      if field.1 = key then (key, value) :: rest else field :: putField key value rest

mutual

/-- Reads one value at the start of a text. -/
def readValue : (fuel : Nat) → List Char → Option (Json × List Char)
  | 0, _ => none
  | fuel + 1, cs =>
      match skipSpace cs with
      | '"' :: rest => (unquote? rest).map (fun r => (.str (String.ofList r.1), r.2))
      | '[' :: rest =>
          match skipSpace rest with
          | ']' :: rest => some (.arr [], rest)
          | rest => (readItems fuel rest).map (fun r => (.arr r.1, r.2))
      | '\x7b' :: rest =>
          match skipSpace rest with
          | '\x7d' :: rest => some (.obj [], rest)
          | rest => (readFields fuel [] rest).map (fun r => (.obj r.1, r.2))
      | 'n' :: rest => (afterWord? "ull".toList rest).map (fun r => (.null, r))
      | 't' :: rest => (afterWord? "rue".toList rest).map (fun r => (.bool true, r))
      | 'f' :: rest => (afterWord? "alse".toList rest).map (fun r => (.bool false, r))
      | cs =>
          match lexeme? cs with
          | none => none
          | some (lexeme, rest) => lexeme.toJson?.map (fun value => (value, rest))

/-- Reads the items of an array up to its closing bracket. -/
def readItems : (fuel : Nat) → List Char → Option (List Json × List Char)
  | 0, _ => none
  | fuel + 1, cs =>
      match readValue fuel cs with
      | none => none
      | some (item, rest) =>
          match skipSpace rest with
          | ']' :: rest => some ([item], rest)
          | ',' :: rest => (readItems fuel rest).map (fun r => (item :: r.1, r.2))
          | _ => none

/-- Reads the fields of an object up to its closing brace. -/
def readFields : (fuel : Nat) → List (String × Json) → List Char →
    Option (List (String × Json) × List Char)
  | 0, _, _ => none
  | fuel + 1, fields, cs =>
      match skipSpace cs with
      | '"' :: rest =>
          match unquote? rest with
          | none => none
          | some (key, rest) =>
              match skipSpace rest with
              | ':' :: rest =>
                  match readValue fuel rest with
                  | none => none
                  | some (value, rest) =>
                      let fields := putField (String.ofList key) value fields
                      match skipSpace rest with
                      | '\x7d' :: rest => some (fields, rest)
                      | ',' :: rest => readFields fuel fields rest
                      | _ => none
              | _ => none
      | _ => none

end

/-- The value that a whole text denotes. -/
def read? (text : String) : Option Json :=
  let cs := text.toList
  match readValue (2 * cs.length + 2) cs with
  | some (value, rest) => if (skipSpace rest).isEmpty then some value else none
  | none => none

end Json
end Provision
