import Provision.Text.Lines

/-!
# Formats of manifest files

The format of a manifest follows from the extension of its path: `toml` in any letter case, and
YAML otherwise.
-/

namespace Provision

inductive Format where
  | yaml
  | toml
deriving DecidableEq, Repr

namespace Format

/-- The last element of a path; empty elements and the current directory are no elements. -/
def fileName? (path : List Char) : Option (List Char) :=
  match ((Text.pieces '/' path).filter (fun e => e ≠ [] ∧ e ≠ ['.'])).getLast? with
  | some ['.', '.'] => none
  | found => found

/-- What follows the last period of a file name; a period at its start does not count. -/
def extension? (path : List Char) : Option (List Char) :=
  match fileName? path with
  | none => none
  | some name =>
      match (name.reverse.dropWhile (· ≠ '.')).drop 1 with
      | [] => none
      | _ => some (name.reverse.takeWhile (· ≠ '.')).reverse

def ofPath (path : String) : Format :=
  match extension? path.toList with
  | some extension => if extension.map Char.toLower = "toml".toList then .toml else .yaml
  | none => .yaml

end Format
end Provision
