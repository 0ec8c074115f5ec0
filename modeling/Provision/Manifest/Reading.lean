import Provision.Manifest.Decode
import Provision.Manifest.Format
import Provision.Text.Blank
import Provision.Toml.Document
import Provision.Yaml.Document

/-!
# Reading a manifest from text

A YAML manifest in which nothing but comments and a document start stands is an empty manifest,
and so is one whose only document says nothing.
-/

namespace Provision

open Document

/-- Whether every line of a text is empty, a comment or a document start. -/
def isBlankYaml (text : String) : Bool :=
  (Text.lines text.toList).all (fun line =>
    match Text.trim line with
    | [] => true
    | '#' :: _ => true
    | trimmed => trimmed == ['-', '-', '-'])

/-- The draft of a YAML text, and the empty draft where the text says nothing. -/
def readYaml? (text : String) : Option Draft :=
  if isBlankYaml text then some {}
  else
    match Yaml.read? text with
    | none => none
    | some none => some {}
    | some (some root) => (optionally Draft.read? root).map (·.getD {})

def readToml? (text : String) : Option Draft :=
  match Toml.read? text with
  | none => none
  | some entries => Draft.read? (Toml.Node.table .opened entries)

/-- The draft that a text in some format holds. -/
def Draft.ofText? (format : Format) (text : String) : Option Draft :=
  match format with
  | .yaml => readYaml? text
  | .toml => readToml? text

end Provision
