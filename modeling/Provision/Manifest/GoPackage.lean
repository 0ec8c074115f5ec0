import Provision.Text.Lines

/-!
# Go packages

A package path is a module path with an optional path below it.  Installing a package makes a
binary named after the last element of the path that is no major version such as `v2`.
-/

namespace Provision
namespace GoPackage

def dropSlashes (cs : List Char) : List Char :=
  cs.dropWhile (· = '/')

/-- A path without the slashes at its end. -/
def trimSlashes (cs : List Char) : List Char :=
  (dropSlashes cs.reverse).reverse

/-- A module and the path below it, one slash between them. -/
def path (modulePath : String) (subPath : Option String) : String :=
  match subPath with
  | none => modulePath
  | some sub =>
      if sub = "" then modulePath
      else
        String.ofList (trimSlashes modulePath.toList) ++ "/" ++
          String.ofList (dropSlashes sub.toList)

/-- The elements of a path, last one first; slashes at the end make no elements. -/
def elements (cs : List Char) : List (List Char) :=
  (Text.pieces '/' (trimSlashes cs)).reverse

def isMajorVersion : List Char → Bool
  | 'v' :: digits => !digits.isEmpty && digits.all Char.isDigit
  | _ => false

/-- The name of the binary that a package installs. -/
def binaryName (packagePath : String) : String :=
  match elements packagePath.toList with
  | [] => ""
  | [last] => String.ofList last
  | last :: previous :: _ =>
      String.ofList (if isMajorVersion last then previous else last)

end GoPackage
end Provision
