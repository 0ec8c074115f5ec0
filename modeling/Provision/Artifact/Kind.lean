/-!
# Kinds of artifacts

The two artifacts made from a manifest, each with its own syntax for a reference to a variable.
-/

namespace Provision

inductive ArtifactKind where
  | makefile
  | dockerfile
deriving DecidableEq, Repr

namespace ArtifactKind

def name : ArtifactKind → String
  | .makefile => "Makefile"
  | .dockerfile => "Dockerfile"

/-- A reference to the variable of an identifier. -/
def reference : ArtifactKind → String → String
  | .makefile, id => "$(" ++ id ++ ")"
  | .dockerfile, id => "$\x7b" ++ id ++ "\x7d"

/-- Where the fragments of this kind alone are kept. -/
def fragmentDir : ArtifactKind → String
  | .makefile => "makefile"
  | .dockerfile => "dockerfile"

/-- The fragment that renders the whole artifact. -/
def entryFragment (_ : ArtifactKind) : String := "main"

end ArtifactKind
end Provision
