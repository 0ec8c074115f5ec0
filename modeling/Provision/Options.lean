import Provision.Artifact.Kind

/-!
# Options of a run

Which manifest is read and where the artifacts go.  An empty path leaves an artifact out.
-/

namespace Provision

structure Options where
  configPath : String := "make-env.yaml"
  makefilePath : String := "make-env.Makefile"
  dockerfilePath : String := "make-env.Dockerfile"
deriving DecidableEq, Repr

namespace Options

/-- The artifacts to make, each with its path, in the order in which they are made. -/
def outputs (o : Options) : List (ArtifactKind × String) :=
  [(ArtifactKind.makefile, o.makefilePath), (ArtifactKind.dockerfile, o.dockerfilePath)].filter
    (fun output => output.2 ≠ "")

end Options
end Provision
