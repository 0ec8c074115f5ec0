import Provision.Dict
import Provision.Manifest.Installer
import Provision.Manifest.Settings

/-!
# Manifests as written

Every section of a manifest is optional, so a draft says what was written and checking it decides
whether that makes a configuration.
-/

namespace Provision
namespace Draft

structure Provided where
  default : Option String := none
deriving DecidableEq, Inhabited

structure Zip where
  path : Option String := none
deriving DecidableEq, Inhabited

structure Tar where
  compression : Compression := .none
  path : Option String := none
deriving DecidableEq, Inhabited

structure Fetch where
  url : Option String := none
  zip : Option Zip := none
  tar : Option Tar := none
deriving DecidableEq, Inhabited

structure Pipx where
  package : Option String := none
  version : Option String := none
  app : Option String := none
deriving DecidableEq, Inhabited

structure Go where
  modulePath : Option String := none
  subPath : Option String := none
  version : Option String := none
  env : Dict String := .empty
  flags : List String := []
deriving DecidableEq, Inhabited

structure Maven where
  artifact : Option String := none
deriving DecidableEq, Inhabited

structure Tool where
  provided : Option Provided := none
  http : Option Fetch := none
  s3 : Option Fetch := none
  pipx : Option Pipx := none
  go : Option Go := none
  maven : Option Maven := none
  vars : Dict String := .empty
  dependsOn : List String := []
deriving DecidableEq, Inhabited

namespace Tool

/-- The installer sections that were written, in the order of the schema. -/
def installerSections (tool : Tool) : List String :=
  [("provided", tool.provided.isSome), ("http", tool.http.isSome), ("s3", tool.s3.isSome),
    ("pipx", tool.pipx.isSome), ("go", tool.go.isSome), ("maven", tool.maven.isSome)].filterMap
    (fun (name, written) => if written then some name else none)

def toJson (tool : Tool) : Json :=
  .obj
    [("installers", .strings tool.installerSections), ("vars", tool.vars.toJson),
      ("depends_on", .strings tool.dependsOn)]

end Tool
end Draft

structure Draft where
  vars : Dict String := .empty
  localBinVar : Option String := none
  tools : Dict Draft.Tool := .empty
  toolSets : Dict (List String) := .empty
  commands : Commands := {}
  dockerfile : DockerfileSettings := {}
deriving DecidableEq, Inhabited

namespace Draft

def toJson (draft : Draft) : Json :=
  .obj
    [("vars", draft.vars.toJson), ("local_bin_var", .ofOption .str draft.localBinVar),
      ("tools", .obj (draft.tools.entries.map (fun entry => (entry.1, entry.2.toJson)))),
      ("tool_sets", .obj (draft.toolSets.entries.map (fun entry => (entry.1, .strings entry.2)))),
      ("commands", draft.commands.toJson), ("dockerfile", draft.dockerfile.toJson)]

end Draft
end Provision
