import Provision.Graph.Basic
import Provision.Manifest.Installer
import Provision.Manifest.Settings
import Provision.Name.Basic

/-!
# Validated manifests

A configuration names its tools, the variables they share, the sets they are grouped in and the
settings of both artifacts.  Templates see it as a structured value.
-/

namespace Provision

structure Tool where
  name : ToolName
  installer : Installer
  vars : Dict String
  dependsOn : List ToolName
deriving DecidableEq

namespace Tool

def dependencyNames (tool : Tool) : List String :=
  tool.dependsOn.map ToolName.text

def toJson (tool : Tool) : Json :=
  .obj
    [("name", .str tool.name.text), ("installer", tool.installer.toJson),
      ("vars", tool.vars.toJson), ("depends_on", .strings tool.dependencyNames)]

end Tool

/-- A named group of tools in the order of its members. -/
structure ToolSet where
  name : ToolName
  tools : List ToolName
deriving DecidableEq

namespace ToolSet

def toJson (set : ToolSet) : Json :=
  .obj [("name", .str set.name.text), ("tools", .strings (set.tools.map ToolName.text))]

end ToolSet

structure Config where
  vars : Dict String
  localBinVar : String
  tools : Dict Tool
  toolSets : Dict ToolSet
  commands : Commands
  dockerfile : DockerfileSettings
deriving DecidableEq

namespace Config

def tool? (config : Config) (name : String) : Option Tool :=
  config.tools.get? name

/-- The dependencies between the tools. -/
def graph (config : Config) : Graph :=
  ⟨config.tools.mapValues (fun _ tool => tool.dependencyNames)⟩

def toJson (config : Config) : Json :=
  .obj
    [("vars", config.vars.toJson), ("local_bin_var", .str config.localBinVar),
      ("tools", .obj (config.tools.entries.map (fun entry => (entry.1, entry.2.toJson)))),
      ("tool_sets", .obj (config.toolSets.entries.map (fun entry => (entry.1, entry.2.toJson)))),
      ("commands", config.commands.toJson), ("dockerfile", config.dockerfile.toJson)]

end Config
end Provision
