import Provision.Manifest.Config

/-!
# Tools as fragments see them

Beside the settings of a tool its view holds what follows from the other tools: the declared tool
that runs its installer, and the tools that have to be installed first.
-/

namespace Provision

structure ToolView where
  tool : Tool
  /-- The declared tool that runs the installer. -/
  runner : Option String
deriving DecidableEq

namespace ToolView

/-- The view of a tool among all tools.  A tool does not run its own installer. -/
def ofTool (config : Config) (tool : Tool) : ToolView :=
  { tool := tool
    runner := tool.installer.runner?.filter (fun runner =>
      runner ≠ tool.name.text && config.tools.contains runner) }

def name (view : ToolView) : String := view.tool.name.text

/-- The dependencies, and the runner unless it is one of them. -/
def prerequisites (view : ToolView) : List String :=
  let dependencies := view.tool.dependencyNames
  match view.runner with
  | some runner => if runner ∈ dependencies then dependencies else dependencies ++ [runner]
  | none => dependencies

def toJson (view : ToolView) : Json :=
  let installer := view.tool.installer
  .obj
    [("name", .str view.name), ("installer", installer.toJson), ("vars", view.tool.vars.toJson),
      ("depends_on", .strings view.tool.dependencyNames),
      ("provided", .bool installer.isProvided), ("fragment", .str installer.fragment),
      ("package", .ofOption .str installer.package?), ("runner", .ofOption .str view.runner),
      ("prerequisites", .strings view.prerequisites), ("has_url", .bool installer.hasUrl),
      ("has_archive", .bool installer.hasArchive), ("installer_digest", .str installer.digest)]

end ToolView
end Provision
