import Provision.Artifact.Fragments
import Provision.Artifact.View
import Provision.Graph.Order
import Provision.Release
import Provision.Template.Engine

/-!
# Plans

A plan is a configuration whose tools stand in the order in which they are emitted, together with
what the header of an artifact says about where the configuration came from.
-/

namespace Provision

/-- Where a configuration came from. -/
structure Provenance where
  path : String
  digest : String
deriving DecidableEq, Repr

structure Plan where
  config : Config
  provenance : Provenance
  tools : List ToolView
deriving DecidableEq

namespace Plan

/-- The plan of a configuration, if its tools can be put in order. -/
def ofConfig (config : Config) (provenance : Provenance) : Except Loop Plan :=
  match config.graph.emissionOrder with
  | .error loop => .error loop
  | .ok names =>
      .ok ⟨config, provenance, (names.filterMap config.tool?).map (ToolView.ofTool config)⟩

/-- The names of the tools, dependencies first. -/
def order (plan : Plan) : List String :=
  plan.tools.map ToolView.name

/-- What the fragments of an artifact see. -/
def context (plan : Plan) (outPath : String) : Json :=
  .obj
    [("version", .str version), ("in_path", .str plan.provenance.path), ("out_path", .str outPath),
      ("config_digest", .str plan.provenance.digest), ("config", plan.config.toJson),
      ("tools", .arr (plan.tools.map ToolView.toJson))]

/-- The text of an artifact that is to be written to a path. -/
def emit (plan : Plan) (fragments : List Fragment) (kind : ArtifactKind) (outPath : String) :
    Except TemplateError String :=
  match Engine.ofFragments kind.reference fragments with
  | .error err => .error err
  | .ok engine => engine.render kind.entryFragment (.ofJson (plan.context outPath))

end Plan
end Provision
