import Provision.Artifact.Kind
import Provision.Text.Quotation

/-!
# Events of a run

What a run reports about its progress, each event as one line with named details.
-/

namespace Provision

inductive Event where
  | changedDirectory (path : String)
  | parsed (path : String) (tools toolSets : Nat)
  | ordered (names : List String)
  | rendering (kind : ArtifactKind) (path : String)
  | wrote (kind : ArtifactKind) (path : String) (bytes : Nat)
deriving DecidableEq, Repr

namespace Event

open Decimal

/-- The part of the program that an event is about. -/
def source : Event → String
  | .changedDirectory _ => "make_env::adapters::filesystem"
  | .parsed _ _ _ => "make_env::adapters::config_loader"
  | .ordered _ => "make_env::services::emitter"
  | .rendering _ _ => "make_env::services::emitter"
  | .wrote _ _ _ => "make_env::app::commands::generate"

/-- The names of the details of an event, that of its text among them. -/
def details : Event → List String
  | .changedDirectory _ => ["message", "directory"]
  | .parsed _ _ _ => ["message", "path", "tools", "tool_sets"]
  | .ordered _ => ["message", "order"]
  | .rendering _ _ => ["message", "artifact", "out_path"]
  | .wrote _ _ _ => ["message", "artifact", "path", "bytes"]

def text : Event → String
  | .changedDirectory path => "changed working directory directory=" ++ path
  | .parsed path tools toolSets =>
      "parsed config path=" ++ Text.quotation path ++ " tools=" ++ natText tools ++
        " tool_sets=" ++ natText toolSets
  | .ordered names =>
      "resolved emission order order=[" ++ ", ".intercalate (names.map Text.quotation) ++ "]"
  | .rendering kind path =>
      "rendering artifact artifact=" ++ kind.name ++ " out_path=" ++ Text.quotation path
  | .wrote kind path bytes =>
      "wrote artifact artifact=" ++ kind.name ++ " path=" ++ Text.quotation path ++
        " bytes=" ++ natText bytes

end Event
end Provision
