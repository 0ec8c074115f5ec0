import Provision.Artifact.Kind
import Provision.Manifest.Flaw
import Provision.Run.Fault
import Provision.Template.Engine

/-!
# Errors of a run
-/

namespace Provision

inductive RunError where
  | directoryNotFound (directory : String)
  | configRead (path : String) (fault : Fault)
  | configParse (path : String)
  | invalidConfig (flaw : Flaw)
  | generate (kind : ArtifactKind) (path : String) (cause : TemplateError)
  | outputWrite (path : String) (fault : Fault)
deriving DecidableEq

namespace RunError

def kind : RunError → FaultKind
  | .directoryNotFound _ => .notFound
  | .configRead _ fault => fault.kind
  | .configParse _ => .invalidInput
  | .invalidConfig _ => .invalidInput
  | .generate _ _ _ => .invalidData
  | .outputWrite _ fault => fault.kind

def message : RunError → String
  | .directoryNotFound directory => "Directory not found: " ++ directory
  | .configRead path fault => "Failed to read config '" ++ path ++ "': " ++ fault.message
  | .configParse path => "Failed to parse config '" ++ path ++ "'"
  | .invalidConfig flaw => "Invalid config: " ++ flaw.message
  | .generate kind path cause =>
      "Failed to generate " ++ kind.name ++ " '" ++ path ++ "': " ++ cause.message
  | .outputWrite path fault => "Failed to write '" ++ path ++ "': " ++ fault.message

end RunError
end Provision
