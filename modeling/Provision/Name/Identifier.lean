import Provision.Name.Snake

/-!
# Derived identifiers

Every tool and every variable is known to both artifacts by an upper snake case identifier, and
every tool to the Dockerfile by a lower kebab case stage name.
-/

namespace Provision
namespace Name

def identifier (name : String) : String :=
  Text.upperText (snakeCase name)

def urlIdentifier (tool : String) : String :=
  identifier tool ++ "_URL"

def archiveIdentifier (tool : String) : String :=
  identifier tool ++ "_ZIP"

def stampIdentifier (tool : String) : String :=
  identifier tool ++ "_STAMP"

/-- The identifier of a variable of a tool; the empty tool name stands for the variables that all
tools share, which carry no tool's identifier. -/
def scopedIdentifier (tool key : String) : String :=
  if tool = "" then identifier key
  else identifier tool ++ "_" ++ identifier key

def kebabChar (c : Char) : Char :=
  if c = '_' then '-' else c

/-- The name of a tool's stage. -/
def stage (name : String) : String :=
  String.ofList ((snakeCase name).toList.map kebabChar)

end Name
end Provision
