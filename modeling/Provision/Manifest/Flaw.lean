import Provision.Graph.Basic

/-!
# Flaws of a manifest

What can be wrong with a manifest that could be read, each flaw with the names it is about, and
the sentence that reports it.
-/

namespace Provision

/-- Who a variable belongs to. -/
inductive VarOwner where
  | shared
  | tool (name : String)
deriving DecidableEq, Repr

namespace VarOwner

def text : VarOwner → String
  | .shared => "global vars"
  | .tool name => "tool '" ++ name ++ "'"

end VarOwner

/-- What an identifier or a stage is derived from. -/
inductive Origin where
  | localBinVar
  | sharedVar (key : String)
  | tool (name : String)
  | stamp (tool : String)
  | url (tool : String)
  | archive (tool : String)
  | toolVar (tool key : String)
  | toolSet (name : String)
  /-- A tool or tool set with a stage. -/
  | stage (name : String)
deriving DecidableEq, Repr

namespace Origin

def text : Origin → String
  | .localBinVar => "localBinVar"
  | .sharedVar key => "global var '" ++ key ++ "'"
  | .tool name => "tool '" ++ name ++ "'"
  | .stamp name => "stamp of tool '" ++ name ++ "'"
  | .url name => "URL of tool '" ++ name ++ "'"
  | .archive name => "archive of tool '" ++ name ++ "'"
  | .toolVar name key => "var '" ++ key ++ "' of tool '" ++ name ++ "'"
  | .toolSet name => "tool set '" ++ name ++ "'"
  | .stage name => "'" ++ name ++ "'"

end Origin

inductive Flaw where
  | invalidToolName (name : String)
  | invalidVarKey (owner : VarOwner) (key : String)
  | invalidLocalBinVar (name : String)
  /-- The sections are the installers that the tool declares, none or several. -/
  | installerCount (tool : String) (sections : List String)
  | conflictingArchive (tool : String)
  | missingField (tool field : String)
  | unknownDependency (tool dependency : String)
  | duplicateDependency (tool dependency : String)
  | unknownToolSetMember (set tool : String)
  | toolSetShadowsTool (set : String)
  | circularDependency (loop : Loop)
  | identifierCollision (identifier : String) (first second : Origin)
  | emptyIdentifier (origin : Origin)
deriving DecidableEq, Repr

namespace Flaw

def message : Flaw → String
  | .invalidToolName name =>
      "Invalid tool name '" ++ name ++
        "': must be alphanumeric with hyphens, underscores, or periods"
  | .invalidVarKey owner key =>
      "Invalid variable name '" ++ key ++ "' in " ++ owner.text ++
        ": must be alphanumeric with hyphens, underscores, or periods"
  | .invalidLocalBinVar name =>
      "Invalid localBinVar '" ++ name ++
        "': must start with a letter or '_' and contain only letters, digits, or '_'"
  | .installerCount tool sections =>
      "Tool '" ++ tool ++
        "' must declare exactly one installer (provided, http, s3, pipx, go, maven); found " ++
        (if sections.isEmpty then "none" else ", ".intercalate sections)
  | .conflictingArchive tool =>
      "Tool '" ++ tool ++ "' declares both zip and tar extraction"
  | .missingField tool field =>
      "Tool '" ++ tool ++ "' is missing required field '" ++ field ++ "'"
  | .unknownDependency tool dependency =>
      "Tool '" ++ tool ++ "' depends on undefined tool '" ++ dependency ++ "'"
  | .duplicateDependency tool dependency =>
      "Tool '" ++ tool ++ "' lists dependency '" ++ dependency ++ "' more than once"
  | .unknownToolSetMember set tool =>
      "Tool set '" ++ set ++ "' references undefined tool '" ++ tool ++ "'"
  | .toolSetShadowsTool set =>
      "Tool set '" ++ set ++ "' has the same name as a tool"
  | .circularDependency loop =>
      "Circular dependency detected: " ++ loop.text
  | .identifierCollision identifier first second =>
      "Identifier '" ++ identifier ++ "' is derived from both " ++ first.text ++ " and " ++
        second.text
  | .emptyIdentifier origin =>
      origin.text ++ " derives an empty identifier: a name needs at least one letter or digit"

end Flaw
end Provision
