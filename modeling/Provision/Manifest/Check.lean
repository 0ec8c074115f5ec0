import Provision.Graph.Cycle
import Provision.Manifest.Config
import Provision.Manifest.Draft
import Provision.Manifest.Flaw
import Provision.Name.Identifier
import Provision.Text.Blank

/-!
# Checking a manifest

A draft makes a configuration when its names are well formed, every tool has one complete
installer, all references are to declared tools and free of cycles, and every derived identifier
and stage comes from one source.  The checks run in that order, and the first flaw is reported.
-/

namespace Provision

open Name

namespace Check

/-- Passes when a condition holds. -/
def require (condition : Bool) (flaw : Flaw) : Except Flaw Unit :=
  if condition then .ok () else .error flaw

/-- Passes when no flaw was found. -/
def refuse : Option Flaw → Except Flaw Unit
  | some flaw => .error flaw
  | none => .ok ()

def varKeys (owner : VarOwner) (vars : Dict String) : Except Flaw Unit :=
  refuse ((vars.keys.find? (fun key => !isName true key)).map (.invalidVarKey owner))

/-- A field that has to hold more than blanks. -/
def required (tool : String) (value : Option String) (field : String) : Except Flaw String :=
  match value with
  | some text => if Text.isBlankText text then .error (.missingField tool field) else .ok text
  | none => .error (.missingField tool field)

def nonEmpty? (value : Option String) : Option String :=
  value.filter (· ≠ "")

def archive (tool : String) (draft : Draft.Fetch) : Except Flaw (Option Archive) :=
  match draft.zip, draft.tar with
  | some _, some _ => .error (.conflictingArchive tool)
  | some zip, none => .ok (some (.zip ((nonEmpty? zip.path).getD tool)))
  | none, some tar => .ok (some (.tar tar.compression ((nonEmpty? tar.path).getD tool)))
  | none, none => .ok none

def fetch (tool : String) (draft : Draft.Fetch) (urlField : String) : Except Flaw Fetch :=
  match required tool draft.url urlField with
  | .error flaw => .error flaw
  | .ok url => (archive tool draft).map (fun found => { url, archive := found })

def pythonApp (tool : String) (draft : Draft.Pipx) : PythonApp :=
  { package := draft.package.getD tool
    version := nonEmpty? draft.version
    app := draft.app.getD tool }

def goModule (tool : String) (draft : Draft.Go) : Except Flaw GoModule :=
  match required tool draft.modulePath "go.module" with
  | .error flaw => .error flaw
  | .ok modulePath =>
      (required tool draft.version "go.version").map (fun version =>
        let subPath := nonEmpty? draft.subPath
        { modulePath, subPath, version, env := draft.env, flags := draft.flags
          binary := GoPackage.binaryName (GoPackage.path modulePath subPath) })

/-- The installer of a tool that declares exactly one. -/
def installer (tool : String) (draft : Draft.Tool) : Except Flaw Installer :=
  match draft.provided, draft.http, draft.s3, draft.pipx, draft.go, draft.maven with
  | some provided, none, none, none, none, none => .ok (.provided (provided.default.getD tool))
  | none, some http, none, none, none, none => (fetch tool http "http.url").map .http
  | none, none, some s3, none, none, none => (fetch tool s3 "s3.url").map .objectStore
  | none, none, none, some pipx, none, none => .ok (.pythonApp (pythonApp tool pipx))
  | none, none, none, none, some go, none => (goModule tool go).map .goModule
  | none, none, none, none, none, some maven =>
      (required tool maven.artifact "maven.artifact").map .maven
  | _, _, _, _, _, _ => .error (.installerCount tool draft.installerSections)

/-- The dependencies of a tool, each a name and none listed twice. -/
def dependencies (tool : String) (seen : List ToolName) :
    List String → Except Flaw (List ToolName)
  | [] => .ok seen.reverse
  | text :: rest =>
      match ToolName.ofText? text with
      | none => .error (.unknownDependency tool text)
      | some name =>
          if name ∈ seen then .error (.duplicateDependency tool text)
          else dependencies tool (name :: seen) rest

def tool (text : String) (draft : Draft.Tool) : Except Flaw Tool :=
  match ToolName.ofText? text with
  | none => .error (.invalidToolName text)
  | some name => do
      varKeys (.tool text) draft.vars
      let installer ← installer text draft
      let dependsOn ← dependencies text [] draft.dependsOn
      return { name, installer, vars := draft.vars, dependsOn }

/-- The first dependency that is no tool. -/
def danglingDependency? (tools : Dict Tool) : List Tool → Option Flaw
  | [] => none
  | tool :: rest =>
      match tool.dependencyNames.find? (fun name => !tools.contains name) with
      | some missing => some (.unknownDependency tool.name.text missing)
      | none => danglingDependency? tools rest

/-- The members of a set, each a tool, without repetitions. -/
def members (tools : Dict Tool) (set : String) (found : List ToolName) :
    List String → Except Flaw (List ToolName)
  | [] => .ok found.reverse
  | text :: rest =>
      match tools.get? text with
      | none => .error (.unknownToolSetMember set text)
      | some tool =>
          members tools set (if tool.name ∈ found then found else tool.name :: found) rest

def toolSet (tools : Dict Tool) (text : String) (names : List String) : Except Flaw ToolSet :=
  match ToolName.ofText? text with
  | none => .error (.invalidToolName text)
  | some name => do
      require (!tools.contains text) (.toolSetShadowsTool text)
      let tools ← members tools text [] names
      return { name, tools }

/-- The names that identifiers are derived from. -/
def namedOrigins (config : Config) : List (String × Origin) :=
  config.vars.keys.map (fun key => (key, .sharedVar key)) ++
    config.tools.values.flatMap (fun tool =>
      (tool.name.text, .tool tool.name.text) ::
        tool.vars.keys.map (fun key => (key, .toolVar tool.name.text key))) ++
    config.toolSets.keys.map (fun name => (name, .toolSet name))

def emptyIdentifier? (config : Config) : Option Flaw :=
  ((namedOrigins config).find? (fun named => identifier named.1 = "")).map
    (fun named => .emptyIdentifier named.2)

/-- The variables that both artifacts define for a tool. -/
def toolIdentifiers (tool : Tool) : List (String × Origin) :=
  let name := tool.name.text
  [(identifier name, .tool name), (stampIdentifier name, .stamp name)] ++
    (if tool.installer.hasUrl then [(urlIdentifier name, .url name)] else []) ++
    (if tool.installer.hasArchive then [(archiveIdentifier name, .archive name)] else []) ++
    tool.vars.keys.map (fun key => (scopedIdentifier name key, .toolVar name key))

def identifiers (config : Config) : List (String × Origin) :=
  (config.localBinVar, .localBinVar) ::
    config.vars.keys.map (fun key => (identifier key, .sharedVar key)) ++
    config.tools.values.flatMap toolIdentifiers

/-- The stages of tools and tool sets, which share one space of names. -/
def stages (config : Config) : List (String × Origin) :=
  config.tools.keys.map (fun name => (stage name, .stage name)) ++
    config.toolSets.keys.map (fun name => ("set-" ++ stage name, .stage name))

/-- The first name that is claimed a second time. -/
def collision? (claimed : List (String × Origin)) : List (String × Origin) → Option Flaw
  | [] => none
  | (name, origin) :: rest =>
      match claimed.lookup name with
      | some first => some (.identifierCollision name first origin)
      | none => collision? ((name, origin) :: claimed) rest

end Check

/-- The configuration that a draft makes, or its first flaw. -/
def Draft.check (draft : Draft) : Except Flaw Config := do
  let localBinVar := draft.localBinVar.getD "LOCALBIN"
  Check.require (isIdentifier localBinVar) (.invalidLocalBinVar localBinVar)
  Check.varKeys .shared draft.vars
  let tools ← draft.tools.traverse Check.tool
  Check.refuse (Check.danglingDependency? tools tools.values)
  let toolSets ← draft.toolSets.traverse (Check.toolSet tools)
  let config : Config :=
    { vars := draft.vars, localBinVar, tools, toolSets
      commands := draft.commands, dockerfile := draft.dockerfile }
  config.graph.checkAcyclic.mapError .circularDependency
  Check.refuse (Check.emptyIdentifier? config)
  Check.refuse (Check.collision? [] (Check.identifiers config))
  Check.refuse (Check.collision? [] (Check.stages config))
  return config

end Provision
