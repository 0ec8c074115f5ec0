import Provision.Manifest.Document
import Provision.Manifest.Draft

/-!
# Reading a draft

The schema of manifests over the views of a document.  Unknown fields are passed over, and a
field that is left out keeps its default.
-/

namespace Provision
namespace Draft

open Document

variable {ν : Type} [Document ν]

def dictOf {α : Type} (read : ν → Option α) (value : ν) : Option (Dict α) :=
  (map? value).bind (fun entries => (readEntries read entries).map Dict.ofList)

def scalarText (value : ν) : Option String :=
  (scalar? value).map Scalar.toText

/-- A map of scalars, which may be left open. -/
def scalarDict (value : ν) : Option (Dict String) :=
  (optionally (dictOf scalarText) value).map (·.getD .empty)

def optionalText (value : ν) : Option (Option String) :=
  optionally text? value

def optionalScalar (value : ν) : Option (Option String) :=
  optionally scalarText value

def readProvided (value : ν) : Option Provided := do
  let fields ← record? ["default"] value
  return { default := ← field fields "default" none optionalText }

def readZip (value : ν) : Option Zip := do
  let fields ← record? ["path"] value
  return { path := ← field fields "path" none optionalText }

def readCompression (value : ν) : Option Compression :=
  (choice? value).bind Compression.ofName?

def readTar (value : ν) : Option Tar := do
  let fields ← record? ["compression", "path"] value
  return {
    compression := ← field fields "compression" .none readCompression
    path := ← field fields "path" none optionalText }

def readFetch (value : ν) : Option Fetch := do
  let fields ← record? ["url", "zip", "tar"] value
  return {
    url := ← field fields "url" none optionalText
    zip := ← field fields "zip" none (optionally readZip)
    tar := ← field fields "tar" none (optionally readTar) }

def readPipx (value : ν) : Option Pipx := do
  let fields ← record? ["package", "version", "app"] value
  return {
    package := ← field fields "package" none optionalText
    version := ← field fields "version" none optionalScalar
    app := ← field fields "app" none optionalText }

def readGo (value : ν) : Option Go := do
  let fields ← record? ["module", "subPath", "version", "env", "flags"] value
  return {
    modulePath := ← field fields "module" none optionalText
    subPath := ← field fields "subPath" none optionalText
    version := ← field fields "version" none optionalScalar
    env := ← field fields "env" .empty scalarDict
    flags := ← field fields "flags" [] (listOf text?) }

def readMaven (value : ν) : Option Maven := do
  let fields ← record? ["artifact"] value
  return { artifact := ← field fields "artifact" none optionalText }

def readTool (value : ν) : Option Tool := do
  let fields ←
    record? ["provided", "http", "s3", "pipx", "go", "maven", "vars", "dependsOn"] value
  return {
    provided := ← field fields "provided" none (optionally readProvided)
    http := ← field fields "http" none (optionally readFetch)
    s3 := ← field fields "s3" none (optionally readFetch)
    pipx := ← field fields "pipx" none (optionally readPipx)
    go := ← field fields "go" none (optionally readGo)
    maven := ← field fields "maven" none (optionally readMaven)
    vars := ← field fields "vars" .empty scalarDict
    dependsOn := ← field fields "dependsOn" [] (listOf text?) }

def readCommands (value : ν) : Option Commands := do
  let defaults : Commands := {}
  let fields ← record? (defaults.fields.map Prod.fst) value
  return {
    go := ← field fields "go" defaults.go text?
    curl := ← field fields "curl" defaults.curl text?
    aws := ← field fields "aws" defaults.aws text?
    tar := ← field fields "tar" defaults.tar text?
    unzip := ← field fields "unzip" defaults.unzip text?
    mkdir := ← field fields "mkdir" defaults.mkdir text?
    chmod := ← field fields "chmod" defaults.chmod text?
    rm := ← field fields "rm" defaults.rm text?
    ln := ← field fields "ln" defaults.ln text?
    touch := ← field fields "touch" defaults.touch text?
    mv := ← field fields "mv" defaults.mv text?
    pipx := ← field fields "pipx" defaults.pipx text?
    mvn := ← field fields "mvn" defaults.mvn text?
    java := ← field fields "java" defaults.java text? }

def readDockerfile (value : ν) : Option DockerfileSettings := do
  let defaults : DockerfileSettings := {}
  let fields ←
    record? ["fetchImage", "goImage", "pythonImage", "mavenImage", "s3Image", "stagePrefix",
      "finalStage", "finalImage", "preCopy", "postCopy", "installDir"] value
  return {
    fetchImage := ← field fields "fetchImage" defaults.fetchImage text?
    goImage := ← field fields "goImage" defaults.goImage text?
    pythonImage := ← field fields "pythonImage" defaults.pythonImage text?
    mavenImage := ← field fields "mavenImage" defaults.mavenImage text?
    s3Image := ← field fields "s3Image" defaults.s3Image text?
    stagePrefix := ← field fields "stagePrefix" defaults.stagePrefix text?
    finalStage := ← field fields "finalStage" defaults.finalStage text?
    finalImage := ← field fields "finalImage" defaults.finalImage text?
    preCopy := ← field fields "preCopy" none optionalText
    postCopy := ← field fields "postCopy" none optionalText
    installDir := ← field fields "installDir" defaults.installDir text? }

end Draft

open Document Draft

/-- The draft that a document holds. -/
def Draft.read? {ν : Type} [Document ν] (value : ν) : Option Draft := do
  let fields ←
    record? ["vars", "localBinVar", "tools", "toolSets", "commands", "dockerfile"] value
  return {
    vars := ← field fields "vars" .empty scalarDict
    localBinVar := ← field fields "localBinVar" none optionalText
    tools := ← field fields "tools" .empty (dictOf readTool)
    toolSets := ← field fields "toolSets" .empty (dictOf (listOf text?))
    commands := ← field fields "commands" {} readCommands
    dockerfile := ← field fields "dockerfile" {} readDockerfile }

end Provision
