import Provision.Artifact.Plan
import Provision.Manifest.Check
import Provision.Manifest.Format
import Provision.Manifest.Reading
import Provision.Options
import Provision.Run.Error
import Provision.Run.Event

/-!
# Generating artifacts

A run reads a manifest from a storage and renders every artifact before it writes any, so a
failure to render leaves the storage as it was.  Artifacts are written in order up to the first
one that cannot be written.
-/

namespace Provision

/-- A storage of texts by their paths. -/
class Storage (σ : Type) where
  read : σ → (path : String) → Except Fault String
  /-- The storage after an attempt to write, and what went wrong. -/
  write : σ → (path content : String) → σ × Option Fault

/-- A valid manifest and the digest of its text. -/
structure Loaded where
  config : Config
  digest : String
deriving DecidableEq

/-- An artifact that is ready to be written. -/
structure Artifact where
  kind : ArtifactKind
  path : String
  content : String
deriving DecidableEq

/-- An artifact that was written. -/
structure Written where
  kind : ArtifactKind
  path : String
  bytes : Nat
deriving DecidableEq, Repr

structure Report where
  tools : Nat
  artifacts : List Written
deriving DecidableEq, Repr

/-- The fragments of every kind of artifact. -/
abbrev Catalog := ArtifactKind → List Fragment

/-- The fragments that come with the program. -/
def Catalog.builtIn : Catalog := ArtifactKind.fragments

/-- The valid manifest that a text at a path holds. -/
def Loaded.ofText (path content : String) : Except RunError Loaded :=
  match Draft.ofText? (Format.ofPath path) content with
  | none => .error (.configParse path)
  | some draft =>
      match draft.check with
      | .error flaw => .error (.invalidConfig flaw)
      | .ok config => .ok ⟨config, (Digest.ofText content)⟩

/-- The manifest at a path of a storage. -/
def load {σ : Type} [Storage σ] (storage : σ) (path : String) : Except RunError Loaded :=
  match Storage.read storage path with
  | .error fault => .error (.configRead path fault)
  | .ok content => Loaded.ofText path content

/-- A result together with the events on the way to it, in their order. -/
structure Logged (α : Type) where
  events : List Event
  outcome : Except RunError α

/-- Renders artifacts up to the first that fails. -/
def renderAll (catalog : Catalog) (plan : Plan) :
    List (ArtifactKind × String) → Logged (List Artifact)
  | [] => ⟨[], .ok []⟩
  | (kind, path) :: rest =>
      match plan.emit (catalog kind) kind path with
      | .error (.register name) => ⟨[], .error (.generate kind path (.register name))⟩
      | .error cause => ⟨[.rendering kind path], .error (.generate kind path cause)⟩
      | .ok content =>
          let later := renderAll catalog plan rest
          ⟨.rendering kind path :: later.events, later.outcome.map (⟨kind, path, content⟩ :: ·)⟩

/-- The artifacts of a manifest, ready to be written, and the number of its tools. -/
def prepare (catalog : Catalog) (options : Options) (loaded : Loaded) :
    Logged (Nat × List Artifact) :=
  let config := loaded.config
  let parsed := Event.parsed options.configPath config.tools.size config.toolSets.size
  match Plan.ofConfig config ⟨options.configPath, loaded.digest⟩ with
  | .error loop => ⟨[parsed], .error (.invalidConfig (.circularDependency loop))⟩
  | .ok plan =>
      let rendered := renderAll catalog plan options.outputs
      ⟨parsed :: .ordered plan.order :: rendered.events,
        rendered.outcome.map (fun artifacts => (config.tools.size, artifacts))⟩

def Artifact.written (artifact : Artifact) : Written :=
  ⟨artifact.kind, artifact.path, artifact.content.utf8ByteSize⟩

def Written.event (written : Written) : Event :=
  .wrote written.kind written.path written.bytes

/-- Writes artifacts up to the first that cannot be written. -/
def writeAll {σ : Type} [Storage σ] (storage : σ) :
    List Artifact → σ × Logged (List Written)
  | [] => (storage, ⟨[], .ok []⟩)
  | artifact :: rest =>
      match Storage.write storage artifact.path artifact.content with
      | (storage, some fault) => (storage, ⟨[], .error (.outputWrite artifact.path fault)⟩)
      | (storage, none) =>
          let (storage, later) := writeAll storage rest
          (storage,
            ⟨artifact.written.event :: later.events, later.outcome.map (artifact.written :: ·)⟩)

/-- Makes the artifacts of a manifest: the storage afterwards, and the report. -/
def generate {σ : Type} [Storage σ] (catalog : Catalog) (options : Options) (storage : σ) :
    σ × Logged Report :=
  match load storage options.configPath with
  | .error err => (storage, ⟨[], .error err⟩)
  | .ok loaded =>
      let prepared := prepare catalog options loaded
      match prepared.outcome with
      | .error err => (storage, ⟨prepared.events, .error err⟩)
      | .ok (tools, artifacts) =>
          let (storage, written) := writeAll storage artifacts
          (storage, ⟨prepared.events ++ written.events, written.outcome.map (⟨tools, ·⟩)⟩)

end Provision
