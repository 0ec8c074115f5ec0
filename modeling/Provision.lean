import Provision.Artifact.Plan
import Provision.Graph.Cycle
import Provision.Json.Document
import Provision.Json.Reader
import Provision.Main
import Provision.Proofs.Graph.Acyclic
import Provision.Proofs.Graph.Emission
import Provision.Proofs.Manifest.Check
import Provision.Run.Session
import Provision.Run.Workspace
import Provision.Proofs.Manifest.WellFormed
import Provision.Proofs.Artifact.Order
import Provision.Proofs.Artifact.Runner
import Provision.Proofs.Template.Denotation
import Provision.Proofs.Template.Rendering
import Provision.Proofs.Template.Parsed
import Provision.Proofs.Template.Output
import Provision.Proofs.Artifact.Bodies
import Provision.Proofs.Artifact.Values
import Provision.Proofs.Template.Inline
import Provision.Proofs.Artifact.Templated
import Provision.Proofs.Artifact.Recipe
import Provision.Proofs.Artifact.Makefile
import Provision.Proofs.Artifact.Dockerfile
import Provision.Proofs.Name
import Provision.Proofs.Artifact.Definitions
import Provision.Proofs.Artifact.Emitted
import Provision.Proofs.Artifact.Reading
import Provision.Proofs.Artifact.References
import Provision.Proofs.Artifact.Mirror
import Provision.Proofs.Artifact.Mentions
import Provision.Proofs.Artifact.Scope
import Provision.Proofs.Artifact.Chain
import Provision.Proofs.Artifact.Identifiers
import Provision.Proofs.Artifact.Places
import Provision.Proofs.Artifact.Stages
import Provision.Proofs.Run.Effect
import Provision.Proofs.Run.Report
import Provision.Proofs.Graph.ClosedWalk
import Provision.Proofs.Graph.Blocked
import Provision.Proofs.Graph.Least
import Provision.Proofs.Graph.Addition
import Provision.Proofs.Manifest.Diagnosis
import Provision.Proofs.Template.Data
import Provision.Proofs.Template.Mask
import Provision.Proofs.Template.Lockstep
import Provision.Proofs.Template.Secrecy
import Provision.Proofs.Template.Contexts
import Provision.Proofs.Artifact.Independence
import Provision.Proofs.Artifact.Literal
import Provision.Proofs.Artifact.Filling
import Provision.Proofs.Template.Nesting
import Provision.Proofs.Json.Compact
import Provision.Proofs.Manifest.Digest
import Provision.Proofs.Text.Nesting
import Provision.Proofs.Artifact.Package
import Provision.Proofs.Artifact.Stamp
import Provision.Proofs.Text.Charset
import Provision.Proofs.Text.Pattern
import Provision.Proofs.Name.Separators
import Provision.Proofs.Name.Words
import Provision.Proofs.Artifact.StageNames
import Provision.Proofs.Artifact.OldStamps
import Provision.Proofs.Manifest.NormalForm
import Provision.Proofs.Manifest.Operands
import Provision.Proofs.Manifest.Schema
import Provision.Proofs.Manifest.WholeNumber
import Provision.Proofs.Manifest.BinaryName
import Provision.Proofs.Template.Registry
import Provision.Proofs.Graph.Counters
import Provision.Proofs.Manifest.BlankYaml
