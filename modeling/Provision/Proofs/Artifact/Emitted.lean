import Provision.Proofs.Artifact.Dockerfile
import Provision.Proofs.Artifact.Makefile
import Provision.Proofs.Artifact.OneLine

/-!
# The artifacts of accepted drafts

What an accepted draft says is in order wherever an artifact relies on it: the tools that a plan
names are tools of its configuration, and those that run installers have names.  So both artifacts
are written whenever the templated settings are in order, and whatever is written is known line by
line.
-/

namespace Provision

open Template

variable {draft : Draft} {config : Config} {provenance : Provenance} {plan : Plan}

namespace Plan

/-- The text of an artifact, line by line. -/
def text (plan : Plan) (kind : ArtifactKind) (outPath : String) : String :=
  match kind with
  | .makefile => Makefile.text plan outPath
  | .dockerfile => Dockerfile.text plan outPath

theorem config_of_ofConfig (hplan : ofConfig config provenance = .ok plan) :
    plan.config = config := by
  obtain ⟨names, -, rfl⟩ := exists_of_ofConfig hplan
  rfl

theorem provenance_of_ofConfig (hplan : ofConfig config provenance = .ok plan) :
    plan.provenance = provenance := by
  obtain ⟨names, -, rfl⟩ := exists_of_ofConfig hplan
  rfl

theorem exists_tool_of_mem_tools (hplan : ofConfig config provenance = .ok plan)
    {view : ToolView} (hview : view ∈ plan.tools) :
    ∃ tool ∈ config.tools.values, view = ToolView.ofTool config tool := by
  obtain ⟨tool, htool, rfl⟩ := List.mem_map.mp ((tools_perm hplan).mem_iff.mp hview)
  exact ⟨tool, htool, rfl⟩

theorem runner_ne_empty (hplan : ofConfig config provenance = .ok plan) :
    ∀ view ∈ plan.tools, "" ∉ view.runner := by
  intro view hview hrunner
  obtain ⟨tool, -, rfl⟩ := exists_tool_of_mem_tools hplan hview
  exact (ToolView.isPlain_of_runner hrunner).2 rfl

end Plan

theorem Dockerfile.isInstalled_name (hnames : config.KeyedByName)
    (hplan : Plan.ofConfig config provenance = .ok plan) {view : ToolView}
    (hview : view ∈ plan.tools) :
    isInstalled config view.name = !view.tool.installer.isProvided := by
  obtain ⟨tool, htool, hsame⟩ := Plan.view_of_mem_tools hnames hplan hview
  have hown : view.tool = tool := by rw [hsame]; rfl
  rw [isInstalled, Config.tool?, htool, Option.any_some, hown]

namespace Accepted

theorem closed_plan (h : Accepted draft config)
    (hplan : Plan.ofConfig config provenance = .ok plan) : Dockerfile.Closed plan where
  dependencies := by
    intro view hview name hname
    obtain ⟨tool, htool, rfl⟩ := Plan.exists_tool_of_mem_tools hplan hview
    rw [Plan.config_of_ofConfig hplan]
    exact h.closed tool htool name hname
  members := by
    rw [Plan.config_of_ofConfig hplan]
    intro entry hentry member hmember
    exact h.member_mem_keys (List.mem_map_of_mem hentry) hmember

/-- The artifacts of an accepted draft are known wherever they are written. -/
theorem eq_text_of_emit (h : Accepted draft config)
    (hplan : Plan.ofConfig config provenance = .ok plan) {kind : ArtifactKind}
    {outPath text : String} (hemit : plan.emit kind.fragments kind outPath = .ok text) :
    text = plan.text kind outPath := by
  have hrunner := Plan.runner_ne_empty hplan
  cases kind with
  | makefile => exact Plan.eq_text_of_emit_makefile hrunner hemit
  | dockerfile => exact Plan.eq_text_of_emit_dockerfile (h.closed_plan hplan) hrunner hemit

/-- The artifacts of an accepted draft are written if its templated settings are in order. -/
theorem emit_eq_text (h : Accepted draft config)
    (hplan : Plan.ofConfig config provenance = .ok plan)
    (htemplates : ∀ tool ∈ config.tools.values, ∀ source ∈ tool.installer.templates,
      tool.IsTemplated config source) (kind : ArtifactKind) (outPath : String) :
    plan.emit kind.fragments kind outPath = .ok (plan.text kind outPath) := by
  have hrunner := Plan.runner_ne_empty hplan
  have hviews : ∀ view ∈ plan.tools, ∀ source ∈ view.tool.installer.templates,
      view.tool.IsTemplated plan.config source := by
    intro view hview
    obtain ⟨tool, htool, rfl⟩ := Plan.exists_tool_of_mem_tools hplan hview
    rw [Plan.config_of_ofConfig hplan]
    exact htemplates tool htool
  cases kind with
  | makefile => exact Plan.emit_makefile hrunner hviews outPath
  | dockerfile => exact Plan.emit_dockerfile (h.closed_plan hplan) hrunner hviews outPath

end Accepted

/-- Both artifacts of an accepted draft are written, whatever the mix of its settings, provided that
the templated ones are text with placeholders for declared variables. -/
theorem exists_artifacts_of_check (hok : draft.check = .ok config)
    (htemplates : ∀ tool ∈ config.tools.values, ∀ source ∈ tool.installer.templates,
      tool.IsTemplated config source) (provenance : Provenance) :
    ∃ plan, Plan.ofConfig config provenance = .ok plan ∧
      ∀ kind outPath, ∃ text, plan.emit kind.fragments kind outPath = .ok text := by
  obtain ⟨plan, hplan⟩ := (Draft.check_eq_ok_iff.mp hok).exists_plan provenance
  refine ⟨plan, hplan, ?_⟩
  intro kind outPath
  exact ⟨_, (Draft.check_eq_ok_iff.mp hok).emit_eq_text hplan htemplates kind outPath⟩

/-- A tool out of an archive whose URL has placeholders, and the command that it depends on. -/
def Draft.packed : Draft :=
  { vars := .ofList [("mirror", "https://example.org")]
    tools := .ofList
      [("lib", { provided := some {} }),
        ("zap",
          { http := some
              { url := some "\x7b\x7b global.mirror \x7d\x7d/\x7b\x7b vars.version \x7d\x7d.zip"
                zip := some { path := some "bin/zap" } }
            vars := .ofList [("version", "1.2")]
            dependsOn := ["lib"] })] }

namespace Config

def lib : Tool :=
  { name := ⟨"lib", by decide⟩, installer := .provided "lib", vars := .empty, dependsOn := [] }

def zap : Tool :=
  { name := ⟨"zap", by decide⟩
    installer := .http
      { url := "\x7b\x7b global.mirror \x7d\x7d/\x7b\x7b vars.version \x7d\x7d.zip"
        archive := some (.zip "bin/zap") }
    vars := .ofList [("version", "1.2")]
    dependsOn := [⟨"lib", by decide⟩] }

/-- What the check makes of `Draft.packed`. -/
def packed : Config :=
  { vars := .ofList [("mirror", "https://example.org")]
    localBinVar := "LOCALBIN"
    tools := .ofList [("lib", lib), ("zap", zap)]
    toolSets := .empty
    commands := {}
    dockerfile := {} }

theorem check_packed : Draft.packed.check = .ok packed := by
  have hok : Draft.packed.check.toOption = some packed := by decide +kernel
  exact Engine.exists_eq_ok_of_toOption hok

/-- What `packed` has in it keeps to one line and refers to nothing. -/
theorem texts_packed : ∀ s ∈ packed.toJson.texts, OneLine s ∧ '$' ∉ s.toList := by
  decide +kernel

/-- The URL of `zap` with its placeholders. -/
def zapUrl : InlineText :=
  .refer [] .shared "mirror" (.refer ['/'] .own "version" (.text ".zip".toList))

theorem source_zapUrl : zapUrl.source =
    "\x7b\x7b global.mirror \x7d\x7d/\x7b\x7b vars.version \x7d\x7d.zip".toList := by
  decide +kernel

theorem fits_zapUrl : zapUrl.Fits (zap.declared packed) := by
  have hmirror : "mirror" ∈ zap.declared packed .shared := by decide +kernel
  have hversion : "version" ∈ zap.declared packed .own := by decide +kernel
  have hending : '\x7b' ∉ ".zip".toList := by decide
  exact ⟨by decide, by decide, hmirror, by decide, by decide, hversion, hending⟩

theorem isTemplated_packed :
    ∀ tool ∈ packed.tools.values, ∀ source ∈ tool.installer.templates,
      tool.IsTemplated packed source := by
  have hvalues : packed.tools.values = [lib, zap] := by decide +kernel
  have hurl : zap.IsTemplated packed
      "\x7b\x7b global.mirror \x7d\x7d/\x7b\x7b vars.version \x7d\x7d.zip" :=
    ⟨zapUrl, source_zapUrl, fits_zapUrl⟩
  have hpath : zap.IsTemplated packed "bin/zap" := by
    have hpath : '\x7b' ∉ "bin/zap".toList := by decide
    exact ⟨.text "bin/zap".toList, rfl, hpath⟩
  rw [hvalues]
  simpa [lib, zap, Installer.templates, Archive.path] using ⟨hurl, hpath⟩

end Config

theorem exists_artifacts_packed :
    ∃ plan, Plan.ofConfig Config.packed ⟨"provision.yaml", "00"⟩ = .ok plan ∧
      ∀ kind outPath, ∃ text, plan.emit kind.fragments kind outPath = .ok text :=
  exists_artifacts_of_check Config.check_packed Config.isTemplated_packed _

end Provision
