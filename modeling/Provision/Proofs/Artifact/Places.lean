import Provision.Proofs.Artifact.Emitted

/-!
# What recipes change

A recipe changes a few places below the directory of the binaries: the binary that it installs and
what it keeps on the way there.  They are named after the tool, apart from what a Go package builds,
which is named after the package.  Nothing checks that name against those of the other tools, nor
that no tool takes the name of the directory in which recipes keep what they need.
-/

namespace Provision

namespace Recipe

/-! ## Steps and places -/

/-- What a recipe changes below the directory of the binaries. -/
inductive Place where
  | binary
  | archive (kind : String)
  /-- What a Go package builds. -/
  | built (name : String)
  /-- Where all Python applications are kept. -/
  | applications
  /-- Where the Maven artifact of a tool is kept. -/
  | artifacts
  | jar
deriving DecidableEq

/-- The directory in which recipes keep what is no binary. -/
def supportDir : String := ".make-env"

/-- The path of a place below the directory of the binaries, for a tool of a given name. -/
def Place.path (tool : String) : Place → String
  | binary => tool
  | archive kind => supportDir ++ "/" ++ tool ++ "." ++ kind
  | built name => name
  | applications => supportDir ++ "/pipx"
  | artifacts => supportDir ++ "/maven/" ++ tool
  | jar => supportDir ++ "/maven/" ++ tool ++ "/" ++ tool ++ ".jar"

inductive Step where
  | probe
  | download (target : Place)
  | copyObject (target : Place)
  | unpack (packed : Archive)
  | remove (place : Place)
  | clear (place : Place)
  | allow (place : Place)
  | installApp (app : PythonApp)
  | linkApp (app : PythonApp)
  | build (m : GoModule)
  | move (source target : Place)
  | fetchArtifact (coordinate : String)
  | gatherJar
  | wrapJar

namespace Step

/-- What a step writes, moves or deletes. -/
def changed : Step → List Place
  | probe => []
  | download target => [target]
  | copyObject target => [target]
  | unpack _ => [.binary]
  | remove place => [place]
  | clear place => [place]
  | allow place => [place]
  | installApp _ => [.applications]
  | linkApp _ => [.binary]
  | build m => [.built m.binary]
  | move source target => [source, target]
  | fetchArtifact _ => [.artifacts]
  | gatherJar => [.artifacts, .jar]
  | wrapJar => [.binary]

end Step

section

variable (kind : ArtifactKind) (config : Config) (depth : Nat) (tool : Tool)

/-- How a recipe writes a place: by a variable or from the directory of the binaries on. -/
def Place.written : Place → String
  | binary => Recipe.binary kind tool
  | archive _ => Recipe.archive kind tool
  | built name => localBin kind config ++ "/" ++ name
  | applications => localBin kind config ++ "/.make-env/pipx"
  | artifacts => localBin kind config ++ "/.make-env/maven/" ++ tool.name.text
  | jar =>
      localBin kind config ++ "/.make-env/maven/" ++ tool.name.text ++ "/" ++ tool.name.text ++
        ".jar"

/-- The line of a step. -/
def Step.text (runner : Option String) : Step → String
  | probe => "command -v " ++ Place.written kind config tool .binary ++ " >/dev/null"
  | download target =>
      config.commands.curl ++ " -fsSL -o " ++ target.written kind config tool ++ " " ++
        url kind tool
  | copyObject target =>
      config.commands.aws ++ " s3 cp --only-show-errors " ++ url kind tool ++ " " ++
        target.written kind config tool
  | unpack packed => Text.trimmed (extract kind config depth tool packed ++ "\n")
  | remove place => config.commands.rm ++ " -f " ++ place.written kind config tool
  | clear place => config.commands.rm ++ " -rf " ++ place.written kind config tool
  | allow place => config.commands.chmod ++ " +x " ++ place.written kind config tool
  | installApp app =>
      "PIPX_HOME=" ++ Place.written kind config tool .applications ++ " PIPX_BIN_DIR=" ++
        Place.written kind config tool .applications ++ "/bin " ++
          runnerOr kind runner config.commands.pipx ++ " install --force " ++
            tool.filled kind config (depth + 4) app.package ++
              pinning kind config depth tool app.version
  | linkApp app =>
      config.commands.ln ++ " -sf " ++ Place.written kind config tool .applications ++ "/bin/" ++
        app.app ++ " " ++ Place.written kind config tool .binary
  | build m =>
      String.join (m.env.entries.map (fun entry =>
          entry.1 ++ ("=" ++ (tool.filled kind config (depth + 4) entry.2 ++ " ")))) ++
        "GOBIN=" ++ localBin kind config ++ " " ++ runnerOr kind runner config.commands.go ++
          " install" ++
            String.join (m.flags.map (fun flag =>
              " " ++ tool.filled kind config (depth + 4) flag)) ++
              " " ++ tool.filled kind config (depth + 4) m.package ++ "@" ++
                tool.filled kind config (depth + 4) m.version
  | move source target =>
      config.commands.mv ++ " -f " ++ source.written kind config tool ++ " " ++
        target.written kind config tool
  | fetchArtifact coordinate =>
      runnerOr kind runner config.commands.mvn ++ " -q dependency:copy -Dartifact=" ++
        tool.filled kind config (depth + 4) coordinate ++ " -DoutputDirectory=" ++
          Place.written kind config tool .artifacts
  | gatherJar =>
      config.commands.mv ++ " -f " ++ Place.written kind config tool .artifacts ++ "/*.jar " ++
        Place.written kind config tool .jar
  | wrapJar =>
      "printf '#!/bin/sh\\nexec %s -jar %s \"\\044@\"\\n' '" ++ config.commands.java ++ "' \"" ++
        Place.written kind config tool .jar ++ "\" > " ++ Place.written kind config tool .binary

def fetchSteps (download : Place → Step) (source : Fetch) : List Step :=
  match source.archive with
  | none => [download .binary, .allow .binary]
  | some packed =>
      [download (.archive packed.kind), .unpack packed, .remove (.archive packed.kind),
        .allow .binary]

/-- The recipe of a tool, step by step. -/
def steps : List Step :=
  match tool.installer with
  | .provided _ => [.probe]
  | .http source => fetchSteps .download source
  | .objectStore source => fetchSteps .copyObject source
  | .pythonApp app => [.installApp app, .linkApp app]
  | .goModule m =>
      .build m :: (if m.binary = tool.name.text then [] else [.move (.built m.binary) .binary])
  | .maven coordinate =>
      [.clear .artifacts, .fetchArtifact coordinate, .gatherJar, .wrapJar, .allow .binary]

theorem fetch_eq_map_text {runner : Option String} {download : Place → Step}
    {line : String → String} (hdownload : ∀ target,
      (download target).text kind config depth tool runner =
        line (target.written kind config tool)) (source : Fetch) :
    fetch kind config depth tool line source =
      (fetchSteps download source).map (Step.text kind config depth tool runner) := by
  unfold fetch fetchSteps
  cases source.archive with
  | none =>
      rw [List.map_cons, hdownload]
      exact rfl
  | some packed =>
      rw [List.map_cons, hdownload]
      exact rfl

theorem lines_eq_map_text (runner : Option String) :
    lines kind config depth tool runner =
      (steps tool).map (Step.text kind config depth tool runner) := by
  unfold lines steps
  cases tool.installer with
  | provided default => exact rfl
  | http source => exact fetch_eq_map_text kind config depth tool (fun _ => rfl) source
  | objectStore source => exact fetch_eq_map_text kind config depth tool (fun _ => rfl) source
  | pythonApp app => exact rfl
  | goModule m =>
      by_cases hname : m.binary = tool.name.text
      · simp only [goModule, if_pos hname]
        exact rfl
      -- The step appends the path as a whole, and the recipe piece by piece.
      · have htext : (Step.move (.built m.binary) .binary).text kind config depth tool runner =
            config.commands.mv ++ " -f " ++ (localBin kind config ++ "/" ++ m.binary) ++ " " ++
              binary kind tool := rfl
        rw [← String.append_assoc, ← String.append_assoc] at htext
        simp only [goModule, if_neg hname]
        rw [List.map_cons, List.map_cons, htext]
        exact rfl
  | maven coordinate => exact rfl

end

/-- What the recipe of a tool writes, moves or deletes. -/
def changed (tool : Tool) : List Place :=
  (steps tool).flatMap Step.changed

theorem mem_changed_fetchSteps {download : Place → Step} {source : Fetch} {place : Place}
    (hdownload : ∀ target, (download target).changed = [target])
    (h : place ∈ (fetchSteps download source).flatMap Step.changed) :
    place = .binary ∨ ∃ packed, source.archive = some packed ∧ place = .archive packed.kind := by
  unfold fetchSteps at h
  cases harchive : source.archive with
  | none =>
      simp only [harchive, List.flatMap_cons, hdownload] at h
      exact Or.inl (by simpa [Step.changed] using h)
  | some packed =>
      simp only [harchive, List.flatMap_cons, hdownload] at h
      have hcases : place = .archive packed.kind ∨ place = .binary := by
        simpa [Step.changed, or_left_comm, or_comm] using h
      exact hcases.symm.imp_right (fun hplace => ⟨packed, rfl, hplace⟩)

/-- A recipe changes the binary, the archive that it is unpacked from, what a Go package builds, and
what is kept for Python applications and for Maven artifacts. -/
theorem mem_changed {tool : Tool} {place : Place} (h : place ∈ changed tool) :
    place = .binary ∨
      (∃ source packed, tool.installer.fetch? = some source ∧ source.archive = some packed ∧
        place = .archive packed.kind) ∨
      (∃ m, tool.installer = .goModule m ∧ place = .built m.binary) ∨
      place = .applications ∨ place = .artifacts ∨ place = .jar := by
  unfold changed steps at h
  cases hinstaller : tool.installer with
  | provided default => simp [hinstaller, Step.changed] at h
  | http source =>
      rw [hinstaller] at h
      refine (mem_changed_fetchSteps (fun _ => rfl) h).imp_right ?_
      rintro ⟨packed, harchive, hplace⟩
      exact Or.inl ⟨source, packed, rfl, harchive, hplace⟩
  | objectStore source =>
      rw [hinstaller] at h
      refine (mem_changed_fetchSteps (fun _ => rfl) h).imp_right ?_
      rintro ⟨packed, harchive, hplace⟩
      exact Or.inl ⟨source, packed, rfl, harchive, hplace⟩
  | pythonApp app =>
      simp only [hinstaller] at h
      have hcases : place = .applications ∨ place = .binary := by simpa [Step.changed] using h
      tauto
  | goModule m =>
      simp only [hinstaller] at h
      have hcases : place = .built m.binary ∨ place = .binary := by
        split at h
        · exact Or.inl (by simpa [Step.changed] using h)
        · simpa [Step.changed] using h
      rcases hcases with hbuilt | hbinary
      · exact Or.inr (Or.inr (Or.inl ⟨m, rfl, hbuilt⟩))
      · exact Or.inl hbinary
  | maven coordinate =>
      simp only [hinstaller] at h
      have hcases : place = .artifacts ∨ place = .jar ∨ place = .binary := by
        simpa [Step.changed] using h
      tauto

theorem built_mem_changed {tool : Tool} {m : GoModule} (h : tool.installer = .goModule m) :
    .built m.binary ∈ changed tool := by
  simp [changed, steps, h, Step.changed]

end Recipe

/-! ## Where the places are -/

namespace Plan

/-- An artifact gives a variable a value that it has unless it is set otherwise. -/
def Defines (plan : Plan) (outPath : String) : ArtifactKind → String → String → Prop
  | .makefile, name, value => .default name value ∈ Makefile.lines plan outPath
  | .dockerfile, name, value => .argument name (some value) ∈ Dockerfile.lines plan outPath

/-- What an artifact writes is a path below the directory of the binaries, as it stands or by a
variable that it defines so. -/
def Locates (plan : Plan) (outPath : String) (kind : ArtifactKind) (written path : String) :
    Prop :=
  let whole := Recipe.localBin kind plan.config ++ "/" ++ path
  written = whole ∨ ∃ name, written = kind.reference name ∧ plan.Defines outPath kind name whole

variable {plan : Plan} {view : ToolView}

theorem defines_of_mem (hview : view ∈ plan.tools) (outPath : String) {name : String}
    (value : ArtifactKind → String)
    (hmake : .default name (value .makefile) ∈ Makefile.toolLines plan.config view)
    (hdocker : .argument name (some (value .dockerfile)) ∈
      Dockerfile.argumentLines plan.config view) (kind : ArtifactKind) :
    plan.Defines outPath kind name (value kind) := by
  cases kind with
  | makefile =>
      have hmem : .default name (value .makefile) ∈
          plan.tools.flatMap (fun view => .blank :: Makefile.toolLines plan.config view) :=
        List.mem_flatMap.mpr ⟨view, hview, List.mem_cons_of_mem _ hmake⟩
      exact List.mem_append_left _ (List.mem_append_right _ hmem)
  | dockerfile =>
      have hmem : .argument name (some (value .dockerfile)) ∈
          plan.tools.flatMap (Dockerfile.argumentLines plan.config) :=
        List.mem_flatMap.mpr ⟨view, hview, hdocker⟩
      exact List.mem_append_left _ (List.mem_append_left _ (List.mem_append_right _ hmem))

theorem defines_binary (hview : view ∈ plan.tools)
    (hinstalled : view.tool.installer.isProvided = false) (outPath : String)
    (kind : ArtifactKind) :
    plan.Defines outPath kind (Name.identifier view.name)
      (Recipe.localBin kind plan.config ++ "/" ++ view.name) := by
  refine defines_of_mem hview outPath
    (fun kind => Recipe.localBin kind plan.config ++ "/" ++ view.name) ?_ ?_ kind
  · rw [Makefile.toolLines_of_isProvided_eq_false hinstalled]
    exact List.mem_cons_of_mem _ (List.mem_append_right _ (List.mem_append_right _
      (List.mem_append_left _ (List.mem_append_left _ List.mem_cons_self))))
  · rw [Dockerfile.argumentLines_of_isProvided_eq_false hinstalled]
    exact List.mem_append_right _ List.mem_cons_self

theorem defines_archive (hview : view ∈ plan.tools)
    (hinstalled : view.tool.installer.isProvided = false) {source : Fetch} {packed : Archive}
    (hfetch : view.tool.installer.fetch? = some source) (harchive : source.archive = some packed)
    (outPath : String) (kind : ArtifactKind) :
    plan.Defines outPath kind (Name.archiveIdentifier view.name)
      (Recipe.localBin kind plan.config ++ "/" ++
        (Recipe.Place.archive packed.kind).path view.name) := by
  have hpath : Recipe.localBin kind plan.config ++ "/" ++
      (Recipe.Place.archive packed.kind).path view.name =
        Recipe.localBin kind plan.config ++ "/.make-env/" ++ view.name ++ "." ++ packed.kind := by
    apply String.toList_inj.mp
    simp [Recipe.Place.path, Recipe.supportDir]
  rw [hpath]
  refine defines_of_mem hview outPath
    (fun kind => Recipe.localBin kind plan.config ++ "/.make-env/" ++ view.name ++ "." ++
      packed.kind) ?_ ?_ kind
  · rw [Makefile.toolLines_of_isProvided_eq_false hinstalled, hfetch]
    apply List.mem_cons_of_mem
    apply List.mem_append_right
    apply List.mem_append_left
    simp [Makefile.fetchLines, harchive, Makefile.madePath, Makefile.localBin, Recipe.localBin]
  · rw [Dockerfile.argumentLines_of_isProvided_eq_false hinstalled, hfetch]
    apply List.mem_append_right
    apply List.mem_cons_of_mem
    simp [Dockerfile.fetchLines, harchive, Dockerfile.localBin, Recipe.localBin]

theorem locates_of_mem_changed (hview : view ∈ plan.tools)
    (hinstalled : view.tool.installer.isProvided = false) {place : Recipe.Place}
    (hplace : place ∈ Recipe.changed view.tool) (outPath : String) (kind : ArtifactKind) :
    plan.Locates outPath kind (place.written kind plan.config view.tool)
      (place.path view.name) := by
  rcases Recipe.mem_changed hplace with rfl | ⟨source, packed, hfetch, harchive, rfl⟩ |
    ⟨m, -, rfl⟩ | rfl | rfl | rfl
  · exact Or.inr ⟨_, rfl, defines_binary hview hinstalled outPath kind⟩
  · exact Or.inr ⟨_, rfl, defines_archive hview hinstalled hfetch harchive outPath kind⟩
  · exact Or.inl rfl
  · refine Or.inl (String.toList_inj.mp ?_)
    simp [Recipe.Place.written, Recipe.Place.path, Recipe.supportDir]
  · refine Or.inl (String.toList_inj.mp ?_)
    simp [Recipe.Place.written, Recipe.Place.path, Recipe.supportDir, ToolView.name]
  · refine Or.inl (String.toList_inj.mp ?_)
    simp [Recipe.Place.written, Recipe.Place.path, Recipe.supportDir, ToolView.name]

end Plan

/-! ## Binaries of other tools -/

namespace Config

/-- The tools that recipes install. -/
def installedTools (config : Config) : List Tool :=
  config.tools.values.filter (fun tool => !tool.installer.isProvided)

/-- No recipe changes the binary of another tool, and no binary takes the place of the directory in
which recipes keep what is no binary. -/
def KeptApart (config : Config) : Prop :=
  (∀ tool ∈ config.installedTools, ∀ other ∈ config.installedTools, tool.name ≠ other.name →
    ∀ place ∈ Recipe.changed tool,
      place.path tool.name.text ≠ Recipe.Place.binary.path other.name.text) ∧
  ∀ tool ∈ config.installedTools, Recipe.Place.binary.path tool.name.text ≠ Recipe.supportDir

/-- No Go package builds a binary with the name of another tool, and no tool has the name of the
directory in which recipes keep what is no binary. -/
def NamedApart (config : Config) : Prop :=
  (∀ tool ∈ config.installedTools, ∀ package ∈ tool.installer.package?,
    ∀ other ∈ config.installedTools, tool.name ≠ other.name →
      GoPackage.binaryName package ≠ other.name.text) ∧
  ∀ tool ∈ config.installedTools, tool.name.text ≠ Recipe.supportDir

end Config

theorem ToolName.slash_notMem (name : ToolName) : '/' ∉ name.text.toList := by
  intro hmem
  exact absurd (name.isPlain_text '/' hmem) (by decide)

variable {draft : Draft} {config : Config}

namespace Accepted

theorem binary_eq (h : Accepted draft config) {tool : Tool} (htool : tool ∈ config.tools.values)
    {m : GoModule} (hinstaller : tool.installer = .goModule m) :
    m.binary = GoPackage.binaryName m.package := by
  obtain ⟨name, hname⟩ := Dict.mem_values_iff.mp htool
  obtain ⟨written, -, hok⟩ := h.exists_draft hname
  obtain ⟨-, -, hmade, -⟩ := Check.tool_eq_ok_iff.mp hok
  have hinstalls := (Check.installer_eq_ok_iff.mp hmade).2
  rw [hinstaller] at hinstalls
  cases hinstalls with
  | goModule hsection hmodule => exact (Check.goModule_eq_ok_iff.mp hmodule).2.2.2.2.2

theorem keptApart_iff_namedApart (h : Accepted draft config) :
    config.KeptApart ↔ config.NamedApart := by
  have hvalues : ∀ tool ∈ config.installedTools, tool ∈ config.tools.values :=
    fun tool htool => (List.mem_filter.mp htool).1
  refine and_congr_left fun _ => ⟨?_, ?_⟩
  · intro hkept tool htool package hpackage other hother hne
    cases hinstaller : tool.installer <;> rw [hinstaller] at hpackage <;> cases hpackage
    next m =>
      have hbuilt := hkept tool htool other hother hne _ (Recipe.built_mem_changed hinstaller)
      rw [← h.binary_eq (hvalues tool htool) hinstaller]
      exact hbuilt
  -- All places but the binary and what a Go package builds have a slash in their paths.
  · intro hnamed tool htool other hother hne place hplace hsame
    have hslash := other.name.slash_notMem
    have hpath : place.path tool.name.text = other.name.text := hsame
    rw [← hpath] at hslash
    rcases Recipe.mem_changed hplace with rfl | ⟨source, packed, -, -, rfl⟩ | ⟨m, hm, rfl⟩ |
      rfl | rfl | rfl
    · exact hne (ToolName.text_injective hpath)
    · simp [Recipe.Place.path] at hslash
    · refine hnamed tool htool m.package ?_ other hother hne ?_
      · rw [hm]
        rfl
      · rw [← h.binary_eq (hvalues tool htool) hm]
        exact hpath
    · simp [Recipe.Place.path] at hslash
    · simp [Recipe.Place.path] at hslash
    · simp [Recipe.Place.path] at hslash

end Accepted

/-- Recipes are made of steps, and in both artifacts the places that the steps change are where
their paths say.  No recipe changes the binary of another tool, and no binary takes the place of the
directory that recipes share, exactly when no Go package builds a binary with the name of another
tool and no tool has the name of that directory. -/
theorem keptApart_of_check_iff (hok : draft.check = .ok config) (provenance : Provenance) :
    ∃ plan, Plan.ofConfig config provenance = .ok plan ∧
      (∀ kind outPath text, plan.emit kind.fragments kind outPath = .ok text →
        text = plan.text kind outPath) ∧
      (∀ view ∈ Dockerfile.installed plan, ∀ kind : ArtifactKind,
        (∀ depth runner, Recipe.lines kind config depth view.tool runner =
          (Recipe.steps view.tool).map (Recipe.Step.text kind config depth view.tool runner)) ∧
        ∀ place ∈ Recipe.changed view.tool, ∀ outPath,
          plan.Locates outPath kind (place.written kind config view.tool)
            (place.path view.name)) ∧
      (config.KeptApart ↔ config.NamedApart) := by
  have h := Draft.check_eq_ok_iff.mp hok
  obtain ⟨plan, hplan⟩ := h.exists_plan provenance
  refine ⟨plan, hplan, fun kind outPath text hemit => h.eq_text_of_emit hplan hemit, ?_,
    h.keptApart_iff_namedApart⟩
  intro view hview kind
  obtain ⟨hmem, hinstalled⟩ := List.mem_filter.mp hview
  obtain rfl := Plan.config_of_ofConfig hplan
  refine ⟨fun depth runner => Recipe.lines_eq_map_text kind plan.config depth view.tool runner, ?_⟩
  intro place hplace outPath
  exact Plan.locates_of_mem_changed hmem (by simpa using hinstalled) hplace outPath kind

/-- A Go package whose binary is renamed, and a tool of a given name. -/
def Draft.renaming (name : String) : Draft :=
  { tools := .ofList
      [("fmt", { go := some { modulePath := some "example.org/jq", version := some "v1" } }),
        (name, { http := some { url := some "https://example.org/tool" } })] }

/-- What the check makes of `Draft.renaming`. -/
def Config.renaming (name : ToolName) : Config :=
  { vars := .empty
    localBinVar := "LOCALBIN"
    tools := .ofList
      [("fmt",
        { name := ⟨"fmt", by decide⟩
          installer := .goModule
            { modulePath := "example.org/jq", subPath := none, version := "v1", env := .empty
              flags := [], binary := "jq" }
          vars := .empty
          dependsOn := [] }),
        (name.text,
          { name
            installer := .http { url := "https://example.org/tool", archive := none }
            vars := .empty
            dependsOn := [] })]
    toolSets := .empty
    commands := {}
    dockerfile := {} }

theorem keptApart_renaming_yq :
    (Draft.renaming "yq").check = .ok (Config.renaming ⟨"yq", by decide⟩) ∧
      (Config.renaming ⟨"yq", by decide⟩).KeptApart := by
  have hok : (Draft.renaming "yq").check.toOption = some (Config.renaming ⟨"yq", by decide⟩) := by
    decide +kernel
  have hcheck := Engine.exists_eq_ok_of_toOption hok
  have hnamed : (Config.renaming ⟨"yq", by decide⟩).NamedApart := by
    unfold Config.NamedApart
    decide +kernel
  obtain ⟨-, -, -, -, hkept⟩ := keptApart_of_check_iff hcheck ⟨"provision.yaml", "00"⟩
  exact ⟨hcheck, hkept.mpr hnamed⟩

/-- Both pass the check: a tool with the name of the binary that another tool's package builds, and
one with the name of the directory that recipes share. -/
theorem not_keptApart_renaming :
    ((Draft.renaming "jq").check = .ok (Config.renaming ⟨"jq", by decide⟩) ∧
      ¬ (Config.renaming ⟨"jq", by decide⟩).KeptApart) ∧
    ((Draft.renaming ".make-env").check = .ok (Config.renaming ⟨".make-env", by decide⟩) ∧
      ¬ (Config.renaming ⟨".make-env", by decide⟩).KeptApart) := by
  have hjq : (Draft.renaming "jq").check.toOption =
      some (Config.renaming ⟨"jq", by decide⟩) := by decide +kernel
  have hsupport : (Draft.renaming ".make-env").check.toOption =
      some (Config.renaming ⟨".make-env", by decide⟩) := by decide +kernel
  refine ⟨⟨Engine.exists_eq_ok_of_toOption hjq, ?_⟩,
    Engine.exists_eq_ok_of_toOption hsupport, ?_⟩
  · unfold Config.KeptApart
    decide +kernel
  · unfold Config.KeptApart
    decide +kernel

end Provision
