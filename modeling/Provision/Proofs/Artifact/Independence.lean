import Provision.Proofs.Artifact.Emitted
import Provision.Proofs.Template.Contexts

/-!
# What artifacts do not depend on

The main fragment of an artifact is given the whole plan.  Below are the parts of it that have no
influence: the Makefile does not depend on the settings of the Dockerfile, and where a
configuration came from and where an artifact is written to is said in its header and nowhere else.
Templated settings may hold any template: what they are handed is the same on both sides.
-/

namespace Provision

open Template Template.Value

variable {draft : Draft} {config : Config} {provenance : Provenance} {plan : Plan}

/-- A main fragment is rendered by the engine of its kind. -/
theorem Plan.emit_eq {kind : ArtifactKind} {body : List Stmt}
    (hmain : kind.ownBodies.lookup "main" = some body) (plan : Plan) (outPath : String) :
    plan.emit kind.fragments kind outPath =
      (renderTemplate (kind.engine.host Engine.nestingLimit) "main" false ⟨body, []⟩
        (ofJson (plan.context outPath))).mapError (.render "main") := by
  obtain ⟨hfragment, hescape⟩ := Recipe.fragment?_own kind hmain
  rw [Plan.emit, kind.ofFragments_fragments, ← hescape]
  exact kind.engine.render_eq hfragment _

/-- Plans of the same tools give their main fragments contexts that agree if the other parts of the
plans do. -/
theorem Plan.agree_context {mask : Mask} {plan plan' : Plan} {outPath outPath' : String}
    (hpath : Agree (mask.field "in_path") (.text plan.provenance.path)
      (.text plan'.provenance.path))
    (hout : Agree (mask.field "out_path") (.text outPath) (.text outPath'))
    (hdigest : Agree (mask.field "config_digest") (.text plan.provenance.digest)
      (.text plan'.provenance.digest))
    (hconfig : Agree (mask.field "config") (ofJson plan.config.toJson)
      (ofJson plan'.config.toJson))
    (htools : plan.tools = plan'.tools) :
    Agree mask (ofJson (plan.context outPath)) (ofJson (plan'.context outPath')) := by
  apply agree_ofJson_obj
  rw [htools]
  exact .cons ⟨rfl, .refl rfl⟩ (.cons ⟨rfl, hpath⟩ (.cons ⟨rfl, hout⟩ (.cons ⟨rfl, hdigest⟩
    (.cons ⟨rfl, hconfig⟩ (.cons ⟨rfl, .refl (isData_ofJson _)⟩ .nil)))))

/-! ## Makefiles and the settings of the Dockerfile -/

/-- A configuration with other settings of the Dockerfile. -/
def Config.withDockerfile (config : Config) (settings : DockerfileSettings) : Config :=
  { config with dockerfile := settings }

theorem Plan.ofConfig_withDockerfile (hplan : Plan.ofConfig config provenance = .ok plan)
    (settings : DockerfileSettings) :
    Plan.ofConfig (config.withDockerfile settings) provenance =
      .ok { plan with config := plan.config.withDockerfile settings } := by
  obtain ⟨names, hnames, rfl⟩ := Plan.exists_of_ofConfig hplan
  have hgraph : (config.withDockerfile settings).graph = config.graph := rfl
  rw [Plan.ofConfig, hgraph, hnames]
  rfl

namespace Makefile

/-- The settings of the Dockerfile within a configuration. -/
def settingsMask : Mask := .under "dockerfile" .everything .nothing

/-- What the contexts of included fragments may differ in. -/
def sceneMask : Mask := .under "config" settingsMask .nothing

/-- What variables may differ in: the fragment of a tool keeps the context of its recipe in one. -/
def mask : Mask := .under "config" settingsMask (.under "ctx" sceneMask .nothing)

/-- No fragment of a Makefile looks at the settings of the Dockerfile. -/
theorem respectsBody_of_fragment? {name : String} {template : Template}
    (h : ArtifactKind.makefile.engine.fragment? name = some template) :
    respectsBody mask sceneMask template.body = true := by
  have hall : ∀ entry ∈ Fragment.commonBodies ++ ArtifactKind.makefile.ownBodies,
      respectsBody mask sceneMask entry.2 = true := by decide +kernel
  rw [ArtifactKind.fragment?_engine] at h
  obtain ⟨body, hbody, rfl⟩ := Option.map_eq_some_iff.mp h
  obtain ⟨before, after, hsplit, -⟩ := List.lookup_eq_some_iff.mp hbody
  refine hall (name, body) (List.mem_reverse.mp ?_)
  rw [hsplit]
  simp

theorem host_inStep (depth : Nat) :
    (ArtifactKind.makefile.engine.host depth).InStep mask sceneMask :=
  Engine.host_inStep (by decide) (by decide) (fun _ _ => respectsBody_of_fragment?) depth

theorem agree_toJson (config : Config) (settings : DockerfileSettings) :
    Agree settingsMask (ofJson config.toJson) (ofJson (config.withDockerfile settings).toJson) := by
  refine agree_ofJson_obj (.cons ⟨rfl, ?_⟩ (.cons ⟨rfl, ?_⟩ (.cons ⟨rfl, ?_⟩ (.cons ⟨rfl, ?_⟩
    (.cons ⟨rfl, ?_⟩ (.cons ⟨rfl, .everything ?_ ?_⟩ .nil))))))
  all_goals first | exact .refl (isData_ofJson _) | exact isData_ofJson _

end Makefile

/-- Configurations that differ only in the settings of the Dockerfile have the same Makefile, or
the same failure to make one. -/
theorem emit_makefile_eq_of_withDockerfile (hok : draft.check = .ok config)
    (settings : DockerfileSettings) (provenance : Provenance) (outPath : String) :
    ∃ plan plan', Plan.ofConfig config provenance = .ok plan ∧
      Plan.ofConfig (config.withDockerfile settings) provenance = .ok plan' ∧
      plan.emit ArtifactKind.makefile.fragments .makefile outPath =
        plan'.emit ArtifactKind.makefile.fragments .makefile outPath := by
  obtain ⟨plan, hplan⟩ := (Draft.check_eq_ok_iff.mp hok).exists_plan provenance
  refine ⟨plan, _, hplan, Plan.ofConfig_withDockerfile hplan settings, ?_⟩
  have hmain : ArtifactKind.makefile.ownBodies.lookup "main" = some Fragment.makefileMainBody :=
    rfl
  have hbody : respectsBody Makefile.mask Makefile.sceneMask Fragment.makefileMainBody = true :=
    Makefile.respectsBody_of_fragment? (Recipe.fragment?_own .makefile hmain).1
  have hrun := runAll_inStep (Makefile.host_inStep (Engine.nestingLimit - 1)) _ hbody
  have hcontext :
      Agree Makefile.mask (ofJson (plan.context outPath))
        (ofJson (Plan.context
          { plan with config := plan.config.withDockerfile settings } outPath)) :=
    Plan.agree_context (.refl rfl) (.refl rfl) (.refl rfl)
      (Makefile.agree_toJson plan.config settings) rfl
  rw [Plan.emit_eq hmain, Plan.emit_eq hmain,
    renderTemplate_eq (by decide) hrun "main" false hcontext]

theorem emit_makefile_packed :
    ∃ plan plan', Plan.ofConfig Config.packed ⟨"provision.yaml", "00"⟩ = .ok plan ∧
      Plan.ofConfig (Config.packed.withDockerfile { stagePrefix := "tool-" })
        ⟨"provision.yaml", "00"⟩ = .ok plan' ∧
      plan.emit ArtifactKind.makefile.fragments .makefile "Makefile" =
        plan'.emit ArtifactKind.makefile.fragments .makefile "Makefile" :=
  emit_makefile_eq_of_withDockerfile Config.check_packed _ _ _

/-! ## Headers -/

namespace ArtifactKind

/-- How an artifact begins. -/
def banner : ArtifactKind → String
  | .makefile => "# Code generated by make-env "
  | .dockerfile => "# syntax=docker/dockerfile:1\n# Code generated by make-env "

def header (kind : ArtifactKind) : List Stmt :=
  [.text kind.banner, .emit (.var "version"), .text ". DO NOT EDIT.\n# Source: ",
    .emit (.var "in_path"), .text " (sha256:", .emit (.var "config_digest"),
    .text ")\n# Output: ", .emit (.var "out_path")]

/-- What the main fragment goes on with below the header. -/
def belowHeader : ArtifactKind → List Stmt
  | .makefile => Fragment.makefileMainBody.drop 8
  | .dockerfile => Fragment.dockerfileMainBody.drop 8

theorem lookup_main (kind : ArtifactKind) :
    kind.ownBodies.lookup "main" = some (kind.header ++ kind.belowHeader) := by
  cases kind <;> rfl

/-- What the header says, part by part. -/
def headerTexts (kind : ArtifactKind) (provenance : Provenance) (outPath : String) :
    List String :=
  [kind.banner, version, ". DO NOT EDIT.\n# Source: ", provenance.path, " (sha256:",
    provenance.digest, ")\n# Output: ", outPath]

theorem join_headerTexts (kind : ArtifactKind) (provenance : Provenance) (outPath : String) :
    String.join (kind.headerTexts provenance outPath) =
      kind.banner ++ version ++ ". DO NOT EDIT.\n" ++ "# Source: " ++ provenance.path ++
        " (sha256:" ++ provenance.digest ++ ")\n# Output: " ++ outPath := by
  have hsplit : ". DO NOT EDIT.\n# Source: " = ". DO NOT EDIT.\n" ++ "# Source: " := rfl
  rw [headerTexts, hsplit]
  simp [String.append_assoc]

/-- What is said in the header alone. -/
def headerMask : Mask :=
  .under "in_path" .everything (.under "config_digest" .everything
    (.under "out_path" .everything .nothing))

/-- Below the header nothing looks at what the header says. -/
theorem respectsBody_belowHeader (kind : ArtifactKind) :
    respectsBody headerMask .nothing kind.belowHeader = true := by
  cases kind <;> decide +kernel

end ArtifactKind

theorem Template.Ready.run_emit_var {depth : Nat} {env : Env} {s : State} (h : Ready depth env s)
    (host : Host) {name value : String} (hname : name ≠ "loop") (hvalue : env name = .text value) :
    run host (.emit (.var name)) s = .ok (value, s) := by
  have hevaluate : evaluate host (.var name) s = .ok (.text value, s) := by
    rw [evaluate, Run.get_bind, h.lookup name hname, hvalue]
    rfl
  have hemitted : emitted? false (.text value) = some value := rfl
  rw [run, Run.bind_eq_of_ok hevaluate, h.emit_eq_ok hemitted]

namespace Plan

theorem ofConfig_with_provenance (hplan : ofConfig config provenance = .ok plan)
    (other : Provenance) : ofConfig config other = .ok { plan with provenance := other } := by
  obtain ⟨names, hnames, rfl⟩ := exists_of_ofConfig hplan
  rw [ofConfig, hnames]

/-- The header is written before anything changes. -/
theorem run_header (plan : Plan) (kind : ArtifactKind) (outPath : String) (host : Host)
    (rest : List Stmt) :
    List.Forall₂
      (fun stmt text =>
        run host stmt (.start "main" false ⟨rest, []⟩ (ofJson (plan.context outPath))) =
          .ok (text, .start "main" false ⟨rest, []⟩ (ofJson (plan.context outPath))))
      kind.header (kind.headerTexts plan.provenance outPath) := by
  have hready := ready_start "main" ⟨rest, []⟩ (ofJson (plan.context outPath))
  rw [ofJson_context, Env.ofContext_ofDict] at hready
  rw [ofJson_context]
  have hversion : Env.ofDict (plan.scene outPath) "version" = .text version := by simp
  have hpath : Env.ofDict (plan.scene outPath) "in_path" = .text plan.provenance.path := by simp
  have hdigest : Env.ofDict (plan.scene outPath) "config_digest" =
      .text plan.provenance.digest := by simp
  have hout : Env.ofDict (plan.scene outPath) "out_path" = .text outPath := by simp
  exact .cons (hready.run_text host _) (.cons (hready.run_emit_var host (by decide) hversion)
    (.cons (hready.run_text host _) (.cons (hready.run_emit_var host (by decide) hpath)
      (.cons (hready.run_text host _) (.cons (hready.run_emit_var host (by decide) hdigest)
        (.cons (hready.run_text host _) (.cons (hready.run_emit_var host (by decide) hout)
          .nil)))))))

/-- What stands below the header of an artifact. -/
def belowHeader (plan : Plan) (kind : ArtifactKind) (outPath : String) : Except Failure String :=
  renderTemplate (kind.engine.host Engine.nestingLimit) "main" false ⟨kind.belowHeader, []⟩
    (ofJson (plan.context outPath))

theorem emit_eq_header_append (plan : Plan) (kind : ArtifactKind) (outPath : String) :
    plan.emit kind.fragments kind outPath =
      ((plan.belowHeader kind outPath).map
        (String.join (kind.headerTexts plan.provenance outPath) ++ ·)).mapError
          (.render "main") := by
  have hexec : ∀ body, (kind.engine.host Engine.nestingLimit).exec body =
      runAll (kind.engine.host (Engine.nestingLimit - 1)) body := fun _ => rfl
  rw [emit_eq kind.lookup_main,
    renderTemplate_append hexec (plan.run_header kind outPath _ kind.belowHeader), belowHeader]

/-- Below the header nothing depends on what the header says. -/
theorem belowHeader_eq (plan : Plan) (kind : ArtifactKind) (provenance : Provenance)
    (outPath outPath' : String) :
    belowHeader { plan with provenance := provenance } kind outPath' =
      plan.belowHeader kind outPath := by
  have hcontext :
      Agree ArtifactKind.headerMask
        (ofJson (context { plan with provenance := provenance } outPath'))
        (ofJson (plan.context outPath)) :=
    agree_context (.everything rfl rfl) (.everything rfl rfl) (.everything rfl rfl)
      (.refl (isData_ofJson _)) rfl
  have hrun := runAll_inStep (kind.engine.host_inStep_nothing (Engine.nestingLimit - 1))
    kind.belowHeader kind.respectsBody_belowHeader
  exact renderTemplate_eq (by decide) hrun "main" false hcontext

end Plan

/-- The paths and the digest stand in the header of an artifact and influence nothing else: around
them the text is the same for all, or for all of them the artifact fails in the same way. -/
theorem exists_emit_eq_around_header (hok : draft.check = .ok config) (kind : ArtifactKind) :
    (∃ before after : String, ∀ inPath digest outPath : String, ∃ plan,
      Plan.ofConfig config ⟨inPath, digest⟩ = .ok plan ∧
        plan.emit kind.fragments kind outPath =
          .ok (before ++ "# Source: " ++ inPath ++ " (sha256:" ++ digest ++ ")\n# Output: " ++
            outPath ++ after)) ∨
      ∃ err : TemplateError, ∀ inPath digest outPath : String, ∃ plan,
        Plan.ofConfig config ⟨inPath, digest⟩ = .ok plan ∧
          plan.emit kind.fragments kind outPath = .error err := by
  obtain ⟨plan, hplan⟩ := (Draft.check_eq_ok_iff.mp hok).exists_plan ⟨"", ""⟩
  have hemit : ∀ (provenance : Provenance) (outPath : String),
      Plan.emit { plan with provenance := provenance } kind.fragments kind outPath =
        ((plan.belowHeader kind "").map
          (String.join (kind.headerTexts provenance outPath) ++ ·)).mapError (.render "main") := by
    intro provenance outPath
    rw [Plan.emit_eq_header_append, plan.belowHeader_eq kind provenance ""]
  cases hbelow : plan.belowHeader kind "" with
  | ok text =>
      refine Or.inl ⟨kind.banner ++ version ++ ". DO NOT EDIT.\n", text, ?_⟩
      intro inPath digest outPath
      refine ⟨_, Plan.ofConfig_with_provenance hplan ⟨inPath, digest⟩, ?_⟩
      rw [hemit, hbelow]
      change Except.ok (String.join _ ++ text) = _
      rw [ArtifactKind.join_headerTexts]
  | error failure =>
      refine Or.inr ⟨.render "main" failure, ?_⟩
      intro inPath digest outPath
      refine ⟨_, Plan.ofConfig_with_provenance hplan ⟨inPath, digest⟩, ?_⟩
      rw [hemit, hbelow]
      rfl

theorem exists_emit_eq_around_header_packed :
    ∃ before after : String, ∀ inPath digest outPath : String, ∃ plan,
      Plan.ofConfig Config.packed ⟨inPath, digest⟩ = .ok plan ∧
        plan.emit ArtifactKind.dockerfile.fragments .dockerfile outPath =
          .ok (before ++ "# Source: " ++ inPath ++ " (sha256:" ++ digest ++ ")\n# Output: " ++
            outPath ++ after) := by
  refine (exists_emit_eq_around_header Config.check_packed .dockerfile).resolve_right ?_
  rintro ⟨err, hfails⟩
  obtain ⟨plan, hplan, herr⟩ := hfails "" "" ""
  have htext := (Draft.check_eq_ok_iff.mp Config.check_packed).emit_eq_text hplan
    Config.isTemplated_packed .dockerfile ""
  rw [htext] at herr
  contradiction

end Provision
