import Provision.Proofs.Artifact.Definitions

/-!
# The stages of a Dockerfile

A Dockerfile has a stage for each installed tool, one for each set of tools and a final one, and
nothing else in it starts a stage.  The stages of tools and sets are checked to have names of their
own, but the final stage is named in the settings, so it may repeat one of them.
-/

namespace Provision

namespace Dockerfile

/-! ## Blocks of lines -/

/-- A line that neither starts a stage nor gives a build argument its default. -/
def Line.IsInner (line : Line) : Prop :=
  line.stage? = none ∧ line.defaulted? = none

section

variable {config : Config} {view : ToolView} {line : Line}

theorem isInner_of_mem_copyLines {names : List String} (h : line ∈ copyLines config names) :
    line.IsInner := by
  obtain ⟨name, -, rfl⟩ := List.mem_map.mp h
  exact ⟨rfl, rfl⟩

theorem isInner_of_mem_extraLines {extra : Option String} (h : line ∈ extraLines extra) :
    line.IsInner := by
  unfold extraLines at h
  split at h
  · exact absurd h List.not_mem_nil
  · split at h
    · exact absurd h List.not_mem_nil
    · obtain rfl := List.mem_singleton.mp h
      exact ⟨rfl, rfl⟩

theorem isInner_of_mem_tail_stageLines (h : line ∈ (stageLines config view).tail) :
    line.IsInner := by
  simp only [stageLines, List.cons_append, List.tail_cons, List.mem_append, List.mem_cons,
    List.not_mem_nil, or_false] at h
  rcases h with (((hscope | hcopy) | hpipx) | rfl | hscript) | rfl
  · obtain ⟨name, -, rfl⟩ := List.mem_map.mp hscope
    exact ⟨rfl, rfl⟩
  · exact isInner_of_mem_copyLines hcopy
  · split at hpipx
    · obtain rfl := List.mem_singleton.mp hpipx
      exact ⟨rfl, rfl⟩
    · exact absurd hpipx List.not_mem_nil
  · exact ⟨rfl, rfl⟩
  · obtain ⟨command, -, rfl⟩ := List.mem_map.mp hscript
    exact ⟨rfl, rfl⟩
  · exact ⟨rfl, rfl⟩

theorem isInner_of_mem_tail_setLines {name : String} {set : ToolSet}
    (h : line ∈ (setLines config name set).tail.tail) : line.IsInner := by
  simp only [setLines, List.cons_append, List.nil_append, List.tail_cons, List.mem_cons] at h
  rcases h with rfl | hcopy
  · exact ⟨rfl, rfl⟩
  · exact isInner_of_mem_copyLines hcopy

theorem isInner_of_mem_tail_finalLines {plan : Plan} (h : line ∈ (finalLines plan).tail.tail) :
    line.IsInner := by
  simp only [finalLines, List.cons_append, List.nil_append, List.tail_cons, List.mem_append,
    List.mem_cons] at h
  rcases h with rfl | (hpre | hcopy) | rfl | hpost
  · exact ⟨rfl, rfl⟩
  · exact isInner_of_mem_extraLines hpre
  · obtain ⟨view, -, rfl⟩ := List.mem_map.mp hcopy
    exact ⟨rfl, rfl⟩
  · exact ⟨rfl, rfl⟩
  · exact isInner_of_mem_extraLines hpost

end

theorem filterMap_block {block : List Line} {image name : String}
    (hstart : block.head? = some (.stage image name)) (h : ∀ line ∈ block.tail, line.IsInner) :
    block.filterMap Line.stage? = [name] ∧ block.filterMap Line.defaulted? = [] := by
  obtain ⟨inner, rfl⟩ := List.head?_eq_some_iff.mp hstart
  have hstages : inner.filterMap Line.stage? = [] :=
    List.filterMap_eq_nil_iff.mpr (fun line hline => (h line hline).1)
  have hdefaults : inner.filterMap Line.defaulted? = [] :=
    List.filterMap_eq_nil_iff.mpr (fun line hline => (h line hline).2)
  rw [List.filterMap_cons, List.filterMap_cons, hstages, hdefaults]
  exact ⟨rfl, rfl⟩

theorem filterMap_stageLines (config : Config) (view : ToolView) :
    (stageLines config view).filterMap Line.stage? = [stageName config view.name] ∧
      (stageLines config view).filterMap Line.defaulted? = [] :=
  filterMap_block rfl (fun _ hline => isInner_of_mem_tail_stageLines hline)

theorem filterMap_setLines (config : Config) (name : String) (set : ToolSet) :
    (setLines config name set).filterMap Line.stage? = [setStageName config name] ∧
      (setLines config name set).filterMap Line.defaulted? = [] := by
  have hstart : (setLines config name set).tail.head? = some (.stage _ _) := rfl
  have hblock := filterMap_block hstart (fun _ hline => isInner_of_mem_tail_setLines hline)
  exact hblock

theorem filterMap_finalLines (plan : Plan) :
    (finalLines plan).filterMap Line.stage? = [plan.config.dockerfile.finalStage] ∧
      (finalLines plan).filterMap Line.defaulted? = [] := by
  have hstart : (finalLines plan).tail.head? = some (.stage _ _) := rfl
  have hblock := filterMap_block hstart (fun _ hline => isInner_of_mem_tail_finalLines hline)
  exact hblock

/-- Behind the lines before the first stage there are the stages of the installed tools, those of
the sets of tools and the final one, and no build argument is given a default. -/
theorem filterMap_blocks (plan : Plan) :
    (partLines plan ++ finalLines plan).filterMap Line.stage? =
        (installed plan).map (fun view => stageName plan.config view.name) ++
          plan.config.toolSets.keys.map (setStageName plan.config) ++
            [plan.config.dockerfile.finalStage] ∧
      (partLines plan ++ finalLines plan).filterMap Line.defaulted? = [] := by
  have htool : ∀ view, (Line.blank :: stageLines plan.config view).filterMap Line.stage? =
        [stageName plan.config view.name] ∧
      (Line.blank :: stageLines plan.config view).filterMap Line.defaulted? = [] := by
    intro view
    rw [List.filterMap_cons_none rfl, List.filterMap_cons_none rfl]
    exact filterMap_stageLines plan.config view
  have hset := fun entry : String × ToolSet => filterMap_setLines plan.config entry.1 entry.2
  obtain ⟨hstage, hdefault⟩ := filterMap_finalLines plan
  rw [partLines]
  constructor
  · simp only [List.filterMap_append, List.filterMap_flatMap, htool, hset, hstage, Dict.keys,
      List.map_map, ← List.map_eq_flatMap]
    rfl
  · simp [List.filterMap_append, List.filterMap_flatMap, htool, hset, hdefault]

theorem filterMap_stage?_lines (plan : Plan) (outPath : String) :
    (lines plan outPath).filterMap Line.stage? =
      (installed plan).map (fun view => stageName plan.config view.name) ++
        plan.config.toolSets.keys.map (setStageName plan.config) ++
          [plan.config.dockerfile.finalStage] := by
  have hprologue : (prologue plan outPath).filterMap Line.stage? = [] :=
    List.filterMap_eq_nil_iff.mpr (fun _ hline => stage?_of_mem_prologue hline)
  rw [lines, List.append_assoc, List.filterMap_append, hprologue, List.nil_append,
    (filterMap_blocks plan).1]

end Dockerfile

/-! ## Names of stages -/

/-- The stages that a Dockerfile starts, line by line. -/
def Plan.stageNames (plan : Plan) (outPath : String) : List String :=
  (Dockerfile.lines plan outPath).filterMap Dockerfile.Line.stage?

/-- The stages of installed tools and of sets of tools. -/
def Config.partStages (config : Config) : List String :=
  (config.tools.keys.filter (Dockerfile.isInstalled config)).map (Dockerfile.stageName config) ++
    config.toolSets.keys.map (Dockerfile.setStageName config)

variable {draft : Draft} {config : Config} {provenance : Provenance} {plan : Plan}

theorem Plan.stageNames_perm (h : Accepted draft config)
    (hplan : Plan.ofConfig config provenance = .ok plan) (outPath : String) :
    (plan.stageNames outPath).Perm (config.partStages ++ [config.dockerfile.finalStage]) := by
  have horder := Graph.emissionOrdered_of_emissionOrder
    (Plan.emissionOrder_of_ofConfig h.keyedByName hplan)
  have hkeys : plan.order.Perm config.tools.keys := by
    rw [← config.nodes_graph]
    exact horder.perm
  have hinstalled : (Dockerfile.installed plan).map ToolView.name =
      plan.order.filter (Dockerfile.isInstalled config) := by
    rw [Plan.order, List.filter_map, Dockerfile.installed]
    congr 1
    apply List.filter_congr
    intro view hview
    exact (Dockerfile.isInstalled_name h.keyedByName hplan hview).symm
  obtain rfl := Plan.config_of_ofConfig hplan
  have hnames : (Dockerfile.installed plan).map (fun view =>
      Dockerfile.stageName plan.config view.name) =
        (plan.order.filter (Dockerfile.isInstalled plan.config)).map
          (Dockerfile.stageName plan.config) := by
    rw [← hinstalled, List.map_map]
    rfl
  rw [Plan.stageNames, Dockerfile.filterMap_stage?_lines, hnames, Config.partStages]
  exact (((hkeys.filter _).map _).append_right _).append_right _

theorem Accepted.partStages_nodup (h : Accepted draft config) : config.partStages.Nodup := by
  -- The check compares stages without the prefix of the settings, which keeps them apart.
  have hprefix : Function.Injective (fun stage => config.dockerfile.stagePrefix ++ stage) := by
    intro stage other hsame
    have hlist := congrArg String.toList hsame
    rw [String.toList_append, String.toList_append, List.append_cancel_left_eq] at hlist
    exact String.toList_inj.mp hlist
  have hchecked : (config.tools.keys.map Name.stage ++
      config.toolSets.keys.map (fun name => "set-" ++ Name.stage name)).Nodup := by
    have hnodup := h.stages_nodup
    simp only [Check.stages, List.map_append, List.map_map] at hnodup
    exact hnodup
  have hparts : config.partStages =
      ((config.tools.keys.filter (Dockerfile.isInstalled config)).map Name.stage ++
        config.toolSets.keys.map (fun name => "set-" ++ Name.stage name)).map
          (fun stage => config.dockerfile.stagePrefix ++ stage) := by
    have hset : Dockerfile.setStageName config =
        fun name => config.dockerfile.stagePrefix ++ ("set-" ++ Name.stage name) :=
      funext (fun _ => String.append_assoc ..)
    rw [Config.partStages, hset, List.map_append, List.map_map, List.map_map]
    rfl
  rw [hparts]
  -- It compares the names of all tools, also of those that have no stage.
  have hsublist : (config.tools.keys.filter (Dockerfile.isInstalled config)).Sublist
      config.tools.keys := List.filter_sublist
  exact (hchecked.sublist ((hsublist.map _).append_right _)).map hprefix

/-- A Dockerfile starts the stages of the installed tools, those of the sets of tools and the final
one.  The first two kinds have names of their own, so that a name is repeated exactly when the
settings give the final stage the name of another. -/
theorem stageNames_nodup_iff (hok : draft.check = .ok config) (provenance : Provenance) :
    ∃ plan, Plan.ofConfig config provenance = .ok plan ∧ config.partStages.Nodup ∧
      ∀ outPath,
        (∀ text, plan.emit ArtifactKind.dockerfile.fragments .dockerfile outPath = .ok text →
          text = Dockerfile.text plan outPath) ∧
        (plan.stageNames outPath).Perm (config.partStages ++ [config.dockerfile.finalStage]) ∧
        ((plan.stageNames outPath).Nodup ↔ config.dockerfile.finalStage ∉ config.partStages) := by
  have h := Draft.check_eq_ok_iff.mp hok
  obtain ⟨plan, hplan⟩ := h.exists_plan provenance
  have hparts := h.partStages_nodup
  refine ⟨plan, hplan, hparts, ?_⟩
  intro outPath
  have hperm := Plan.stageNames_perm h hplan outPath
  refine ⟨fun text hemit => h.eq_text_of_emit hplan hemit, hperm, ?_⟩
  rw [hperm.nodup_iff, List.nodup_append]
  constructor
  · rintro ⟨-, -, hdisjoint⟩ hmem
    exact hdisjoint _ hmem _ (List.mem_singleton_self _) rfl
  · intro hfinal
    refine ⟨hparts, List.nodup_singleton _, ?_⟩
    rintro stage hstage _ hsingle rfl
    obtain rfl := List.mem_singleton.mp hsingle
    exact hfinal hstage

/-- A tool and a set that it belongs to, and a final stage of a given name. -/
def Draft.staged (finalStage : String) : Draft :=
  { tools := .ofList [("jq", { http := some { url := some "https://example.org/jq" } })]
    toolSets := .ofList [("query", ["jq"])]
    dockerfile := { finalStage } }

/-- What the check makes of `Draft.staged`. -/
def Config.staged (finalStage : String) : Config :=
  { vars := .empty
    localBinVar := "LOCALBIN"
    tools := .ofList
      [("jq",
        { name := ⟨"jq", by decide⟩
          installer := .http { url := "https://example.org/jq", archive := none }
          vars := .empty
          dependsOn := [] })]
    toolSets := .ofList [("query", { name := ⟨"query", by decide⟩, tools := [⟨"jq", by decide⟩] })]
    commands := {}
    dockerfile := { finalStage } }

theorem stageNames_staged_app :
    ∃ plan, (Draft.staged "app").check = .ok (Config.staged "app") ∧
      Plan.ofConfig (Config.staged "app") ⟨"provision.yaml", "00"⟩ = .ok plan ∧
      (plan.stageNames "Dockerfile").Nodup := by
  have hok : (Draft.staged "app").check.toOption = some (Config.staged "app") := by decide +kernel
  have hcheck := Engine.exists_eq_ok_of_toOption hok
  obtain ⟨plan, hplan, -, hstages⟩ := stageNames_nodup_iff hcheck ⟨"provision.yaml", "00"⟩
  exact ⟨plan, hcheck, hplan, (hstages "Dockerfile").2.2.mpr (by decide)⟩

/-- A final stage with the name of a tool's stage passes the check, and the Dockerfile is written
with two stages of that name. -/
theorem not_nodup_stageNames_staged_jq :
    ∃ plan, (Draft.staged "make-env-jq").check = .ok (Config.staged "make-env-jq") ∧
      Plan.ofConfig (Config.staged "make-env-jq") ⟨"provision.yaml", "00"⟩ = .ok plan ∧
      plan.emit ArtifactKind.dockerfile.fragments .dockerfile "Dockerfile" =
        .ok (Dockerfile.text plan "Dockerfile") ∧
      (plan.stageNames "Dockerfile").Perm ["make-env-jq", "make-env-set-query", "make-env-jq"] ∧
      ¬ (plan.stageNames "Dockerfile").Nodup := by
  have hok : (Draft.staged "make-env-jq").check.toOption = some (Config.staged "make-env-jq") := by
    decide +kernel
  have hcheck := Engine.exists_eq_ok_of_toOption hok
  have h := Draft.check_eq_ok_iff.mp hcheck
  have hplain : ∀ tool ∈ (Config.staged "make-env-jq").tools.values,
      ∀ source ∈ tool.installer.templates, '\x7b' ∉ source.toList := by decide +kernel
  have hstages : (Config.staged "make-env-jq").partStages ++ ["make-env-jq"] =
      ["make-env-jq", "make-env-set-query", "make-env-jq"] := by decide +kernel
  obtain ⟨plan, hplan⟩ := h.exists_plan ⟨"provision.yaml", "00"⟩
  have hemit := h.emit_eq_text hplan
    (fun tool htool source hsource => Tool.isTemplated_of_notMem (hplain tool htool source hsource))
    .dockerfile "Dockerfile"
  have hperm := Plan.stageNames_perm h hplan "Dockerfile"
  have hlisted : (plan.stageNames "Dockerfile").Perm
      ["make-env-jq", "make-env-set-query", "make-env-jq"] := by
    rw [← hstages]
    exact hperm
  refine ⟨plan, hcheck, hplan, hemit, hlisted, ?_⟩
  rw [hlisted.nodup_iff]
  decide

end Provision
