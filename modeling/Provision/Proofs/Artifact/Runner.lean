import Provision.Proofs.Artifact.Order
import Provision.Proofs.Graph.Least

/-!
# Runners in the order of a plan

The tool that runs an installer is a prerequisite of the tool that it installs, but the order of a
plan comes from the declared dependencies alone.  So a runner may stand behind the tools that it
installs, and prerequisites may form a cycle.  The order is right exactly when the graph of the
prerequisites has the same one.
-/

namespace Provision

variable {draft : Draft} {config : Config} {provenance : Provenance} {plan : Plan}

namespace ToolView

theorem mem_prerequisites_iff {view : ToolView} {name : String} :
    name ∈ view.prerequisites ↔ name ∈ view.tool.dependencyNames ∨ view.runner = some name := by
  simp only [prerequisites]
  split
  · next runner hrunner =>
      split
      · next hmem =>
          simp only [hrunner, Option.some.injEq]
          exact ⟨Or.inl, fun h => h.elim id (fun heq => heq ▸ hmem)⟩
      · simp [hrunner, eq_comm]
  · next hnone => simp [hnone]

theorem contains_of_runner {tool : Tool} {runner : String}
    (hrunner : (ofTool config tool).runner = some runner) : runner ∈ config.tools.keys := by
  simp only [ofTool, Option.filter_eq_some_iff, Bool.and_eq_true] at hrunner
  exact Dict.contains_iff.mp hrunner.2.2

end ToolView

namespace Config

/-- What the tools need installed first: their dependencies and their runners. -/
def prerequisiteGraph (config : Config) : Graph :=
  ⟨config.tools.mapValues (fun _ tool => (ToolView.ofTool config tool).prerequisites)⟩

theorem prerequisite_iff {name other : String} {tool : Tool}
    (htool : config.tools.get? name = some tool) :
    config.prerequisiteGraph.DependsOn name other ↔
      other ∈ (ToolView.ofTool config tool).prerequisites := by
  simp [Graph.DependsOn, Graph.dependencies, prerequisiteGraph, htool]

theorem prerequisiteGraph_strengthens (config : Config) :
    Graph.Strengthens config.prerequisiteGraph config.graph where
  nodes := by simp [prerequisiteGraph, graph, Graph.nodes]
  dependsOn := by
    intro name other hother
    have hnode := Graph.mem_nodes_of_dependsOn hother
    rw [config.nodes_graph] at hnode
    obtain ⟨tool, htool⟩ := Dict.exists_get?_of_mem_keys hnode
    rw [prerequisite_iff htool, ToolView.mem_prerequisites_iff]
    exact Or.inl ((dependsOn_iff htool).mp hother)

theorem closed_prerequisiteGraph (h : Accepted draft config) :
    config.prerequisiteGraph.Closed := by
  intro name other hother
  have hnode := Graph.mem_nodes_of_dependsOn hother
  have hnodes := config.prerequisiteGraph_strengthens.nodes
  rw [hnodes, config.nodes_graph] at hnode ⊢
  obtain ⟨tool, htool⟩ := Dict.exists_get?_of_mem_keys hnode
  rw [prerequisite_iff htool, ToolView.mem_prerequisites_iff] at hother
  rcases hother with hdependency | hrunner
  · rw [← config.nodes_graph]
    exact h.closed_graph name other ((dependsOn_iff htool).mpr hdependency)
  · exact ToolView.contains_of_runner hrunner

end Config

namespace Plan

/-- The view of every declared runner stands before the views of the tools that it runs for. -/
def RunnersFirst (plan : Plan) : Prop :=
  ∀ before view after, plan.tools = before ++ view :: after →
    ∀ runner, view.runner = some runner → runner ∈ before.map ToolView.name

theorem exists_tools_split {before after : List String} {name : String}
    (hsplit : plan.order = before ++ name :: after) :
    ∃ views view others, plan.tools = views ++ view :: others ∧
      views.map ToolView.name = before ∧ view.name = name := by
  obtain ⟨views, rest, htools, hbefore, hrest⟩ := List.map_eq_append_iff.mp hsplit
  obtain ⟨view, others, rfl, hview, -⟩ := List.map_eq_cons_iff.mp hrest
  exact ⟨views, view, others, htools, hbefore, hview⟩

theorem runnersFirst_iff_respectedBy (hnames : config.KeyedByName)
    (hplan : ofConfig config provenance = .ok plan) :
    plan.RunnersFirst ↔ config.prerequisiteGraph.RespectedBy plan.order := by
  constructor
  · intro hfirst before name after hsplit other hother
    obtain ⟨views, view, others, htools, rfl, rfl⟩ := exists_tools_split hsplit
    have hview : view ∈ plan.tools := by simp [htools]
    obtain ⟨tool, htool, hsame⟩ := view_of_mem_tools hnames hplan hview
    rw [Config.prerequisite_iff htool, ← hsame, ToolView.mem_prerequisites_iff] at hother
    rcases hother with hdependency | hrunner
    · exact (ordered_of_ofConfig hnames hplan).dependencies views view others htools other
        hdependency
    · exact hfirst views view others htools other hrunner
  · intro hrespected before view after htools runner hrunner
    have hview : view ∈ plan.tools := by simp [htools]
    obtain ⟨tool, htool, hsame⟩ := view_of_mem_tools hnames hplan hview
    apply hrespected _ _ _ (order_of_tools_eq htools)
    rw [Config.prerequisite_iff htool, ← hsame]
    exact ToolView.mem_prerequisites_iff.mpr (Or.inr hrunner)

end Plan

/-- In the plan of an accepted draft, every runner is a tool of the plan and a prerequisite of what
it installs.  The runners stand before the tools that they install exactly when the dependencies
alone lead to the order of the prerequisites, and prerequisites are free of cycles exactly when they
have an order. -/
theorem runnersFirst_iff_emissionOrder_eq (hok : draft.check = .ok config)
    (hplan : Plan.ofConfig config provenance = .ok plan) :
    (∀ view ∈ plan.tools, ∀ runner, view.runner = some runner →
        runner ∈ plan.order ∧ runner ∈ view.prerequisites) ∧
      (plan.RunnersFirst ↔
        config.prerequisiteGraph.emissionOrder = config.graph.emissionOrder) ∧
      (config.prerequisiteGraph.Acyclic ↔
        ∃ order, config.prerequisiteGraph.emissionOrder = .ok order) := by
  have h := Draft.check_eq_ok_iff.mp hok
  have horder := Plan.emissionOrder_of_ofConfig h.keyedByName hplan
  refine ⟨?_, ?_, ?_⟩
  · intro view hview runner hrunner
    obtain ⟨tool, -, rfl⟩ := Plan.view_of_mem_tools h.keyedByName hplan hview
    have hnode := ToolView.contains_of_runner hrunner
    rw [← config.nodes_graph] at hnode
    exact ⟨(Graph.emissionOrdered_of_emissionOrder horder).perm.mem_iff.mpr hnode,
      ToolView.mem_prerequisites_iff.mpr (Or.inr hrunner)⟩
  · rw [Plan.runnersFirst_iff_respectedBy h.keyedByName hplan, horder]
    exact Graph.respectedBy_iff_emissionOrder_eq config.prerequisiteGraph_strengthens horder
  · constructor
    · intro hacyclic
      exact Graph.exists_emissionOrder (Graph.checkAcyclic_eq_ok_iff_acyclic.mpr hacyclic)
        (Config.closed_prerequisiteGraph h)
    · rintro ⟨order, hprerequisites⟩
      exact (Graph.emissionOrdered_of_emissionOrder hprerequisites).acyclic

/-- A Go tool of a given name beside the tool that runs its installer. -/
def Draft.withGoTool (name : String) : Draft :=
  { tools := .ofList
      [("go", { http := some { url := some "https://example.org/go" } }),
        (name, { go := some { modulePath := some "example.org/tool", version := some "v1" } })] }

theorem runnersFirst_withGoTool_zap :
    ∃ config plan, (Draft.withGoTool "zap").check = .ok config ∧
      Plan.ofConfig config ⟨"provision.yaml", "00"⟩ = .ok plan ∧ plan.RunnersFirst := by
  have hok : (Draft.withGoTool "zap").check.isOk = true := by decide +kernel
  obtain ⟨config, hcheck⟩ := Check.exists_eq_ok_of_isOk hok
  have hsame :
      (Draft.withGoTool "zap").check.map (fun config => config.prerequisiteGraph.emissionOrder) =
        (Draft.withGoTool "zap").check.map (fun config => config.graph.emissionOrder) := by
    decide +kernel
  rw [hcheck] at hsame
  have horder : config.prerequisiteGraph.emissionOrder = config.graph.emissionOrder := by
    simpa [Except.map] using hsame
  obtain ⟨plan, hplan⟩ := (Draft.check_eq_ok_iff.mp hcheck).exists_plan ⟨"provision.yaml", "00"⟩
  exact ⟨config, plan, hcheck, hplan,
    (runnersFirst_iff_emissionOrder_eq hcheck hplan).2.1.mpr horder⟩

/-- A tool whose name sorts before that of its runner is emitted first, although its runner is a
prerequisite. -/
theorem not_runnersFirst_withGoTool_air :
    ∃ config plan, (Draft.withGoTool "air").check = .ok config ∧
      Plan.ofConfig config ⟨"provision.yaml", "00"⟩ = .ok plan ∧
        plan.tools.map (fun view => (view.name, view.runner)) =
          [("air", some "go"), ("go", none)] ∧
        ¬ plan.RunnersFirst := by
  have hok : (Draft.withGoTool "air").check.isOk = true := by decide +kernel
  obtain ⟨config, hcheck⟩ := Check.exists_eq_ok_of_isOk hok
  have hviews :
      (Draft.withGoTool "air").check.toOption.bind (fun config =>
        (Plan.ofConfig config ⟨"provision.yaml", "00"⟩).toOption.map (fun plan =>
          plan.tools.map (fun view => (view.name, view.runner)))) =
        some [("air", some "go"), ("go", none)] := by
    decide +kernel
  obtain ⟨plan, hplan⟩ := (Draft.check_eq_ok_iff.mp hcheck).exists_plan ⟨"provision.yaml", "00"⟩
  have htools : plan.tools.map (fun view => (view.name, view.runner)) =
      [("air", some "go"), ("go", none)] := by
    simpa [hcheck, hplan, Except.toOption] using hviews
  refine ⟨config, plan, hcheck, hplan, htools, ?_⟩
  intro hfirst
  obtain ⟨view, others, hsplit, hview, -⟩ := List.map_eq_cons_iff.mp htools
  have hrunner : view.runner = some "go" := congrArg Prod.snd hview
  have hbefore := hfirst [] view others hsplit "go" hrunner
  simp at hbefore

/-- A runner that depends on a tool that it installs passes the check, and the prerequisites form a
cycle. -/
def Draft.goThroughItself : Draft :=
  { tools := .ofList
      [("go", { http := some { url := some "https://example.org/go" }, dependsOn := ["air"] }),
        ("air", { go := some { modulePath := some "example.org/tool", version := some "v1" } })] }

theorem not_acyclic_goThroughItself :
    ∃ config, Draft.goThroughItself.check = .ok config ∧ ¬ config.prerequisiteGraph.Acyclic := by
  have hok : Draft.goThroughItself.check.isOk = true := by decide +kernel
  obtain ⟨config, hcheck⟩ := Check.exists_eq_ok_of_isOk hok
  have hloop :
      Draft.goThroughItself.check.toOption.map (fun config =>
        config.prerequisiteGraph.checkAcyclic.isOk) = some false := by
    decide +kernel
  refine ⟨config, hcheck, ?_⟩
  intro hacyclic
  rw [hcheck, Except.toOption, Option.map_some,
    Graph.checkAcyclic_eq_ok_iff_acyclic.mpr hacyclic] at hloop
  simp [Except.isOk, Except.toBool] at hloop

end Provision
