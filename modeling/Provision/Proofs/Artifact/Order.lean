import Provision.Artifact.Plan
import Provision.Proofs.Graph.Blocked
import Provision.Proofs.Manifest.Check

/-!
# The order of the tools in a plan

Every accepted draft has a plan: its dependencies are closed and free of cycles, which is all that
the emission order asks for.  The plan lists every tool once, each behind its dependencies.
-/

namespace Provision

variable {draft : Draft} {config : Config} {provenance : Provenance} {plan : Plan}

/-- Every tool of a configuration is kept under its own name. -/
def Config.KeyedByName (config : Config) : Prop :=
  ∀ name tool, config.tools.get? name = some tool → tool.name.text = name

theorem Accepted.keyedByName (h : Accepted draft config) : config.KeyedByName :=
  fun _ _ htool => h.text_name htool

namespace Config

theorem nodes_graph (config : Config) : config.graph.nodes = config.tools.keys := by
  simp [graph, Graph.nodes]

theorem dependsOn_iff {name other : String} {tool : Tool}
    (htool : config.tools.get? name = some tool) :
    config.graph.DependsOn name other ↔ other ∈ tool.dependencyNames := by
  simp [Graph.DependsOn, Graph.dependencies, graph, htool]

theorem KeyedByName.map_name_filterMap_tool? (h : config.KeyedByName) {names : List String}
    (hnames : ∀ name ∈ names, name ∈ config.tools.keys) :
    ((names.filterMap config.tool?).map (ToolView.ofTool config)).map ToolView.name = names := by
  induction names with
  | nil => rfl
  | cons name rest ih =>
      obtain ⟨tool, htool⟩ := Dict.exists_get?_of_mem_keys (hnames name List.mem_cons_self)
      have hrest := ih (fun other hother => hnames other (List.mem_cons_of_mem _ hother))
      simp [tool?, htool, ToolView.name, ToolView.ofTool, h name tool htool] at hrest ⊢
      exact hrest

end Config

namespace Plan

theorem exists_of_ofConfig (hplan : ofConfig config provenance = .ok plan) :
    ∃ names, config.graph.emissionOrder = .ok names ∧
      plan = ⟨config, provenance, (names.filterMap config.tool?).map (ToolView.ofTool config)⟩ := by
  simp only [ofConfig] at hplan
  split at hplan
  · contradiction
  · next names hnames =>
      cases hplan
      exact ⟨names, hnames, rfl⟩

theorem emissionOrder_of_ofConfig (hnames : config.KeyedByName)
    (hplan : ofConfig config provenance = .ok plan) :
    config.graph.emissionOrder = .ok plan.order := by
  obtain ⟨names, hok, rfl⟩ := exists_of_ofConfig hplan
  rw [hok, order, hnames.map_name_filterMap_tool?]
  intro name hname
  rw [← config.nodes_graph]
  exact (Graph.emissionOrdered_of_emissionOrder hok).perm.mem_iff.mp hname

/-- Every view is that of the declared tool of its name. -/
theorem view_of_mem_tools (hnames : config.KeyedByName)
    (hplan : ofConfig config provenance = .ok plan) {view : ToolView} (hview : view ∈ plan.tools) :
    ∃ tool, config.tools.get? view.name = some tool ∧ view = ToolView.ofTool config tool := by
  obtain ⟨names, -, rfl⟩ := exists_of_ofConfig hplan
  obtain ⟨tool, htool, rfl⟩ := List.mem_map.mp hview
  obtain ⟨name, -, hname⟩ := List.mem_filterMap.mp htool
  obtain rfl := hnames name tool hname
  exact ⟨tool, hname, rfl⟩

theorem tools_perm (hplan : ofConfig config provenance = .ok plan) :
    plan.tools.Perm (config.tools.values.map (ToolView.ofTool config)) := by
  obtain ⟨names, hok, rfl⟩ := exists_of_ofConfig hplan
  have hperm := (Graph.emissionOrdered_of_emissionOrder hok).perm
  rw [config.nodes_graph] at hperm
  have htools := hperm.filterMap config.tool?
  rw [show config.tool? = config.tools.get? from rfl, Dict.filterMap_get?_keys] at htools
  exact htools.map _

theorem order_of_tools_eq {before after : List ToolView} {view : ToolView}
    (hsplit : plan.tools = before ++ view :: after) :
    plan.order = before.map ToolView.name ++ view.name :: after.map ToolView.name := by
  simp [order, hsplit]

/-- The views of a plan are those of all tools, one for each, and each stands behind the views of
the tools that it depends on. -/
structure Ordered (plan : Plan) (config : Config) : Prop where
  perm : plan.tools.Perm (config.tools.values.map (ToolView.ofTool config))
  nodup : plan.order.Nodup
  dependencies : ∀ before view after, plan.tools = before ++ view :: after →
    ∀ name ∈ view.tool.dependencyNames, name ∈ before.map ToolView.name

theorem ordered_of_ofConfig (hnames : config.KeyedByName)
    (hplan : ofConfig config provenance = .ok plan) : plan.Ordered config := by
  have hordered :=
    Graph.emissionOrdered_of_emissionOrder (emissionOrder_of_ofConfig hnames hplan)
  refine ⟨tools_perm hplan, hordered.perm.nodup_iff.mpr config.graph.edges.keys_nodup, ?_⟩
  intro before view after hsplit name hname
  have hview : view ∈ plan.tools := by simp [hsplit]
  obtain ⟨tool, htool, hsame⟩ := view_of_mem_tools hnames hplan hview
  apply hordered.mem_before (order_of_tools_eq hsplit)
  rw [config.dependsOn_iff htool]
  rw [hsame] at hname
  exact hname

end Plan

theorem Accepted.exists_plan (h : Accepted draft config) (provenance : Provenance) :
    ∃ plan, Plan.ofConfig config provenance = .ok plan := by
  obtain ⟨names, hnames⟩ := Graph.exists_emissionOrder h.acyclic h.closed_graph
  exact ⟨⟨config, provenance, (names.filterMap config.tool?).map (ToolView.ofTool config)⟩,
    by rw [Plan.ofConfig, hnames]⟩

/-- Every accepted draft has a plan, in which all of its tools stand once and in order. -/
theorem exists_ordered_plan_of_check (hok : draft.check = .ok config) (provenance : Provenance) :
    ∃ plan, Plan.ofConfig config provenance = .ok plan ∧ plan.Ordered config := by
  have h := Draft.check_eq_ok_iff.mp hok
  obtain ⟨plan, hplan⟩ := h.exists_plan provenance
  exact ⟨plan, hplan, Plan.ordered_of_ofConfig h.keyedByName hplan⟩

/-- A tool and a library that it depends on. -/
def Draft.linked : Draft :=
  { tools := .ofList
      [("cli", { http := some { url := some "https://example.org/cli" }, dependsOn := ["lib"] }),
        ("lib", { provided := some {} })] }

theorem exists_ordered_plan_linked :
    ∃ config plan, Draft.linked.check = .ok config ∧
      Plan.ofConfig config ⟨"provision.yaml", "00"⟩ = .ok plan ∧ plan.Ordered config := by
  have hok : Draft.linked.check.isOk = true := by decide +kernel
  obtain ⟨config, hcheck⟩ := Check.exists_eq_ok_of_isOk hok
  obtain ⟨plan, hplan, hordered⟩ :=
    exists_ordered_plan_of_check hcheck ⟨"provision.yaml", "00"⟩
  exact ⟨config, plan, hcheck, hplan, hordered⟩

end Provision
