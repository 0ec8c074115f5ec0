import Mathlib.Data.Set.List
import Provision.Proofs.Manifest.Check

/-!
# Which drafts are accepted

A draft is well formed when its names, its installers, its references and the identifiers derived
from it are in order; nothing here speaks of checks, of their sequence or of the configuration that
is made.  The checks accept exactly the well-formed drafts.
-/

namespace Provision

open Name

namespace Draft

structure Fetch.Complete (written : Draft.Fetch) : Prop where
  url : IsWritten written.url
  archive : written.zip = none ∨ written.tar = none

structure Go.Complete (written : Draft.Go) : Prop where
  modulePath : IsWritten written.modulePath
  version : IsWritten written.version

namespace Tool

/-- A tool has exactly one installer, which says all that it has to. -/
structure Complete (tool : Draft.Tool) : Prop where
  single : tool.installerSections.length = 1
  http : ∀ written, tool.http = some written → written.Complete
  s3 : ∀ written, tool.s3 = some written → written.Complete
  go : ∀ written, tool.go = some written → written.Complete
  maven : ∀ written, tool.maven = some written → IsWritten written.artifact

def fetched (tool : Draft.Tool) : List Draft.Fetch :=
  tool.http.toList ++ tool.s3.toList

/-- The variables that the artifacts define for a tool of a given name. -/
def definedNames (name : String) (tool : Draft.Tool) : List String :=
  [identifier name, stampIdentifier name] ++
    (if tool.fetched = [] then [] else [urlIdentifier name]) ++
    (if ∀ written ∈ tool.fetched, written.zip = none ∧ written.tar = none then []
      else [archiveIdentifier name]) ++
    tool.vars.keys.map (scopedIdentifier name)

end Tool

/-- The names of tools, variables and tool sets. -/
def names (draft : Draft) : List String :=
  draft.vars.keys ++ draft.tools.entries.flatMap (fun entry => entry.1 :: entry.2.vars.keys) ++
    draft.toolSets.keys

def graph (draft : Draft) : Graph :=
  ⟨draft.tools.mapValues (fun _ tool => tool.dependsOn)⟩

def localBin (draft : Draft) : String := draft.localBinVar.getD "LOCALBIN"

/-- The variables that the artifacts define. -/
def definedNames (draft : Draft) : List String :=
  draft.localBin :: draft.vars.keys.map identifier ++
    draft.tools.entries.flatMap (fun entry => entry.2.definedNames entry.1)

/-- The stages of tools and tool sets, without the prefix of the settings. -/
def stages (draft : Draft) : List String :=
  draft.tools.keys.map stage ++ draft.toolSets.keys.map (fun name => "set-" ++ stage name)

structure WellFormed (draft : Draft) : Prop where
  isName_names : ∀ name ∈ draft.names, isName true name = true
  isIdentifier_localBin : isIdentifier draft.localBin = true
  complete : ∀ name tool, draft.tools.get? name = some tool → tool.Complete
  dependsOn_nodup : ∀ name tool, draft.tools.get? name = some tool → tool.dependsOn.Nodup
  closed : draft.graph.Closed
  acyclic : draft.graph.Acyclic
  toolSets : ∀ set members, draft.toolSets.get? set = some members →
    set ∉ draft.tools.keys ∧ ∀ name ∈ members, name ∈ draft.tools.keys
  identifier_ne_empty : ∀ name ∈ draft.names, identifier name ≠ ""
  definedNames_nodup : draft.definedNames.Nodup
  stages_nodup : draft.stages.Nodup

end Draft

/-! ## One tool -/

theorem exists_required_iff {tool field : String} {value : Option String} :
    (∃ text, Check.required tool value field = .ok text) ↔ IsWritten value := by
  simp [Check.required_eq_ok_iff, IsWritten]

theorem exists_fetch_iff {tool field : String} {written : Draft.Fetch} :
    (∃ source, Check.fetch tool written field = .ok source) ↔ written.Complete := by
  simp only [Check.fetch_eq_ok_iff, Check.archive_eq_ok_iff]
  constructor
  · rintro ⟨source, hurl, hblank, hkinds, -⟩
    exact ⟨⟨source.url, hurl, hblank⟩, hkinds⟩
  · rintro ⟨⟨url, hurl, hblank⟩, hkinds⟩
    exact ⟨⟨url, _⟩, hurl, hblank, hkinds, rfl⟩

theorem exists_goModule_iff {tool : String} {written : Draft.Go} :
    (∃ m, Check.goModule tool written = .ok m) ↔ written.Complete := by
  simp only [Check.goModule_eq_ok_iff]
  constructor
  · rintro ⟨m, ⟨hpath, hpathWritten⟩, ⟨hversion, hversionWritten⟩, -⟩
    exact ⟨⟨_, hpath, hpathWritten⟩, ⟨_, hversion, hversionWritten⟩⟩
  · rintro ⟨⟨path, hpath⟩, ⟨version, hversion⟩⟩
    exact ⟨⟨path, _, version, _, _, GoPackage.binaryName (GoPackage.path path _)⟩, hpath, hversion,
      rfl, rfl, rfl, rfl⟩

theorem exists_map_iff {α β ε : Type} {first : Except ε α} {f : α → β} :
    (∃ result, first.map f = .ok result) ↔ ∃ value, first = .ok value := by
  simp [Check.map_eq_ok_iff]

theorem exists_installer_iff (name : String) {tool : Draft.Tool} :
    (∃ made, Check.installer name tool = .ok made) ↔ tool.Complete := by
  obtain ⟨provided, http, s3, pipx, go, maven, vars, dependsOn⟩ := tool
  constructor
  · rintro ⟨made, hok⟩
    have hsingle := (Check.installer_eq_ok_iff.mp hok).1
    have hmade : ∃ made, Check.installer name _ = .ok made := ⟨made, hok⟩
    simp only [Check.installer] at hmade
    split at hmade
    · exact ⟨hsingle, by simp, by simp, by simp, by simp⟩
    · rw [exists_map_iff, exists_fetch_iff] at hmade
      refine ⟨hsingle, ?_, by simp, by simp, by simp⟩
      rintro written ⟨⟩
      exact hmade
    · rw [exists_map_iff, exists_fetch_iff] at hmade
      refine ⟨hsingle, by simp, ?_, by simp, by simp⟩
      rintro written ⟨⟩
      exact hmade
    · exact ⟨hsingle, by simp, by simp, by simp, by simp⟩
    · rw [exists_map_iff, exists_goModule_iff] at hmade
      refine ⟨hsingle, by simp, by simp, ?_, by simp⟩
      rintro written ⟨⟩
      exact hmade
    · rw [exists_map_iff, exists_required_iff] at hmade
      refine ⟨hsingle, by simp, by simp, by simp, ?_⟩
      rintro written ⟨⟩
      exact hmade
    · simp at hmade
  · rintro ⟨hsingle, hhttp, hs3, hgo, hmaven⟩
    cases provided <;> cases http <;> cases s3 <;> cases pipx <;> cases go <;> cases maven <;>
      simp [Draft.Tool.installerSections] at hsingle
    case none.none.none.none.none.some written =>
      exact exists_map_iff.mpr (exists_required_iff.mpr (hmaven written rfl))
    case none.none.none.none.some.none written =>
      exact exists_map_iff.mpr (exists_goModule_iff.mpr (hgo written rfl))
    case none.none.none.some.none.none written => exact ⟨_, rfl⟩
    case none.none.some.none.none.none written =>
      exact exists_map_iff.mpr (exists_fetch_iff.mpr (hs3 written rfl))
    case none.some.none.none.none.none written =>
      exact exists_map_iff.mpr (exists_fetch_iff.mpr (hhttp written rfl))
    case some.none.none.none.none.none written => exact ⟨_, rfl⟩

theorem exists_tool_iff {name : String} {tool : Draft.Tool} :
    (∃ made, Check.tool name tool = .ok made) ↔
      isName true name = true ∧ (∀ key ∈ tool.vars.keys, isName true key = true) ∧
        tool.Complete ∧ (∀ other ∈ tool.dependsOn, isName true other = true) ∧
          tool.dependsOn.Nodup := by
  simp only [Check.tool_eq_ok_iff]
  constructor
  · rintro ⟨made, rfl, hvars, hmade, -, hnames, hnodup⟩
    refine ⟨made.name.isName_text, hvars, (exists_installer_iff _).mp ⟨_, hmade⟩, ?_, hnodup⟩
    rw [← hnames, Tool.dependencyNames]
    rintro other hother
    obtain ⟨dependency, -, rfl⟩ := List.mem_map.mp hother
    exact dependency.isName_text
  · rintro ⟨hname, hvars, hcomplete, hnames, hnodup⟩
    obtain ⟨made, hmade⟩ := (exists_installer_iff name).mpr hcomplete
    obtain ⟨dependsOn, hdependsOn⟩ : tool.dependsOn ∈ Set.range (List.map ToolName.text) := by
      rw [Set.range_list_map]
      exact fun other hother => ToolName.exists_text_eq_iff.mpr (hnames other hother)
    exact ⟨⟨⟨name, hname⟩, made, tool.vars, dependsOn⟩, rfl, hvars, hmade, rfl, hdependsOn,
      hnodup⟩

/-- An installer fetches what the tool's section says to fetch. -/
theorem fetched_of_installer {name : String} {tool : Draft.Tool} {made : Installer}
    (hok : Check.installer name tool = .ok made) :
    (tool.fetched = [] ∧ made.fetch? = none) ∨
      ∃ written source, tool.fetched = [written] ∧ made.fetch? = some source ∧
        Check.archive name written = .ok source.archive := by
  obtain ⟨provided, http, s3, pipx, go, maven, vars, dependsOn⟩ := tool
  simp only [Check.installer] at hok
  split at hok
  · cases hok
    exact Or.inl ⟨rfl, rfl⟩
  · next written =>
      obtain ⟨source, hsource, rfl⟩ := Check.map_eq_ok_iff.mp hok
      exact Or.inr ⟨written, source, rfl, rfl, (Check.fetch_eq_ok_iff.mp hsource).2.2⟩
  · next written =>
      obtain ⟨source, hsource, rfl⟩ := Check.map_eq_ok_iff.mp hok
      exact Or.inr ⟨written, source, rfl, rfl, (Check.fetch_eq_ok_iff.mp hsource).2.2⟩
  · cases hok
    exact Or.inl ⟨rfl, rfl⟩
  · obtain ⟨m, -, rfl⟩ := Check.map_eq_ok_iff.mp hok
    exact Or.inl ⟨rfl, rfl⟩
  · obtain ⟨artifact, -, rfl⟩ := Check.map_eq_ok_iff.mp hok
    exact Or.inl ⟨rfl, rfl⟩
  · contradiction

theorem toolIdentifiers_of_tool {name : String} {tool : Draft.Tool} {made : Tool}
    (hok : Check.tool name tool = .ok made) :
    (Check.toolIdentifiers made).map Prod.fst = tool.definedNames name := by
  obtain ⟨hname, -, hmade, hvars, -, -⟩ := Check.tool_eq_ok_iff.mp hok
  simp only [Check.toolIdentifiers, Draft.Tool.definedNames, Installer.hasUrl,
    Installer.hasArchive, hname, hvars]
  rcases fetched_of_installer hmade with ⟨hfetched, hnone⟩ | ⟨written, source, hfetched, hsome, hok⟩
  · simp [hfetched, hnone, Function.comp_def]
  · obtain ⟨-, harchive⟩ := Check.archive_eq_ok_iff.mp hok
    rw [hfetched, hsome, Option.bind_some, harchive]
    cases hzip : written.zip <;> cases htar : written.tar <;>
      simp [hzip, htar, Function.comp_def]

/-! ## The whole draft -/

theorem Draft.mem_names_iff {draft : Draft} {name : String} :
    name ∈ draft.names ↔
      name ∈ draft.vars.keys ∨
        (∃ tool written, draft.tools.get? tool = some written ∧
          (name = tool ∨ name ∈ written.vars.keys)) ∨
        name ∈ draft.toolSets.keys := by
  simp [names, Dict.get?_eq_some_iff]

section Whole

variable {draft : Draft} {tools : Dict Tool}

theorem graph_of_traverse (hok : draft.tools.traverse Check.tool = .ok tools) :
    (⟨tools.mapValues (fun _ tool => tool.dependencyNames)⟩ : Graph) = draft.graph := by
  rw [Draft.graph, Graph.mk.injEq]
  apply Dict.ext
  refine (Dict.map_entries_of_traverse hok ?_).symm
  intro name tool made hmade
  simp only [(Check.tool_eq_ok_iff.mp hmade).2.2.2.2.1]

theorem identifiers_of_traverse (hok : draft.tools.traverse Check.tool = .ok tools)
    (config : Config) (hvars : config.vars = draft.vars)
    (hlocal : config.localBinVar = draft.localBin) (htools : config.tools = tools) :
    (Check.identifiers config).map Prod.fst = draft.definedNames := by
  have hflat :
      (tools.values.flatMap Check.toolIdentifiers).map Prod.fst =
        draft.tools.entries.flatMap (fun entry => entry.2.definedNames entry.1) := by
    rw [List.map_flatMap, Dict.values, List.flatMap_map, List.flatMap_def, List.flatMap_def]
    congr 1
    refine (Dict.map_entries_of_traverse hok ?_).symm
    intro name tool made hmade
    exact (toolIdentifiers_of_tool hmade).symm
  simp [Check.identifiers, Draft.definedNames, hvars, hlocal, htools, hflat, Function.comp_def]

theorem namedOrigins_of_traverse (hok : draft.tools.traverse Check.tool = .ok tools)
    {toolSets : Dict ToolSet} (hkeys : toolSets.keys = draft.toolSets.keys) (config : Config)
    (hvars : config.vars = draft.vars) (htools : config.tools = tools)
    (hsets : config.toolSets = toolSets) :
    (Check.namedOrigins config).map Prod.fst = draft.names := by
  have hflat :
      (tools.values.flatMap (fun tool =>
          (tool.name.text, Origin.tool tool.name.text) ::
            tool.vars.keys.map (fun key => (key, .toolVar tool.name.text key)))).map Prod.fst =
        draft.tools.entries.flatMap (fun entry => entry.1 :: entry.2.vars.keys) := by
    rw [List.map_flatMap, Dict.values, List.flatMap_map, List.flatMap_def, List.flatMap_def]
    congr 1
    refine (Dict.map_entries_of_traverse hok ?_).symm
    intro name tool made hmade
    obtain ⟨hname, -, -, hsame, -⟩ := Check.tool_eq_ok_iff.mp hmade
    simp [hname, hsame, Function.comp_def]
  simp [Check.namedOrigins, Draft.names, hvars, htools, hsets, hkeys, hflat, Function.comp_def]

theorem stages_of_keys {config : Config} (htools : config.tools.keys = draft.tools.keys)
    (hsets : config.toolSets.keys = draft.toolSets.keys) :
    (Check.stages config).map Prod.fst = draft.stages := by
  simp [Check.stages, Draft.stages, htools, hsets, Function.comp_def]

end Whole

theorem Accepted.wellFormed {draft : Draft} {config : Config} (h : Accepted draft config) :
    draft.WellFormed where
  isName_names := by
    intro name hname
    rcases Draft.mem_names_iff.mp hname with hvar | ⟨tool, written, htool, hname⟩ | hset
    · exact h.isName_vars name (h.vars ▸ hvar)
    · obtain ⟨made, -, hmade⟩ := h.exists_made htool
      obtain ⟨hvalid, hvars, -⟩ := exists_tool_iff.mp ⟨made, hmade⟩
      rcases hname with rfl | hkey
      · exact hvalid
      · exact hvars name hkey
    · obtain ⟨members, hmembers⟩ := Dict.exists_get?_of_mem_keys hset
      obtain ⟨made, -, hmade⟩ := Dict.get?_traverse h.toolSets hmembers
      exact ToolName.exists_text_eq_iff.mp ⟨made.name, (Check.toolSet_eq_ok_iff.mp hmade).1⟩
  isIdentifier_localBin := by
    rw [Draft.localBin, ← h.localBinVar]
    exact h.isIdentifier_localBinVar
  complete := by
    intro name tool htool
    obtain ⟨made, -, hmade⟩ := h.exists_made htool
    exact (exists_tool_iff.mp ⟨made, hmade⟩).2.2.1
  dependsOn_nodup := by
    intro name tool htool
    obtain ⟨made, -, hmade⟩ := h.exists_made htool
    exact (Check.tool_eq_ok_iff.mp hmade).2.2.2.2.2
  closed := by
    rw [← graph_of_traverse h.tools]
    exact h.closed_graph
  acyclic := by
    rw [← graph_of_traverse h.tools]
    exact Graph.checkAcyclic_eq_ok_iff_acyclic.mp h.acyclic
  toolSets := by
    intro set members hmembers
    obtain ⟨made, -, hmade⟩ := Dict.get?_traverse h.toolSets hmembers
    obtain ⟨-, hfresh, hlisted⟩ := Check.toolSet_eq_ok_iff.mp hmade
    rw [← h.keys_tools]
    exact ⟨hfresh, (Check.exists_members_iff set []).mp ⟨made.tools, hlisted⟩⟩
  identifier_ne_empty := by
    rw [← namedOrigins_of_traverse h.tools h.keys_toolSets config h.vars rfl rfl]
    intro name hname
    obtain ⟨named, hnamed, rfl⟩ := List.mem_map.mp hname
    exact h.identifier_ne_empty named hnamed
  definedNames_nodup := by
    rw [← identifiers_of_traverse h.tools config h.vars h.localBinVar rfl]
    exact h.identifiers_nodup
  stages_nodup := by
    rw [← stages_of_keys h.keys_tools h.keys_toolSets]
    exact h.stages_nodup

namespace Draft.WellFormed

variable {draft : Draft}

theorem isName_tool (h : draft.WellFormed) {name : String} (hname : name ∈ draft.tools.keys) :
    isName true name = true := by
  obtain ⟨written, hwritten⟩ := Dict.exists_get?_of_mem_keys hname
  exact h.isName_names name
    (mem_names_iff.mpr (Or.inr (Or.inl ⟨name, written, hwritten, Or.inl rfl⟩)))

theorem mem_keys_of_dependsOn (h : draft.WellFormed) {name other : String} {written : Draft.Tool}
    (hwritten : draft.tools.get? name = some written) (hother : other ∈ written.dependsOn) :
    other ∈ draft.tools.keys := by
  have hdepends : draft.graph.DependsOn name other := by
    simpa [Graph.DependsOn, Graph.dependencies, Draft.graph, hwritten] using hother
  simpa [Graph.nodes, Draft.graph] using h.closed name other hdepends

theorem exists_tools (h : draft.WellFormed) :
    ∃ tools, draft.tools.traverse Check.tool = .ok tools := by
  apply Dict.exists_traverse
  intro name written hwritten
  refine exists_tool_iff.mpr ⟨h.isName_tool (Dict.mem_keys_of_get? hwritten), ?_,
    h.complete name written hwritten, ?_, h.dependsOn_nodup name written hwritten⟩
  · intro key hkey
    exact h.isName_names key
      (mem_names_iff.mpr (Or.inr (Or.inl ⟨name, written, hwritten, Or.inr hkey⟩)))
  · intro other hother
    exact h.isName_tool (h.mem_keys_of_dependsOn hwritten hother)

theorem exists_toolSets (h : draft.WellFormed) {tools : Dict Provision.Tool}
    (hkeys : tools.keys = draft.tools.keys) :
    ∃ toolSets, draft.toolSets.traverse (Check.toolSet tools) = .ok toolSets := by
  apply Dict.exists_traverse
  intro set members hmembers
  obtain ⟨hfresh, hlisted⟩ := h.toolSets set members hmembers
  have hname : isName true set = true :=
    h.isName_names set (mem_names_iff.mpr (Or.inr (Or.inr (Dict.mem_keys_of_get? hmembers))))
  rw [← hkeys] at hfresh hlisted
  obtain ⟨found, hfound⟩ := (Check.exists_members_iff set []).mpr hlisted
  exact ⟨⟨⟨set, hname⟩, found⟩, Check.toolSet_eq_ok_iff.mpr ⟨rfl, hfresh, hfound⟩⟩

theorem exists_accepted (h : draft.WellFormed) : ∃ config, Accepted draft config := by
  obtain ⟨tools, htools⟩ := h.exists_tools
  have hkeys : tools.keys = draft.tools.keys := Dict.keys_of_traverse htools
  obtain ⟨toolSets, hsets⟩ := h.exists_toolSets hkeys
  have hsetKeys : toolSets.keys = draft.toolSets.keys := Dict.keys_of_traverse hsets
  let config : Config :=
    { vars := draft.vars, localBinVar := draft.localBin, tools, toolSets
      commands := draft.commands, dockerfile := draft.dockerfile }
  refine ⟨config,
    { vars := rfl
      localBinVar := rfl
      commands := rfl
      dockerfile := rfl
      isIdentifier_localBinVar := h.isIdentifier_localBin
      isName_vars := fun key hkey => h.isName_names key (mem_names_iff.mpr (Or.inl hkey))
      tools := htools
      toolSets := hsets
      closed := ?_
      acyclic := ?_
      identifier_ne_empty := ?_
      identifiers_nodup := ?_
      stages_nodup := ?_ }⟩
  · intro tool htool name hname
    obtain ⟨key, hkey⟩ := Dict.mem_values_iff.mp htool
    obtain ⟨written, hwritten, hmade⟩ := Dict.get?_of_traverse htools hkey
    rw [(Check.tool_eq_ok_iff.mp hmade).2.2.2.2.1] at hname
    exact hkeys ▸ h.mem_keys_of_dependsOn hwritten hname
  · rw [Config.graph, graph_of_traverse htools]
    exact Graph.checkAcyclic_eq_ok_iff_acyclic.mpr h.acyclic
  · intro named hnamed
    apply h.identifier_ne_empty
    rw [← namedOrigins_of_traverse htools hsetKeys config rfl rfl rfl]
    exact List.mem_map_of_mem hnamed
  · rw [identifiers_of_traverse htools config rfl rfl rfl]
    exact h.definedNames_nodup
  · rw [stages_of_keys hkeys hsetKeys]
    exact h.stages_nodup

end Draft.WellFormed

/-- A draft makes a configuration exactly when it is well formed. -/
theorem exists_check_eq_ok_iff_wellFormed (draft : Draft) :
    (∃ config, draft.check = .ok config) ↔ draft.WellFormed := by
  constructor
  · rintro ⟨config, hok⟩
    exact (Draft.check_eq_ok_iff.mp hok).wellFormed
  · intro h
    obtain ⟨config, hconfig⟩ := h.exists_accepted
    exact ⟨config, Draft.check_eq_ok_iff.mpr hconfig⟩

end Provision
