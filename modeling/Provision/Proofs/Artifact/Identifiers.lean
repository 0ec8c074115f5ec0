import Provision.Proofs.Artifact.Stages
import Provision.Proofs.Name.Start

/-!
# Which defined names are identifiers

The check holds `localBinVar` alone to the rule for identifiers.  All other names that an artifact
defines start like the name of a shared variable or of a tool, and go on with characters of
identifiers, so they follow the rule exactly when each of those names has a letter before any digit.
-/

namespace Provision

open Name

/-- The names that an artifact defines, line by line. -/
def Plan.definedNames (plan : Plan) (outPath : String) : ArtifactKind → List String
  | .makefile => (Makefile.lines plan outPath).filterMap Makefile.Line.assigned?
  | .dockerfile => (Dockerfile.lines plan outPath).filterMap Dockerfile.Line.defaulted?

/-- Every shared variable and every tool has a name with a letter before any digit. -/
def Config.StartsWithLetters (config : Config) : Prop :=
  ∀ name ∈ config.vars.keys ++ config.tools.keys, startsWithLetter name = true

variable {draft : Draft} {config : Config} {provenance : Provenance} {plan : Plan}

namespace Dockerfile

theorem filterMap_defaulted?_lines (plan : Plan) (outPath : String) :
    (lines plan outPath).filterMap Line.defaulted? =
      (prologue plan outPath).filterMap Line.defaulted? := by
  rw [lines, List.append_assoc, List.filterMap_append, (filterMap_blocks plan).2, List.append_nil]

theorem identifier_mem_argumentLines (config : Config) (view : ToolView) :
    identifier view.name ∈ (argumentLines config view).filterMap Line.defaulted? := by
  rw [List.mem_filterMap]
  unfold argumentLines
  split
  · exact ⟨_, List.mem_append_right _ (List.mem_singleton_self _), rfl⟩
  · exact ⟨_, List.mem_append_right _ List.mem_cons_self, rfl⟩

end Dockerfile

/-- Both artifacts define the identifiers that the check claims, except for the stamps in the
Dockerfile. -/
theorem Plan.definedNames_perm (hplan : Plan.ofConfig config provenance = .ok plan)
    (outPath : String) :
    (plan.definedNames outPath .makefile).Perm ((Check.identifiers config).map Prod.fst) ∧
      (plan.definedNames outPath .dockerfile ++
          config.tools.values.map (fun tool => stampIdentifier tool.name.text)).Perm
        ((Check.identifiers config).map Prod.fst) := by
  refine ⟨Makefile.filterMap_assigned?_lines hplan outPath, ?_⟩
  rw [definedNames, Dockerfile.filterMap_defaulted?_lines]
  exact Dockerfile.filterMap_defaulted?_prologue hplan outPath

theorem Plan.identifier_mem_definedNames (hplan : Plan.ofConfig config provenance = .ok plan)
    (outPath : String) (kind : ArtifactKind) :
    (∀ key ∈ config.vars.keys, identifier key ∈ plan.definedNames outPath kind) ∧
      ∀ tool ∈ config.tools.values,
        identifier tool.name.text ∈ plan.definedNames outPath kind := by
  cases kind with
  | makefile =>
      have hmem := fun name => (Plan.definedNames_perm hplan outPath).1.mem_iff (a := name)
      simp only [hmem, Config.map_fst_identifiers, List.mem_cons, List.mem_append, List.mem_map,
        List.mem_flatMap]
      refine ⟨fun key hkey => .inr (.inl ⟨key, hkey, rfl⟩), ?_⟩
      exact fun tool htool => .inr (.inr ⟨tool, htool, _, List.mem_cons_self, rfl⟩)
  | dockerfile =>
      obtain rfl := Plan.config_of_ofConfig hplan
      rw [definedNames, Dockerfile.filterMap_defaulted?_lines,
        Dockerfile.filterMap_defaulted?_prologue_eq]
      simp only [List.mem_cons, List.mem_append, List.mem_map, List.mem_flatMap]
      refine ⟨fun key hkey => .inr (.inl ⟨key, hkey, rfl⟩), ?_⟩
      intro tool htool
      have hview : ToolView.ofTool plan.config tool ∈ plan.tools :=
        (Plan.tools_perm hplan).mem_iff.mpr (List.mem_map_of_mem htool)
      exact .inr (.inr ⟨_, hview, Dockerfile.identifier_mem_argumentLines plan.config _⟩)

namespace Accepted

/-- All identifiers of a tool start like its name. -/
theorem isIdentifier_iff_of_mem_toolIdentifiers (h : Accepted draft config) {tool : Tool}
    (htool : tool ∈ config.tools.values) {name : String}
    (hname : name ∈ (Check.toolIdentifiers tool).map Prod.fst) :
    isIdentifier name = true ↔ startsWithLetter tool.name.text = true := by
  have hplain := tool.name.isPlain_text
  have hended : ∀ ending : String, (∀ c ∈ ending.toList, isIdentifierChar c = true) →
      (isIdentifier (identifier tool.name.text ++ ending) = true ↔
        startsWithLetter tool.name.text = true) := by
    intro ending hending
    rw [isIdentifier_append_iff (h.identifier_tool_ne_empty htool) hending]
    exact hplain.isIdentifier_identifier_iff
  simp only [Tool.map_fst_toolIdentifiers, Tool.fetchedNames, Tool.varNames, List.mem_append,
    List.mem_cons, List.not_mem_nil, or_false, List.mem_ite_nil_right, List.mem_map] at hname
  rcases hname with ((rfl | rfl) | ⟨-, rfl⟩ | ⟨-, rfl⟩) | ⟨key, hkey, rfl⟩
  · exact hplain.isIdentifier_identifier_iff
  · exact hended "_STAMP" (by decide)
  · exact hended "_URL" (by decide)
  · exact hended "_ZIP" (by decide)
  · rw [scopedIdentifier, if_neg tool.name.text_ne_empty, String.append_assoc]
    apply hended
    intro c hc
    rw [String.toList_append] at hc
    rcases List.mem_append.mp hc with hline | hchar
    · obtain rfl : c = '_' := by simpa using hline
      decide
    · exact (h.isPlain_toolVar htool hkey).isIdentifierChar_of_mem_identifier hchar

theorem isIdentifier_of_mem_identifiers (h : Accepted draft config)
    (hletters : config.StartsWithLetters) {name : String}
    (hname : name ∈ (Check.identifiers config).map Prod.fst) : isIdentifier name = true := by
  rw [Config.map_fst_identifiers, List.mem_cons, List.mem_append, List.mem_map,
    List.mem_flatMap] at hname
  rcases hname with rfl | ⟨key, hkey, rfl⟩ | ⟨tool, htool, hname⟩
  · exact h.isIdentifier_localBinVar
  · exact (h.isPlain_sharedVar hkey).1.isIdentifier_identifier_iff.mpr
      (hletters key (List.mem_append_left _ hkey))
  · obtain ⟨text, hget⟩ := Dict.mem_values_iff.mp htool
    obtain rfl := h.keyedByName text tool hget
    exact (h.isIdentifier_iff_of_mem_toolIdentifiers htool hname).mpr
      (hletters _ (List.mem_append_right _ (Dict.mem_keys_of_get? hget)))

theorem startsWithLetters (h : Accepted draft config)
    (hshared : ∀ key ∈ config.vars.keys, isIdentifier (identifier key) = true)
    (htools : ∀ tool ∈ config.tools.values, isIdentifier (identifier tool.name.text) = true) :
    config.StartsWithLetters := by
  intro name hname
  rcases List.mem_append.mp hname with hkey | htool
  · exact (h.isPlain_sharedVar hkey).1.isIdentifier_identifier_iff.mp (hshared name hkey)
  · obtain ⟨tool, hget⟩ := Dict.exists_get?_of_mem_keys htool
    obtain rfl := h.keyedByName name tool hget
    exact tool.name.isPlain_text.isIdentifier_identifier_iff.mp
      (htools tool (Dict.mem_values_iff.mpr ⟨_, hget⟩))

end Accepted

/-- Both artifacts define the identifiers that the check claims, the Dockerfile without the stamps,
and all that either of them defines follows the rule for identifiers exactly when every shared
variable and every tool has a name with a letter before any digit. -/
theorem forall_definedNames_isIdentifier_iff (hok : draft.check = .ok config)
    (provenance : Provenance) :
    ∃ plan, Plan.ofConfig config provenance = .ok plan ∧ ∀ outPath,
      (plan.definedNames outPath .makefile).Perm ((Check.identifiers config).map Prod.fst) ∧
      (plan.definedNames outPath .dockerfile ++
          config.tools.values.map (fun tool => stampIdentifier tool.name.text)).Perm
        ((Check.identifiers config).map Prod.fst) ∧
      ∀ kind : ArtifactKind,
        (∀ text, plan.emit kind.fragments kind outPath = .ok text →
          text = plan.text kind outPath) ∧
        ((∀ name ∈ plan.definedNames outPath kind, isIdentifier name = true) ↔
          config.StartsWithLetters) := by
  have h := Draft.check_eq_ok_iff.mp hok
  obtain ⟨plan, hplan⟩ := h.exists_plan provenance
  refine ⟨plan, hplan, ?_⟩
  intro outPath
  obtain ⟨hmake, hdocker⟩ := Plan.definedNames_perm hplan outPath
  refine ⟨hmake, hdocker, ?_⟩
  intro kind
  refine ⟨fun text hemit => h.eq_text_of_emit hplan hemit, ?_⟩
  have hclaimed : ∀ name ∈ plan.definedNames outPath kind,
      name ∈ (Check.identifiers config).map Prod.fst := by
    intro name hname
    cases kind with
    | makefile => exact hmake.mem_iff.mp hname
    | dockerfile => exact hdocker.mem_iff.mp (List.mem_append_left _ hname)
  constructor
  -- The Dockerfile has no stamps, but the identifiers of the names themselves tell enough.
  · intro hnames
    obtain ⟨hshared, htools⟩ := Plan.identifier_mem_definedNames hplan outPath kind
    exact h.startsWithLetters (fun key hkey => hnames _ (hshared key hkey))
      (fun tool htool => hnames _ (htools tool htool))
  · intro hletters name hname
    exact h.isIdentifier_of_mem_identifiers hletters (hclaimed name hname)

theorem definedNames_isIdentifier_packed :
    ∃ plan, Plan.ofConfig Config.packed ⟨"provision.yaml", "00"⟩ = .ok plan ∧
      ∀ outPath, ∀ kind : ArtifactKind, ∀ name ∈ plan.definedNames outPath kind,
        isIdentifier name = true := by
  have hletters : Config.packed.StartsWithLetters := by
    unfold Config.StartsWithLetters
    decide
  obtain ⟨plan, hplan, hdefined⟩ :=
    forall_definedNames_isIdentifier_iff Config.check_packed ⟨"provision.yaml", "00"⟩
  exact ⟨plan, hplan, fun outPath kind => ((hdefined outPath).2.2 kind).2.mpr hletters⟩

/-- A tool whose name starts with a digit. -/
def Draft.numbered : Draft :=
  { tools := .ofList [("7zip", { http := some { url := some "https://example.org/7zz" } })] }

/-- What the check makes of `Draft.numbered`. -/
def Config.numbered : Config :=
  { vars := .empty
    localBinVar := "LOCALBIN"
    tools := .ofList
      [("7zip",
        { name := ⟨"7zip", by decide⟩
          installer := .http { url := "https://example.org/7zz", archive := none }
          vars := .empty
          dependsOn := [] })]
    toolSets := .empty
    commands := {}
    dockerfile := {} }

/-- A name that starts with a digit passes the check, and both artifacts are written with a variable
whose name does not follow the rule. -/
theorem not_isIdentifier_definedNames_numbered :
    ∃ plan, Draft.numbered.check = .ok Config.numbered ∧
      Plan.ofConfig Config.numbered ⟨"provision.yaml", "00"⟩ = .ok plan ∧
      isIdentifier "7ZIP" = false ∧
      ∀ kind : ArtifactKind,
        plan.emit kind.fragments kind "out" = .ok (plan.text kind "out") ∧
        "7ZIP" ∈ plan.definedNames "out" kind := by
  have hok : Draft.numbered.check.toOption = some Config.numbered := by decide +kernel
  have hcheck := Engine.exists_eq_ok_of_toOption hok
  have h := Draft.check_eq_ok_iff.mp hcheck
  have hplain : ∀ tool ∈ Config.numbered.tools.values, ∀ source ∈ tool.installer.templates,
      '\x7b' ∉ source.toList := by decide +kernel
  have htool : ∃ tool ∈ Config.numbered.tools.values, identifier tool.name.text = "7ZIP" := by
    decide +kernel
  obtain ⟨plan, hplan⟩ := h.exists_plan ⟨"provision.yaml", "00"⟩
  refine ⟨plan, hcheck, hplan, by decide, ?_⟩
  intro kind
  refine ⟨h.emit_eq_text hplan (fun tool htool source hsource =>
    Tool.isTemplated_of_notMem (hplain tool htool source hsource)) kind "out", ?_⟩
  obtain ⟨tool, hvalue, hname⟩ := htool
  rw [← hname]
  exact (Plan.identifier_mem_definedNames hplan "out" kind).2 tool hvalue

end Provision
