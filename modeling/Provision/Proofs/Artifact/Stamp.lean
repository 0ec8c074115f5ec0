import Provision.Proofs.Artifact.Expansion
import Provision.Proofs.Artifact.Mentions
import Provision.Proofs.Artifact.Placement

/-!
# What stamps follow

The name of a stamp is made of the values of the variables of its tool, with underscores in the
places of slashes.  So it follows the variables of tools that the tool is installed with, up to this
exchange.  It does not follow the shared variables, which settings can refer to just as well.
-/

namespace Provision

theorem Text.isInfix_join {texts : List String} {s : String} (h : s ∈ texts) :
    s.toList <:+: (String.join texts).toList := by
  obtain ⟨before, after, rfl⟩ := List.append_of_mem h
  simp only [String.join_append, String.join_cons, String.toList_append]
  exact List.infix_append' _ _ _

theorem ToolName.scopedIdentifier_ne_empty (name : ToolName) (key : String) :
    Name.scopedIdentifier name.text key ≠ "" := by
  rw [Name.scopedIdentifier, if_neg name.text_ne_empty]
  simp

namespace Makefile

/-! ## Names of stamps -/

section Names

variable {config : Config} {view : ToolView} {values : String → String}

/-- The name of a stamp under the values of variables. -/
def stampName (config : Config) (view : ToolView) (values : String → String) : String :=
  expanded values (stampPath config view)

/-- The values of variables as a stamp lists them. -/
def stampValues (names : List String) (values : String → String) : String :=
  String.join (names.map (fun name => "@" ++ flattened (values name)))

theorem stampName_eq (hlocal : Name.isIdentifier config.localBinVar = true)
    (hplain : ∀ key ∈ view.tool.vars.keys, Name.IsPlain key) (values : String → String) :
    stampName config view values =
      values config.localBinVar ++ "/.make-env/" ++ view.name ++ "@" ++
        view.tool.installer.digest ++ stampValues view.tool.varNames values ++ ".stamp" := by
  obtain ⟨hlocalPlain, hlocalNe⟩ := Name.isPlain_of_isIdentifier hlocal
  have hname : '$' ∉ view.name.toList := view.tool.name.isPlain_text.dollar_notMem
  have hdigest := view.tool.installer.isPlain_digest.dollar_notMem
  have hcalls : Expands values
      (String.join (view.tool.vars.keys.map (fun key =>
        "@$(subst /,_," ++ reference (Name.scopedIdentifier view.name key) ++ ")")))
      (stampValues view.tool.varNames values) := by
    rw [stampValues, Tool.varNames, List.map_map]
    refine .join (fun key hkey => ?_)
    have hsplit : ∀ text, "@$(subst /,_," ++ text ++ ")" = "@" ++ ("$(subst /,_," ++ text ++ ")") :=
      fun text => String.toList_inj.mp (by simp)
    rw [hsplit]
    exact (Expands.literal (by decide)).append (.call
      (view.tool.name.isPlain_text.scopedIdentifier (hplain key hkey))
      (view.tool.name.scopedIdentifier_ne_empty key))
  exact (((((((Expands.reference hlocalPlain hlocalNe).append (.literal (by decide))).append
    (.literal hname)).append (.literal (by decide))).append (.literal hdigest)).append
      hcalls).append (.literal (by decide))).expanded_eq

theorem stampValues_update_of_notMem {names : List String} {name : String} (h : name ∉ names)
    {value : String} :
    stampValues names (Function.update values name value) = stampValues names values := by
  refine congrArg String.join (List.map_congr_left (fun other hmem => ?_))
  have hne : other ≠ name := fun heq => h (heq ▸ hmem)
  rw [Function.update_of_ne hne]

/-- A stamp is renamed with the value of a variable of its tool, unless the new value is the same
one apart from slashes. -/
theorem stampName_update_eq_iff (hlocal : Name.isIdentifier config.localBinVar = true)
    (hplain : ∀ key ∈ view.tool.vars.keys, Name.IsPlain key) (hnodup : view.tool.varNames.Nodup)
    (hother : config.localBinVar ∉ view.tool.varNames) {name : String}
    (hname : name ∈ view.tool.varNames) (values : String → String) (value : String) :
    stampName config view (Function.update values name value) = stampName config view values ↔
      flattened value = flattened (values name) := by
  have hlocalNe : config.localBinVar ≠ name := fun heq => hother (heq ▸ hname)
  obtain ⟨before, after, hsplit⟩ := List.append_of_mem hname
  rw [hsplit] at hnodup
  have hbefore : name ∉ before := fun hmem =>
    (List.nodup_append.mp hnodup).2.2 name hmem name List.mem_cons_self rfl
  have hafter : name ∉ after := (List.nodup_cons.mp (List.nodup_append.mp hnodup).2.1).1
  have hlisted : ∀ values, stampValues (before ++ name :: after) values =
      stampValues before values ++ ("@" ++ flattened (values name) ++ stampValues after values) :=
    fun values => by simp [stampValues]
  rw [stampName_eq hlocal hplain, stampName_eq hlocal hplain, hsplit, hlisted, hlisted,
    stampValues_update_of_notMem hbefore, stampValues_update_of_notMem hafter,
    Function.update_of_ne hlocalNe, Function.update_self]
  simp only [String.append_left_inj, String.append_right_inj]

/-- A stamp keeps its name whatever happens to other variables. -/
theorem stampName_update_of_notMem (hlocal : Name.isIdentifier config.localBinVar = true)
    (hplain : ∀ key ∈ view.tool.vars.keys, Name.IsPlain key) {name : String}
    (hother : name ≠ config.localBinVar) (hname : name ∉ view.tool.varNames)
    (values : String → String) (value : String) :
    stampName config view (Function.update values name value) = stampName config view values := by
  rw [stampName_eq hlocal hplain, stampName_eq hlocal hplain, stampValues_update_of_notMem hname,
    Function.update_of_ne hother.symm]

/-! ## References of stamps -/

theorem reference_isInfix_stampPath {name : String} (hname : name ∈ view.tool.varNames) :
    (reference name).toList <:+: (stampPath config view).toList := by
  obtain ⟨key, hkey, rfl⟩ := List.mem_map.mp hname
  have hcall : (reference (Name.scopedIdentifier view.name key)).toList <:+:
      ("@$(subst /,_," ++ reference (Name.scopedIdentifier view.name key) ++ ")").toList := by
    simp only [String.toList_append]
    exact List.infix_append _ _ _
  have hcalls := Text.isInfix_join (List.mem_map_of_mem (f := fun key =>
    "@$(subst /,_," ++ reference (Name.scopedIdentifier view.name key) ++ ")") hkey)
  refine hcall.trans (hcalls.trans ?_)
  simp only [stampPath, String.toList_append]
  exact List.infix_append _ _ _

/-- A stamp refers to no variables but those of its tool. -/
theorem mem_varNames_of_isInfix (hlocal : Name.isIdentifier config.localBinVar = true)
    (hplain : ∀ key ∈ view.tool.vars.keys, Name.IsPlain key) {name : String}
    (hname : Name.IsPlain name) (hother : name ≠ config.localBinVar)
    (h : (reference name).toList <:+: (stampPath config view).toList) :
    name ∈ view.tool.varNames := by
  have hrefers : Refers .makefile
      (fun name => name = config.localBinVar ∨ name ∈ view.tool.varNames)
      (stampPath config view) :=
    refers_stampPath (.reference (Name.isPlain_of_isIdentifier hlocal).1 (Or.inl rfl)) hplain
      (fun _ hvar => Or.inr hvar)
  exact (hrefers.mentions name hname h).resolve_left hother

end Names

/-- The URL of a tool as the Makefile defines it. -/
def urlText? (config : Config) (view : ToolView) : Option String :=
  view.tool.installer.fetch?.map
    (fun source => makeText (view.tool.filled .makefile config (depth + 6) source.url))

end Makefile

/-! ## Names of variables -/

namespace Config

/-- The identifiers of the variables of all tools. -/
def toolVarNames (config : Config) : List String :=
  config.tools.values.flatMap Tool.varNames

/-- The identifiers of the shared variables. -/
def sharedVarNames (config : Config) : List String :=
  config.vars.keys.map (Name.scopedIdentifier "")

end Config

namespace Accepted

variable {draft : Draft} {config : Config} {tool other : Tool} {name : String}

/-- No identifier is claimed for two things. -/
theorem origin_eq (h : Accepted draft config) {origin second : Origin}
    (horigin : (name, origin) ∈ Check.identifiers config)
    (hsecond : (name, second) ∈ Check.identifiers config) : origin = second :=
  (Prod.mk.inj (List.inj_on_of_nodup_map h.identifiers_nodup horigin hsecond rfl)).2

end Accepted

namespace Check

variable {config : Config} {tool : Tool} {name : String}

theorem localBinVar_mem_identifiers (config : Config) :
    (config.localBinVar, Origin.localBinVar) ∈ identifiers config :=
  List.mem_cons_self

theorem exists_mem_identifiers_shared (h : name ∈ config.sharedVarNames) :
    ∃ key, (name, Origin.sharedVar key) ∈ identifiers config := by
  obtain ⟨key, hkey, rfl⟩ := List.mem_map.mp h
  exact ⟨key, List.mem_append_left _ (List.mem_cons_of_mem _ (List.mem_map_of_mem hkey))⟩

theorem mem_identifiers_of_mem_tool (htool : tool ∈ config.tools.values) {claim : String × Origin}
    (h : claim ∈ toolIdentifiers tool) : claim ∈ identifiers config :=
  List.mem_append_right _ (List.mem_flatMap.mpr ⟨tool, htool, h⟩)

theorem mem_identifiers_identifier (htool : tool ∈ config.tools.values) :
    (Name.identifier tool.name.text, Origin.tool tool.name.text) ∈ identifiers config :=
  mem_identifiers_of_mem_tool htool (by simp [toolIdentifiers])

theorem exists_mem_identifiers_fetched (htool : tool ∈ config.tools.values)
    (h : name ∈ tool.fetchedNames) :
    ∃ origin, (name, origin) ∈ identifiers config ∧ ∀ owner key, origin ≠ .toolVar owner key := by
  rcases List.mem_append.mp h with hurl | harchive
  · split at hurl
    · next hhas =>
        obtain rfl := List.mem_singleton.mp hurl
        exact ⟨.url tool.name.text, mem_identifiers_of_mem_tool htool
          (by simp [toolIdentifiers, hhas]), by simp⟩
    · exact absurd hurl List.not_mem_nil
  · split at harchive
    · next hhas =>
        obtain rfl := List.mem_singleton.mp harchive
        exact ⟨.archive tool.name.text, mem_identifiers_of_mem_tool htool
          (by simp [toolIdentifiers, hhas]), by simp⟩
    · exact absurd harchive List.not_mem_nil

theorem exists_mem_identifiers_toolVar (htool : tool ∈ config.tools.values)
    (h : name ∈ tool.varNames) :
    ∃ key, (name, Origin.toolVar tool.name.text key) ∈ identifiers config := by
  obtain ⟨key, hkey, rfl⟩ := List.mem_map.mp h
  exact ⟨key, mem_identifiers_of_mem_tool htool
    (List.mem_append_right _ (List.mem_map_of_mem hkey))⟩

end Check

namespace Accepted

variable {draft : Draft} {config : Config} {tool other : Tool} {name : String}

theorem varNames_nodup (h : Accepted draft config) (htool : tool ∈ config.tools.values) :
    tool.varNames.Nodup := by
  have hall := h.identifiers_nodup
  rw [Config.map_fst_identifiers, List.nodup_cons] at hall
  have htools := (List.nodup_append.mp hall.2).2.1
  have hown := (List.nodup_flatMap.mp htools).1 tool htool
  rw [Tool.map_fst_toolIdentifiers] at hown
  exact (List.nodup_append.mp hown).2.1

/-- Shared variables are no variables of tools. -/
theorem notMem_varNames_of_mem_shared (h : Accepted draft config)
    (htool : tool ∈ config.tools.values) (hname : name ∈ config.sharedVarNames) :
    name ≠ config.localBinVar ∧ name ∉ tool.varNames := by
  obtain ⟨key, hshared⟩ := Check.exists_mem_identifiers_shared hname
  constructor
  · rintro rfl
    exact absurd (h.origin_eq hshared (Check.localBinVar_mem_identifiers config)) (by simp)
  · intro hvar
    obtain ⟨own, hown⟩ := Check.exists_mem_identifiers_toolVar htool hvar
    exact absurd (h.origin_eq hshared hown) (by simp)

theorem localBinVar_notMem_varNames (h : Accepted draft config)
    (htool : tool ∈ config.tools.values) : config.localBinVar ∉ tool.varNames := by
  intro hvar
  obtain ⟨key, hown⟩ := Check.exists_mem_identifiers_toolVar htool hvar
  exact absurd (h.origin_eq (Check.localBinVar_mem_identifiers config) hown) (by simp)

/-- A recipe refers to the variables of its own tool alone, among those of all tools. -/
theorem mem_varNames_of_mem_names (h : Accepted draft config)
    (htool : tool ∈ config.tools.values) {runner : Option String}
    (hrunner : ∀ name ∈ runner, name ∈ config.tools.keys)
    (hname : name ∈ Recipe.names config tool runner) (hvar : name ∈ config.toolVarNames) :
    name ∈ tool.varNames := by
  obtain ⟨other, hother, hothers⟩ := List.mem_flatMap.mp hvar
  obtain ⟨key, hclaim⟩ := Check.exists_mem_identifiers_toolVar hother hothers
  have hnot : ∀ origin, (name, origin) ∈ Check.identifiers config →
      origin = .toolVar other.name.text key :=
    fun origin horigin => h.origin_eq horigin hclaim
  simp only [Recipe.names, Recipe.templateNames, List.cons_append, List.mem_cons,
    List.mem_append, Option.mem_toList, Option.map_eq_some_iff] at hname
  rcases hname with rfl | ((hshared | hown) | hself | hfetched) | ⟨runner, hnamed, hself⟩
  · exact absurd (hnot _ (Check.localBinVar_mem_identifiers config)) (by simp)
  · obtain ⟨shared, hshared⟩ := Check.exists_mem_identifiers_shared hshared
    exact absurd (hnot _ hshared) (by simp)
  · exact hown
  · have hclaimed := Check.mem_identifiers_identifier htool
    rw [← hself] at hclaimed
    exact absurd (hnot _ hclaimed) (by simp)
  · obtain ⟨origin, hclaimed, hne⟩ := Check.exists_mem_identifiers_fetched htool hfetched
    exact absurd (hnot _ hclaimed) (hne _ _)
  · obtain ⟨named, hfound⟩ := Dict.exists_get?_of_mem_keys (hrunner runner hnamed)
    have hclaimed := Check.mem_identifiers_identifier (Dict.mem_values_iff.mpr ⟨runner, hfound⟩)
    rw [h.text_name hfound, hself] at hclaimed
    exact absurd (hnot _ hclaimed) (by simp)

end Accepted

/-! ## Variables of installations -/

namespace Plan

/-- The Makefile refers to a variable in the URL or in the recipe of a tool. -/
def InstallsWith (plan : Plan) (view : ToolView) (name : String) : Prop :=
  (∃ url ∈ Makefile.urlText? plan.config view, (Makefile.reference name).toList <:+: url.toList) ∨
    (Makefile.reference name).toList <:+: (plan.nestedRecipe view .makefile).toList

/-- The stamp of a tool follows those of certain variables that the tool is installed with: its
definition refers to them, and each value gives it another name, apart from slashes. -/
structure StampFollows (plan : Plan) (view : ToolView) (names : List String) : Prop where
  refers : ∀ name ∈ names, plan.InstallsWith view name →
    (Makefile.reference name).toList <:+: (Makefile.stampPath plan.config view).toList
  renames : ∀ name ∈ names, plan.InstallsWith view name → ∀ values value,
    (Makefile.stampName plan.config view (Function.update values name value) =
        Makefile.stampName plan.config view values ↔
      Makefile.flattened value = Makefile.flattened (values name))

variable {plan : Plan} {view : ToolView}

theorem mentions_nestedRecipe (h : Legible plan.config view.tool view.runner) :
    Mentions .makefile (· ∈ Recipe.names plan.config view.tool view.runner)
      (plan.nestedRecipe view .makefile).toList := by
  have hrecipe : Refers .makefile (· ∈ Recipe.names plan.config view.tool view.runner)
      (Text.unlines (plan.recipe view .makefile)) :=
    (Recipe.mirrored_lines h Makefile.depth).refers
  refine Mentions.of_isInfix (Mentions.unlines ?_) (Text.nested_isInfix_unlines "" _)
  rw [List.forall_mem_cons, List.forall_mem_map]
  exact ⟨.nil, fun line hline => (hrecipe.mentions.of_mem_splits hline).indented⟩

theorem mem_names_of_installsWith (h : Legible plan.config view.tool view.runner) {name : String}
    (hname : Name.IsPlain name) (hinstalls : plan.InstallsWith view name) :
    name ∈ Recipe.names plan.config view.tool view.runner := by
  rcases hinstalls with ⟨url, hurl, hoccurs⟩ | hoccurs
  · obtain ⟨source, hfetch, rfl⟩ := Option.map_eq_some_iff.mp hurl
    have hrendered : source.url ∈ view.tool.installer.rendered := by
      rw [Installer.rendered_of_fetch? hfetch]
      exact List.mem_cons_self
    have hfilled := Recipe.mirrored_filled h hrendered (Makefile.depth + 4)
    have hrefers : Refers .makefile (· ∈ Recipe.names plan.config view.tool view.runner)
        (makeText (view.tool.filled .makefile plan.config (Makefile.depth + 6) source.url)) :=
      hfilled.refers_makeText
    exact hrefers.mentions name hname hoccurs
  · exact mentions_nestedRecipe h name hname hoccurs

theorem default_url_mem_lines (hview : view ∈ plan.tools)
    (hinstalled : view.tool.installer.isProvided = false) {url : String}
    (hurl : url ∈ Makefile.urlText? plan.config view) (outPath : String) :
    .default (Name.urlIdentifier view.name) url ∈ Makefile.lines plan outPath := by
  obtain ⟨source, hfetch, rfl⟩ := Option.map_eq_some_iff.mp hurl
  refine (toolLines_isInfix_lines hview outPath).subset ?_
  rw [Makefile.toolLines_of_isProvided_eq_false hinstalled, hfetch]
  exact List.mem_cons_of_mem _ (List.mem_append_right _
    (List.mem_append_left _ List.mem_cons_self))

variable {draft : Draft} {config : Config} {provenance : Provenance}

/-- Of all variables, a stamp follows those of tools. -/
theorem stampFollows_of_accepted (h : Accepted draft config)
    (hdollar : ∀ s ∈ config.toJson.texts, '$' ∉ s.toList)
    (htemplates : ∀ tool ∈ config.tools.values, ∀ source ∈ tool.installer.templates,
      tool.IsTemplated config source)
    (hplan : Plan.ofConfig config provenance = .ok plan) (hview : view ∈ plan.tools) :
    plan.StampFollows view config.toolVarNames ∧
      ∀ name ∈ config.sharedVarNames,
        ¬ (Makefile.reference name).toList <:+:
            (Makefile.stampPath plan.config view).toList ∧
          ∀ values value, Makefile.stampName plan.config view (Function.update values name value) =
            Makefile.stampName plan.config view values := by
  obtain ⟨tool, htool, hsame⟩ := Plan.exists_tool_of_mem_tools hplan hview
  have hown : view.tool = tool := by rw [hsame]; rfl
  have hlocal := h.isIdentifier_localBinVar
  have hkeys : ∀ key ∈ view.tool.vars.keys, Name.IsPlain key :=
    fun key hkey => h.isPlain_toolVar htool (hown ▸ hkey)
  have hlegible : Legible config view.tool view.runner := by
    rw [hsame]
    exact Makefile.legible_ofTool h hdollar htool (htemplates tool htool)
  have hrunner : ∀ name ∈ view.runner, name ∈ config.tools.keys := by
    rw [hsame]
    exact fun name hname => ToolView.contains_of_runner hname
  obtain rfl := Plan.config_of_ofConfig hplan
  have hfollowed : ∀ name ∈ plan.config.toolVarNames, plan.InstallsWith view name →
      name ∈ view.tool.varNames := by
    intro name hname hinstalls
    obtain ⟨other, hother, hvar⟩ := List.mem_flatMap.mp hname
    obtain ⟨key, hkey, rfl⟩ := List.mem_map.mp hvar
    have hplain := other.name.isPlain_text.scopedIdentifier (h.isPlain_toolVar hother hkey)
    have hnamed := mem_names_of_installsWith hlegible hplain hinstalls
    rw [hown] at hnamed ⊢
    exact h.mem_varNames_of_mem_names htool hrunner hnamed hname
  have hnodup : view.tool.varNames.Nodup := hown ▸ h.varNames_nodup htool
  have hlocalNot : plan.config.localBinVar ∉ view.tool.varNames :=
    hown ▸ h.localBinVar_notMem_varNames htool
  constructor
  · constructor
    · intro name hname hinstalls
      exact Makefile.reference_isInfix_stampPath (hfollowed name hname hinstalls)
    · intro name hname hinstalls values value
      exact Makefile.stampName_update_eq_iff hlocal hkeys hnodup hlocalNot
        (hfollowed name hname hinstalls) values value
  · intro name hname
    obtain ⟨hne, hnot⟩ := h.notMem_varNames_of_mem_shared htool hname
    rw [← hown] at hnot
    obtain ⟨key, hkey, rfl⟩ := List.mem_map.mp hname
    have hplain : Name.IsPlain (Name.scopedIdentifier "" key) :=
      Name.IsPlain.scopedIdentifier (by decide) (h.isPlain_sharedVar hkey).1
    exact ⟨fun hoccurs => hnot (Makefile.mem_varNames_of_isInfix hlocal hkeys hplain hne hoccurs),
      Makefile.stampName_update_of_notMem hlocal hkeys hne hnot⟩

end Plan

/-- The Makefile of an accepted draft holds the definitions of stamps and URLs and the recipes of the
tools that it installs.  The stamps follow all variables of tools that the tools are installed with.
They follow the shared ones as well exactly where no URL and no recipe refers to one: the name of a
stamp does not depend on those. -/
theorem stampFollows_of_check {draft : Draft} {config : Config} (hok : draft.check = .ok config)
    (hdollar : ∀ s ∈ config.toJson.texts, '$' ∉ s.toList)
    (htemplates : ∀ tool ∈ config.tools.values, ∀ source ∈ tool.installer.templates,
      tool.IsTemplated config source) (provenance : Provenance) :
    ∃ plan, Plan.ofConfig config provenance = .ok plan ∧
      (∀ outPath, plan.emit ArtifactKind.makefile.fragments .makefile outPath =
        .ok (plan.text .makefile outPath)) ∧
      ∀ view ∈ Dockerfile.installed plan,
        (∀ outPath, Makefile.stampLines config view <:+: Makefile.lines plan outPath ∧
          (∀ url ∈ Makefile.urlText? config view,
            .default (Name.urlIdentifier view.name) url ∈ Makefile.lines plan outPath) ∧
          (plan.nestedRecipe view .makefile).toList <:+: (plan.text .makefile outPath).toList) ∧
        plan.StampFollows view config.toolVarNames ∧
        (plan.StampFollows view (config.toolVarNames ++ config.sharedVarNames) ↔
          ∀ name ∈ config.sharedVarNames, ¬ plan.InstallsWith view name) ∧
        ∀ name ∈ config.sharedVarNames, ∀ values value,
          Makefile.stampName config view (Function.update values name value) =
            Makefile.stampName config view values := by
  have h := Draft.check_eq_ok_iff.mp hok
  obtain ⟨plan, hplan⟩ := h.exists_plan provenance
  refine ⟨plan, hplan, fun outPath => h.emit_eq_text hplan htemplates .makefile outPath, ?_⟩
  intro view hview
  obtain ⟨hmem, hfilter⟩ := List.mem_filter.mp hview
  have hinstalled : view.tool.installer.isProvided = false := by simpa using hfilter
  obtain ⟨hfollows, hshared⟩ :=
    Plan.stampFollows_of_accepted h hdollar htemplates hplan hmem
  obtain rfl := Plan.config_of_ofConfig hplan
  refine ⟨fun outPath => ⟨Plan.stampLines_isInfix_lines hmem hinstalled outPath,
    fun url hurl => Plan.default_url_mem_lines hmem hinstalled hurl outPath,
    Plan.nestedRecipe_isInfix hmem hinstalled .makefile outPath⟩, hfollows, ?_,
    fun name hname => (hshared name hname).2⟩
  constructor
  · intro hall name hname hinstalls
    exact (hshared name hname).1 (hall.refers name (List.mem_append_right _ hname) hinstalls)
  · intro hnone
    constructor
    · intro name hname hinstalls
      rcases List.mem_append.mp hname with hvar | hmem
      · exact hfollows.refers name hvar hinstalls
      · exact absurd hinstalls (hnone name hmem)
    · intro name hname hinstalls
      rcases List.mem_append.mp hname with hvar | hmem
      · exact hfollows.renames name hvar hinstalls
      · exact absurd hinstalls (hnone name hmem)

theorem Config.exists_installsWith_packed {provenance : Provenance} {plan : Plan}
    (hplan : Plan.ofConfig Config.packed provenance = .ok plan) :
    ∃ view ∈ Dockerfile.installed plan,
      plan.InstallsWith view "MIRROR" ∧ plan.InstallsWith view "ZAP_VERSION" := by
  have hvalue : zap ∈ packed.tools.values := by decide +kernel
  have hview : ToolView.ofTool packed zap ∈ plan.tools :=
    (Plan.tools_perm hplan).mem_iff.mpr (List.mem_map_of_mem hvalue)
  have hwritten : makeText (zapUrl.filledIn (zap.placeholder .makefile)) =
      "$(MIRROR)/$(ZAP_VERSION).zip" := by decide +kernel
  have hfilled : zap.filled .makefile packed (Makefile.depth + 6)
      "\x7b\x7b global.mirror \x7d\x7d/\x7b\x7b vars.version \x7d\x7d.zip" =
        zapUrl.filledIn (zap.placeholder .makefile) :=
    Tool.filled_eq_filledIn fits_zapUrl source_zapUrl (Makefile.depth + 4)
  have hfetch : (ToolView.ofTool packed zap).tool.installer.fetch? = some
      { url := "\x7b\x7b global.mirror \x7d\x7d/\x7b\x7b vars.version \x7d\x7d.zip"
        archive := some (.zip "bin/zap") } := rfl
  have hurl : Makefile.urlText? plan.config (ToolView.ofTool packed zap) =
      some "$(MIRROR)/$(ZAP_VERSION).zip" := by
    have htool : (ToolView.ofTool packed zap).tool = zap := rfl
    rw [Makefile.urlText?, hfetch, Option.map_some, Plan.config_of_ofConfig hplan, htool, hfilled,
      hwritten]
  have hmirror : (Makefile.reference "MIRROR").toList <:+:
      "$(MIRROR)/$(ZAP_VERSION).zip".toList := by decide +kernel
  have hversion : (Makefile.reference "ZAP_VERSION").toList <:+:
      "$(MIRROR)/$(ZAP_VERSION).zip".toList := by decide +kernel
  have hmem : ToolView.ofTool packed zap ∈ Dockerfile.installed plan :=
    List.mem_filter.mpr ⟨hview, by decide +kernel⟩
  exact ⟨ToolView.ofTool packed zap, hmem, Or.inl ⟨_, hurl, hmirror⟩,
    Or.inl ⟨_, hurl, hversion⟩⟩

theorem stampFollows_packed :
    ∃ plan, Plan.ofConfig Config.packed ⟨"provision.yaml", "00"⟩ = .ok plan ∧
      ∃ view ∈ Dockerfile.installed plan, plan.InstallsWith view "ZAP_VERSION" ∧
        (Makefile.reference "ZAP_VERSION").toList <:+:
          (Makefile.stampPath plan.config view).toList := by
  have hdollar : ∀ s ∈ Config.packed.toJson.texts, '$' ∉ s.toList :=
    fun s hs => (Config.texts_packed s hs).2
  obtain ⟨plan, hplan, -, hviews⟩ := stampFollows_of_check Config.check_packed hdollar
    Config.isTemplated_packed ⟨"provision.yaml", "00"⟩
  obtain ⟨view, hview, -, hversion⟩ := Config.exists_installsWith_packed hplan
  obtain ⟨-, hfollows, -⟩ := hviews view hview
  exact ⟨plan, hplan, view, hview, hversion, hfollows.refers _ (by decide +kernel) hversion⟩

/-- A tool whose URL refers to a shared variable, to which its stamp does not refer: no value of the
variable renames the stamp.  A version with a slash does not either, where there was an underscore
before. -/
theorem not_stampFollows_packed :
    Draft.packed.check = .ok Config.packed ∧
      (∀ s ∈ Config.packed.toJson.texts, '$' ∉ s.toList) ∧
      (∀ tool ∈ Config.packed.tools.values, ∀ source ∈ tool.installer.templates,
        tool.IsTemplated Config.packed source) ∧
      ∃ plan, Plan.ofConfig Config.packed ⟨"provision.yaml", "00"⟩ = .ok plan ∧
        ∃ view ∈ Dockerfile.installed plan,
          (plan.InstallsWith view "MIRROR" ∧ "MIRROR" ∈ Config.packed.sharedVarNames ∧
            ¬ (Makefile.reference "MIRROR").toList <:+:
                (Makefile.stampPath plan.config view).toList ∧
            ∀ values value,
              Makefile.stampName plan.config view (Function.update values "MIRROR" value) =
                Makefile.stampName plan.config view values) ∧
          plan.InstallsWith view "ZAP_VERSION" ∧ "ZAP_VERSION" ∈ Config.packed.toolVarNames ∧
          Makefile.stampName plan.config view
              (Function.update (fun _ => "1_2") "ZAP_VERSION" "1/2") =
            Makefile.stampName plan.config view (fun _ => "1_2") := by
  have hdollar : ∀ s ∈ Config.packed.toJson.texts, '$' ∉ s.toList :=
    fun s hs => (Config.texts_packed s hs).2
  have h := Draft.check_eq_ok_iff.mp Config.check_packed
  obtain ⟨plan, hplan⟩ := h.exists_plan ⟨"provision.yaml", "00"⟩
  obtain ⟨view, hview, hmirror, hversion⟩ := Config.exists_installsWith_packed hplan
  obtain ⟨hfollows, hshared⟩ := Plan.stampFollows_of_accepted h hdollar Config.isTemplated_packed
    hplan (List.mem_filter.mp hview).1
  have hmem : "MIRROR" ∈ Config.packed.sharedVarNames := by decide +kernel
  have hvar : "ZAP_VERSION" ∈ Config.packed.toolVarNames := by decide +kernel
  refine ⟨Config.check_packed, hdollar, Config.isTemplated_packed, plan, hplan, view, hview,
    ⟨hmirror, hmem, hshared _ hmem⟩, hversion, hvar, ?_⟩
  exact (hfollows.renames _ hvar hversion _ _).mpr (by decide +kernel)

end Provision
