import Provision.Proofs.Graph.ClosedWalk
import Provision.Proofs.Manifest.WellFormed
import Provision.Proofs.Name.Start

/-!
# What is wrong with a rejected draft

A draft has a flaw when the names that the flaw is about occur in the draft and are at fault in the
way that the flaw says; nothing here speaks of checks or of their order.  Each check that fails
reports a flaw that the draft has, so a rejected draft has the flaw that it is rejected for.
-/

namespace Provision

open Name

namespace Draft

namespace Tool

/-- The sections that a tool declares an installer in, in the order of the schema. -/
def sections (tool : Draft.Tool) : List String :=
  ["provided", "http", "s3", "pipx", "go", "maven"].filter declares
where
  declares : String → Bool
    | "provided" => tool.provided.isSome
    | "http" => tool.http.isSome
    | "s3" => tool.s3.isSome
    | "pipx" => tool.pipx.isSome
    | "go" => tool.go.isSome
    | "maven" => tool.maven.isSome
    | _ => false

theorem installerSections_eq (tool : Draft.Tool) : tool.installerSections = tool.sections := by
  obtain ⟨provided, http, s3, pipx, go, maven, _, _⟩ := tool
  cases provided <;> cases http <;> cases s3 <;> cases pipx <;> cases go <;> cases maven <;> rfl

/-- A section of a tool from which a file is fetched. -/
inductive Fetches (tool : Draft.Tool) : String → Draft.Fetch → Prop where
  | http {written : Draft.Fetch} (hwritten : tool.http = some written) :
      Fetches tool "http" written
  | s3 {written : Draft.Fetch} (hwritten : tool.s3 = some written) : Fetches tool "s3" written

/-- A field that its section has to have, and what is written there. -/
inductive Requires (tool : Draft.Tool) : String → String → Option String → Prop where
  | url {place : String} {written : Draft.Fetch} (hwritten : tool.Fetches place written) :
      Requires tool place (place ++ ".url") written.url
  | goModule {written : Draft.Go} (hwritten : tool.go = some written) :
      Requires tool "go" "go.module" written.modulePath
  | goVersion {written : Draft.Go} (hwritten : tool.go = some written) :
      Requires tool "go" "go.version" written.version
  | mavenArtifact {written : Draft.Maven} (hwritten : tool.maven = some written) :
      Requires tool "maven" "maven.artifact" written.artifact

/-- What is wrong with a tool of a given name, seen by itself. -/
inductive Has (name : String) (tool : Draft.Tool) : Flaw → Prop where
  | invalidToolName (hname : isName true name = false) : Has name tool (.invalidToolName name)
  | invalidVarKey {key : String} (hkey : key ∈ tool.vars.keys) (hname : isName true key = false) :
      Has name tool (.invalidVarKey (.tool name) key)
  | installerCount (hcount : tool.sections.length ≠ 1) :
      Has name tool (.installerCount name tool.sections)
  | conflictingArchive {place : String} {written : Draft.Fetch} (hsingle : tool.sections = [place])
      (hwritten : tool.Fetches place written) (hzip : written.zip.isSome) (htar : written.tar.isSome) :
      Has name tool (.conflictingArchive name)
  | missingField {place field : String} {value : Option String} (hsingle : tool.sections = [place])
      (hfield : tool.Requires place field value) (hmissing : ¬ IsWritten value) :
      Has name tool (.missingField name field)
  | invalidDependency {entry : String} (hentry : entry ∈ tool.dependsOn)
      (hname : isName true entry = false) : Has name tool (.unknownDependency name entry)
  | duplicateDependency {entry : String} (htwice : 2 ≤ tool.dependsOn.count entry) :
      Has name tool (.duplicateDependency name entry)

end Tool

/-- A name in a draft and where it stands. -/
inductive Names (draft : Draft) : String → Origin → Prop where
  | sharedVar {key : String} (hkey : key ∈ draft.vars.keys) : Names draft key (.sharedVar key)
  | tool {name : String} (hname : name ∈ draft.tools.keys) : Names draft name (.tool name)
  | toolVar {name key : String} {tool : Draft.Tool} (htool : draft.tools.get? name = some tool)
      (hkey : key ∈ tool.vars.keys) : Names draft key (.toolVar name key)
  | toolSet {name : String} (hname : name ∈ draft.toolSets.keys) : Names draft name (.toolSet name)

/-- A variable that the artifacts define and what it is derived from. -/
inductive Defines (draft : Draft) : String → Origin → Prop where
  | localBinVar : Defines draft draft.localBin .localBinVar
  | sharedVar {key : String} (hkey : key ∈ draft.vars.keys) :
      Defines draft (identifier key) (.sharedVar key)
  | tool {name : String} (hname : name ∈ draft.tools.keys) :
      Defines draft (identifier name) (.tool name)
  | stamp {name : String} (hname : name ∈ draft.tools.keys) :
      Defines draft (stampIdentifier name) (.stamp name)
  | url {name place : String} {tool : Draft.Tool} {written : Draft.Fetch}
      (htool : draft.tools.get? name = some tool) (hwritten : tool.Fetches place written) :
      Defines draft (urlIdentifier name) (.url name)
  | archive {name place : String} {tool : Draft.Tool} {written : Draft.Fetch}
      (htool : draft.tools.get? name = some tool) (hwritten : tool.Fetches place written)
      (harchive : written.zip.isSome ∨ written.tar.isSome) :
      Defines draft (archiveIdentifier name) (.archive name)
  | toolVar {name key : String} {tool : Draft.Tool} (htool : draft.tools.get? name = some tool)
      (hkey : key ∈ tool.vars.keys) : Defines draft (scopedIdentifier name key) (.toolVar name key)

/-- A stage of a Dockerfile, without the prefix of the settings, and the tool or tool set that it is
for. -/
inductive Stages (draft : Draft) : String → Origin → Prop where
  | tool {name : String} (hname : name ∈ draft.tools.keys) :
      Stages draft (stage name) (.stage name)
  | toolSet {name : String} (hname : name ∈ draft.toolSets.keys) :
      Stages draft ("set-" ++ stage name) (.stage name)

/-- What is wrong with a draft. -/
inductive Has (draft : Draft) : Flaw → Prop where
  | tool {name : String} {tool : Draft.Tool} {flaw : Flaw}
      (htool : draft.tools.get? name = some tool) (hflaw : tool.Has name flaw) : Has draft flaw
  | invalidToolSetName {set : String} (hset : set ∈ draft.toolSets.keys)
      (hname : isName true set = false) : Has draft (.invalidToolName set)
  | invalidVarKey {key : String} (hkey : key ∈ draft.vars.keys) (hname : isName true key = false) :
      Has draft (.invalidVarKey .shared key)
  | invalidLocalBinVar {name : String} (hname : draft.localBinVar = some name)
      (hidentifier : isIdentifier name = false) : Has draft (.invalidLocalBinVar name)
  | unknownDependency {name entry : String} {tool : Draft.Tool}
      (htool : draft.tools.get? name = some tool) (hentry : entry ∈ tool.dependsOn)
      (hunknown : entry ∉ draft.tools.keys) : Has draft (.unknownDependency name entry)
  | unknownToolSetMember {set member : String} {members : List String}
      (hset : draft.toolSets.get? set = some members) (hmember : member ∈ members)
      (hunknown : member ∉ draft.tools.keys) : Has draft (.unknownToolSetMember set member)
  | toolSetShadowsTool {set : String} (hset : set ∈ draft.toolSets.keys)
      (htool : set ∈ draft.tools.keys) : Has draft (.toolSetShadowsTool set)
  | circularDependency {names : List String} (hcycle : draft.graph.IsCycle names) :
      Has draft (.circularDependency (.path names))
  | emptyIdentifier {name : String} {origin : Origin} (hname : draft.Names name origin)
      (hempty : ∀ c ∈ name.toList, Text.isAlphanumeric c = false) :
      Has draft (.emptyIdentifier origin)
  | definedTwice {id : String} {first second : Origin} (hapart : first ≠ second)
      (hfirst : draft.Defines id first) (hsecond : draft.Defines id second) :
      Has draft (.identifierCollision id first second)
  | stagedTwice {id : String} {first second : Origin} (hapart : first ≠ second)
      (hfirst : draft.Stages id first) (hsecond : draft.Stages id second) :
      Has draft (.identifierCollision id first second)

end Draft

/-! ## Names of variables -/

namespace Check

theorem varKeys_eq_error {owner : VarOwner} {vars : Dict String} {flaw : Flaw}
    (herror : varKeys owner vars = .error flaw) :
    ∃ key ∈ vars.keys, isName true key = false ∧ flaw = .invalidVarKey owner key := by
  obtain ⟨key, hfound, rfl⟩ := Option.map_eq_some_iff.mp (refuse_eq_error_iff.mp herror)
  refine ⟨key, List.mem_of_find?_eq_some hfound, ?_, rfl⟩
  simpa using List.find?_some hfound

/-! ## Installers -/

theorem required_eq_error {tool field : String} {value : Option String} {flaw : Flaw}
    (herror : required tool value field = .error flaw) :
    ¬ IsWritten value ∧ flaw = .missingField tool field := by
  constructor
  · rintro ⟨text, hvalue, hwritten⟩
    rw [required_eq_ok_iff.mpr ⟨hvalue, hwritten⟩] at herror
    contradiction
  · unfold required at herror
    split at herror
    · split at herror
      · exact (Except.error.inj herror).symm
      · contradiction
    · exact (Except.error.inj herror).symm

theorem archive_eq_error {tool : String} {written : Draft.Fetch} {flaw : Flaw}
    (herror : archive tool written = .error flaw) :
    written.zip.isSome ∧ written.tar.isSome ∧ flaw = .conflictingArchive tool := by
  unfold archive at herror
  split at herror
  · next hzip htar =>
      cases herror
      simp [hzip, htar]
  all_goals contradiction

end Check

section Tool

variable {name : String} {tool : Draft.Tool} {flaw : Flaw}

theorem Draft.Tool.has_of_fetch {place : String} {written : Draft.Fetch}
    (hsingle : tool.sections = [place]) (hwritten : tool.Fetches place written)
    (herror : Check.fetch name written (place ++ ".url") = .error flaw) : tool.Has name flaw := by
  unfold Check.fetch at herror
  split at herror
  · next hurl =>
      cases herror
      obtain ⟨hmissing, rfl⟩ := Check.required_eq_error hurl
      exact .missingField hsingle (.url hwritten) hmissing
  · obtain ⟨hzip, htar, rfl⟩ := Check.archive_eq_error (Check.map_eq_error_iff.mp herror)
    exact .conflictingArchive hsingle hwritten hzip htar

theorem Draft.Tool.has_of_goModule {written : Draft.Go} (hsingle : tool.sections = ["go"])
    (hwritten : tool.go = some written) (herror : Check.goModule name written = .error flaw) :
    tool.Has name flaw := by
  unfold Check.goModule at herror
  split at herror
  · next hpath =>
      cases herror
      obtain ⟨hmissing, rfl⟩ := Check.required_eq_error hpath
      exact .missingField hsingle (.goModule hwritten) hmissing
  · obtain ⟨hmissing, rfl⟩ := Check.required_eq_error (Check.map_eq_error_iff.mp herror)
    exact .missingField hsingle (.goVersion hwritten) hmissing

theorem Draft.Tool.has_of_installer (herror : Check.installer name tool = .error flaw) :
    tool.Has name flaw := by
  obtain ⟨provided, http, s3, pipx, go, maven, vars, dependsOn⟩ := tool
  simp only [Check.installer] at herror
  split at herror
  · contradiction
  · exact has_of_fetch rfl (.http rfl) (Check.map_eq_error_iff.mp herror)
  · exact has_of_fetch rfl (.s3 rfl) (Check.map_eq_error_iff.mp herror)
  · contradiction
  · exact has_of_goModule rfl rfl (Check.map_eq_error_iff.mp herror)
  · obtain ⟨hmissing, rfl⟩ := Check.required_eq_error (Check.map_eq_error_iff.mp herror)
    exact .missingField rfl (.mavenArtifact rfl) hmissing
  · cases herror
    rw [installerSections_eq]
    refine .installerCount fun hsingle => ?_
    -- A single section is one of those that were looked at above.
    cases provided <;> cases http <;> cases s3 <;> cases pipx <;> cases go <;> cases maven <;>
      simp [sections, sections.declares] at hsingle
    all_goals simp_all

/-- Dependencies are refused for one that is no name or that has been listed before. -/
theorem Check.dependencies_eq_error {seen : List ToolName} {texts : List String}
    (herror : dependencies name seen texts = .error flaw) :
    ∃ entry, entry ∈ texts ∧
      (isName true entry = false ∧ flaw = .unknownDependency name entry ∨
        2 ≤ (seen.map ToolName.text).count entry + texts.count entry ∧
          flaw = .duplicateDependency name entry) := by
  induction texts generalizing seen with
  | nil => simp [dependencies] at herror
  | cons text rest ih =>
      rw [dependencies] at herror
      split at herror
      · next hname =>
          cases herror
          exact ⟨text, List.mem_cons_self, .inl ⟨ToolName.ofText?_eq_none_iff.mp hname, rfl⟩⟩
      · next dependency hdependency =>
          obtain rfl := ToolName.text_of_ofText? hdependency
          split at herror
          · next hseen =>
              cases herror
              refine ⟨dependency.text, List.mem_cons_self, .inr ⟨?_, rfl⟩⟩
              have hbefore : 0 < (seen.map ToolName.text).count dependency.text :=
                List.count_pos_iff.mpr (List.mem_map_of_mem hseen)
              rw [List.count_cons_self]
              omega
          · obtain ⟨entry, hentry, hflaw⟩ := ih herror
            refine ⟨entry, List.mem_cons_of_mem _ hentry, hflaw.imp_right ?_⟩
            rintro ⟨htwice, rfl⟩
            rw [List.map_cons, List.count_cons] at htwice
            rw [List.count_cons]
            exact ⟨by omega, rfl⟩

theorem Draft.Tool.has_of_tool (herror : Check.tool name tool = .error flaw) :
    tool.Has name flaw := by
  rw [Check.tool] at herror
  split at herror
  · next hname =>
      cases herror
      exact .invalidToolName (ToolName.ofText?_eq_none_iff.mp hname)
  · simp only [Check.bind_eq_error_iff] at herror
    rcases herror with hvars | ⟨-, -, hinstaller | ⟨made, -, hdependencies | ⟨_, -, hdone⟩⟩⟩
    · obtain ⟨key, hkey, hname, rfl⟩ := Check.varKeys_eq_error hvars
      exact .invalidVarKey hkey hname
    · exact has_of_installer hinstaller
    · obtain ⟨entry, hentry, ⟨hname, rfl⟩ | ⟨htwice, rfl⟩⟩ :=
        Check.dependencies_eq_error hdependencies
      · exact .invalidDependency hentry hname
      · exact .duplicateDependency (by simpa using htwice)
    · contradiction

end Tool

/-! ## References -/

namespace Check

variable {tools : Dict Tool} {flaw : Flaw}

theorem danglingDependency?_eq_some {listed : List Tool}
    (hfound : danglingDependency? tools listed = some flaw) :
    ∃ tool ∈ listed, ∃ name ∈ tool.dependencyNames, name ∉ tools.keys ∧
      flaw = .unknownDependency tool.name.text name := by
  induction listed with
  | nil => simp [danglingDependency?] at hfound
  | cons tool rest ih =>
      rw [danglingDependency?] at hfound
      split at hfound
      · next missing hmissing =>
          cases hfound
          have hunknown := List.find?_some hmissing
          rw [Bool.not_eq_true', ← Bool.not_eq_true, Dict.contains_iff] at hunknown
          exact ⟨tool, List.mem_cons_self, missing, List.mem_of_find?_eq_some hmissing, hunknown,
            rfl⟩
      · obtain ⟨other, hother, found⟩ := ih hfound
        exact ⟨other, List.mem_cons_of_mem _ hother, found⟩

theorem members_eq_error {set : String} {found : List ToolName} {texts : List String}
    (herror : members tools set found texts = .error flaw) :
    ∃ member ∈ texts, member ∉ tools.keys ∧ flaw = .unknownToolSetMember set member := by
  induction texts generalizing found with
  | nil => simp [members] at herror
  | cons text rest ih =>
      rw [members] at herror
      split at herror
      · next hnone =>
          cases herror
          exact ⟨text, List.mem_cons_self, Dict.get?_eq_none_iff.mp hnone, rfl⟩
      · obtain ⟨member, hmember, hflaw⟩ := ih herror
        exact ⟨member, List.mem_cons_of_mem _ hmember, hflaw⟩

end Check

section Whole

variable {draft : Draft} {tools : Dict Provision.Tool} {flaw : Flaw}

theorem Draft.has_of_danglingDependency? (hok : draft.tools.traverse Check.tool = .ok tools)
    (hfound : Check.danglingDependency? tools tools.values = some flaw) : draft.Has flaw := by
  obtain ⟨made, hmade, entry, hentry, hunknown, rfl⟩ := Check.danglingDependency?_eq_some hfound
  obtain ⟨name, hname⟩ := Dict.mem_values_iff.mp hmade
  obtain ⟨tool, htool, hchecked⟩ := Dict.get?_of_traverse hok hname
  obtain ⟨rfl, -, -, -, hdependsOn, -⟩ := Check.tool_eq_ok_iff.mp hchecked
  rw [hdependsOn] at hentry
  rw [Dict.keys_of_traverse hok] at hunknown
  exact .unknownDependency htool hentry hunknown

theorem Draft.has_of_toolSet {set : String} {members : List String}
    (hkeys : tools.keys = draft.tools.keys) (hset : draft.toolSets.get? set = some members)
    (herror : Check.toolSet tools set members = .error flaw) : draft.Has flaw := by
  have hmem := Dict.mem_keys_of_get? hset
  rw [Check.toolSet] at herror
  split at herror
  · next hname =>
      cases herror
      exact .invalidToolSetName hmem (ToolName.ofText?_eq_none_iff.mp hname)
  · simp only [Check.bind_eq_error_iff] at herror
    rcases herror with hshadow | ⟨-, -, hmembers | ⟨_, -, hdone⟩⟩
    · obtain ⟨htool, rfl⟩ := Check.require_eq_error_iff.mp hshadow
      rw [Bool.not_eq_false', Dict.contains_iff, hkeys] at htool
      exact .toolSetShadowsTool hmem htool
    · obtain ⟨member, hmember, hunknown, rfl⟩ := Check.members_eq_error hmembers
      exact .unknownToolSetMember hset hmember (hkeys ▸ hunknown)
    · contradiction

/-! ## Derived names -/

variable {config : Config}

/-- The names that identifiers are derived from occur in the draft. -/
theorem Draft.names_of_mem_namedOrigins (hok : draft.tools.traverse Check.tool = .ok config.tools)
    (hvars : config.vars = draft.vars) (hsets : config.toolSets.keys = draft.toolSets.keys)
    {named : String × Origin} (hnamed : named ∈ Check.namedOrigins config) :
    draft.Names named.1 named.2 := by
  simp only [Check.namedOrigins, List.mem_append, List.mem_map, List.mem_flatMap,
    List.mem_cons] at hnamed
  rcases hnamed with (⟨key, hkey, rfl⟩ | ⟨made, hmade, hnamed⟩) | ⟨set, hset, rfl⟩
  · exact .sharedVar (hvars ▸ hkey)
  · obtain ⟨name, hname⟩ := Dict.mem_values_iff.mp hmade
    obtain ⟨tool, htool, hchecked⟩ := Dict.get?_of_traverse hok hname
    obtain ⟨rfl, -, -, hsame, -⟩ := Check.tool_eq_ok_iff.mp hchecked
    rcases hnamed with rfl | ⟨key, hkey, rfl⟩
    · exact .tool (Dict.mem_keys_of_get? htool)
    · exact .toolVar htool (hsame ▸ hkey)
  · exact .toolSet (hsets ▸ hset)

/-- What is fetched for a tool is said in one of its sections. -/
theorem Draft.Tool.exists_fetches {name : String} {tool : Draft.Tool} {made : Installer}
    {source : Provision.Fetch} (hok : Check.installer name tool = .ok made)
    (hfetch : made.fetch? = some source) :
    ∃ place written, tool.Fetches place written ∧
      Check.archive name written = .ok source.archive := by
  rcases fetched_of_installer hok with ⟨-, hnone⟩ | ⟨written, found, hfetched, hsome, harchive⟩
  · rw [hnone] at hfetch
    contradiction
  · obtain rfl := Option.some.inj (hsome.symm.trans hfetch)
    have hmem : written ∈ tool.fetched := by simp [hfetched]
    rw [fetched, List.mem_append, Option.mem_toList, Option.mem_toList] at hmem
    rcases hmem with hhttp | hs3
    · exact ⟨_, written, .http hhttp, harchive⟩
    · exact ⟨_, written, .s3 hs3, harchive⟩

/-- The variables that identifiers are claimed for a tool are those that the draft defines for
it. -/
theorem Draft.defines_of_mem_toolIdentifiers {name : String} {tool : Draft.Tool}
    {made : Provision.Tool} (htool : draft.tools.get? name = some tool)
    (hok : Check.tool name tool = .ok made) {claim : String × Origin}
    (hclaim : claim ∈ Check.toolIdentifiers made) : draft.Defines claim.1 claim.2 := by
  obtain ⟨rfl, -, hinstaller, hvars, -⟩ := Check.tool_eq_ok_iff.mp hok
  have hname := Dict.mem_keys_of_get? htool
  simp only [Check.toolIdentifiers, List.mem_append, List.mem_map, List.mem_cons,
    List.not_mem_nil, or_false] at hclaim
  rcases hclaim with (((rfl | rfl) | hurl) | harchive) | ⟨key, hkey, rfl⟩
  · exact .tool hname
  · exact .stamp hname
  · split at hurl
    · next hfetched =>
        obtain rfl := List.mem_singleton.mp hurl
        obtain ⟨source, hsource⟩ := Option.isSome_iff_exists.mp hfetched
        obtain ⟨place, written, hwritten, -⟩ := Tool.exists_fetches hinstaller hsource
        exact .url htool hwritten
    · contradiction
  · split at harchive
    · next hpacked =>
        obtain rfl := List.mem_singleton.mp harchive
        obtain ⟨packing, hfound⟩ := Option.isSome_iff_exists.mp hpacked
        obtain ⟨source, hsource, hpacking⟩ := Option.bind_eq_some_iff.mp hfound
        obtain ⟨place, written, hwritten, hread⟩ := Tool.exists_fetches hinstaller hsource
        have hsome := (Check.archive_eq_ok_iff.mp hread).2
        refine .archive htool hwritten ?_
        cases hzip : written.zip <;> cases htar : written.tar <;> simp_all
    · contradiction
  · exact .toolVar htool (hvars ▸ hkey)

/-- The names of a draft are valid once its variables, tools and tool sets have passed. -/
theorem Draft.Names.isName {toolSets : Dict ToolSet}
    (hvars : ∀ key ∈ draft.vars.keys, isName true key = true)
    (htools : draft.tools.traverse Check.tool = .ok tools)
    (hsets : draft.toolSets.traverse (Check.toolSet tools) = .ok toolSets) {name : String}
    {origin : Origin} (h : draft.Names name origin) : isName true name = true := by
  cases h with
  | sharedVar hkey => exact hvars name hkey
  | tool hname =>
      obtain ⟨tool, htool⟩ := Dict.exists_get?_of_mem_keys hname
      obtain ⟨made, -, hmade⟩ := Dict.get?_traverse htools htool
      exact (exists_tool_iff.mp ⟨made, hmade⟩).1
  | toolVar htool hkey =>
      obtain ⟨made, -, hmade⟩ := Dict.get?_traverse htools htool
      exact (exists_tool_iff.mp ⟨made, hmade⟩).2.1 name hkey
  | toolSet hname =>
      obtain ⟨members, hmembers⟩ := Dict.exists_get?_of_mem_keys hname
      obtain ⟨made, -, hmade⟩ := Dict.get?_traverse hsets hmembers
      exact ToolName.exists_text_eq_iff.mp ⟨made.name, (Check.toolSet_eq_ok_iff.mp hmade).1⟩

/-- The variables that identifiers are claimed for are those that the draft defines. -/
theorem Draft.defines_of_mem_identifiers (hok : draft.tools.traverse Check.tool = .ok config.tools)
    (hvars : config.vars = draft.vars) (hlocal : config.localBinVar = draft.localBin)
    {claim : String × Origin} (hclaim : claim ∈ Check.identifiers config) :
    draft.Defines claim.1 claim.2 := by
  simp only [Check.identifiers, List.cons_append, List.mem_cons, List.mem_append, List.mem_map,
    List.mem_flatMap] at hclaim
  rcases hclaim with rfl | ⟨key, hkey, rfl⟩ | ⟨made, hmade, hclaim⟩
  · exact hlocal ▸ .localBinVar
  · exact .sharedVar (hvars ▸ hkey)
  · obtain ⟨name, hname⟩ := Dict.mem_values_iff.mp hmade
    obtain ⟨tool, htool, hchecked⟩ := Dict.get?_of_traverse hok hname
    exact defines_of_mem_toolIdentifiers htool hchecked hclaim

theorem Draft.stages_of_mem_stages (htools : config.tools.keys = draft.tools.keys)
    (hsets : config.toolSets.keys = draft.toolSets.keys) {claim : String × Origin}
    (hclaim : claim ∈ Check.stages config) : draft.Stages claim.1 claim.2 := by
  simp only [Check.stages, List.mem_append, List.mem_map] at hclaim
  rcases hclaim with ⟨name, hname, rfl⟩ | ⟨name, hname, rfl⟩
  · exact .tool (htools ▸ hname)
  · exact .toolSet (hsets ▸ hname)

end Whole

/-! ## Sources -/

/-- The tool that a source belongs to. -/
def Origin.owner? : Origin → Option String
  | .tool name => some name
  | .stamp name => some name
  | .url name => some name
  | .archive name => some name
  | .toolVar name _ => some name
  | _ => none

namespace Check

/-- A collision is between two of the claims, which have different sources if all claims do. -/
theorem exists_of_collision?_eq_some {claimed listed : List (String × Origin)} {flaw : Flaw}
    (hsources : (listed.map Prod.snd).Nodup)
    (hfresh : ∀ claim ∈ claimed, claim.2 ∉ listed.map Prod.snd)
    (hfound : collision? claimed listed = some flaw) :
    ∃ id first second, flaw = .identifierCollision id first second ∧ first ≠ second ∧
      (id, first) ∈ claimed ++ listed ∧ (id, second) ∈ listed := by
  induction listed generalizing claimed with
  | nil => simp [collision?] at hfound
  | cons claim rest ih =>
      obtain ⟨id, origin⟩ := claim
      rw [List.map_cons, List.nodup_cons] at hsources
      rw [collision?] at hfound
      split at hfound
      · next first hfirst =>
          cases hfound
          have hclaimed : (id, first) ∈ claimed := by
            obtain ⟨before, after, rfl, -⟩ := List.lookup_eq_some_iff.mp hfirst
            simp
          refine ⟨id, first, origin, rfl, ?_, List.mem_append_left _ hclaimed,
            List.mem_cons_self⟩
          rintro rfl
          exact hfresh _ hclaimed (by simp)
      · have hfresh : ∀ claim ∈ (id, origin) :: claimed, claim.2 ∉ rest.map Prod.snd := by
          refine List.forall_mem_cons.mpr ⟨hsources.1, fun claim hclaim hmem => ?_⟩
          exact hfresh claim hclaim (List.mem_cons_of_mem _ hmem)
        obtain ⟨id, first, second, rfl, hapart, hfirst, hsecond⟩ := ih hsources.2 hfresh hfound
        refine ⟨id, first, second, rfl, hapart, ?_, List.mem_cons_of_mem _ hsecond⟩
        simp only [List.cons_append, List.mem_cons, List.mem_append] at hfirst ⊢
        tauto

/-- The sources of one tool's identifiers, without the identifiers. -/
theorem nodup_sources_toolIdentifiers (tool : Tool) :
    ((toolIdentifiers tool).map Prod.snd).Nodup := by
  have hvars : (tool.vars.keys.map (Origin.toolVar tool.name.text)).Nodup :=
    tool.vars.keys_nodup.map fun _ _ h => (Origin.toolVar.inj h).2
  rw [toolIdentifiers]
  split <;> split <;> simpa [Function.comp_def] using hvars

theorem owner?_of_mem_toolIdentifiers {tool : Tool} {claim : String × Origin}
    (h : claim ∈ toolIdentifiers tool) : claim.2.owner? = some tool.name.text := by
  simp only [toolIdentifiers, List.mem_append, List.mem_map, List.mem_cons, List.not_mem_nil,
    or_false] at h
  rcases h with (((rfl | rfl) | hurl) | harchive) | ⟨key, -, rfl⟩
  · rfl
  · rfl
  · split at hurl
    · obtain rfl := List.mem_singleton.mp hurl
      rfl
    · contradiction
  · split at harchive
    · obtain rfl := List.mem_singleton.mp harchive
      rfl
    · contradiction
  · rfl

/-- No two identifiers are claimed for one source. -/
theorem nodup_sources_identifiers {config : Config}
    (hnames : (config.tools.values.map (fun tool => tool.name.text)).Nodup) :
    ((identifiers config).map Prod.snd).Nodup := by
  have hvars : (config.vars.keys.map Origin.sharedVar).Nodup :=
    config.vars.keys_nodup.map fun _ _ h => Origin.sharedVar.inj h
  have htools : (config.tools.values.flatMap
      (fun tool => (toolIdentifiers tool).map Prod.snd)).Nodup := by
    refine List.nodup_flatMap.mpr ⟨fun tool _ => nodup_sources_toolIdentifiers tool, ?_⟩
    refine (List.pairwise_map.mp hnames).imp fun {first second} hapart origin hfirst hsecond => ?_
    obtain ⟨claim, hclaim, rfl⟩ := List.mem_map.mp hfirst
    obtain ⟨other, hother, hsame⟩ := List.mem_map.mp hsecond
    have howner := owner?_of_mem_toolIdentifiers hclaim
    rw [← hsame, owner?_of_mem_toolIdentifiers hother] at howner
    exact hapart (Option.some.inj howner).symm
  have howned : ∀ origin ∈ config.tools.values.flatMap
      (fun tool => (toolIdentifiers tool).map Prod.snd), origin.owner? ≠ none := by
    intro origin horigin
    obtain ⟨tool, -, hmem⟩ := List.mem_flatMap.mp horigin
    obtain ⟨claim, hclaim, rfl⟩ := List.mem_map.mp hmem
    simp [owner?_of_mem_toolIdentifiers hclaim]
  have hsources : (identifiers config).map Prod.snd =
      .localBinVar :: (config.vars.keys.map Origin.sharedVar ++ config.tools.values.flatMap
        (fun tool => (toolIdentifiers tool).map Prod.snd)) := by
    simp [identifiers, List.map_flatMap, Function.comp_def]
  rw [hsources, List.nodup_cons, List.nodup_append]
  refine ⟨?_, hvars, htools, ?_⟩
  · rw [List.mem_append, not_or]
    exact ⟨by simp, fun hmem => howned _ hmem rfl⟩
  · rintro _ hshared origin howner rfl
    obtain ⟨key, -, rfl⟩ := List.mem_map.mp hshared
    exact howned _ howner rfl

theorem nodup_sources_stages {config : Config}
    (hapart : ∀ name ∈ config.toolSets.keys, name ∉ config.tools.keys) :
    ((stages config).map Prod.snd).Nodup := by
  have hsources : (stages config).map Prod.snd =
      (config.tools.keys ++ config.toolSets.keys).map Origin.stage := by
    simp [stages, Function.comp_def]
  rw [hsources]
  refine List.Nodup.map (fun _ _ h => Origin.stage.inj h) (List.nodup_append.mpr
    ⟨config.tools.keys_nodup, config.toolSets.keys_nodup, ?_⟩)
  rintro name htool _ hset rfl
  exact hapart name hset htool

end Check

section Whole

variable {draft : Draft} {config : Config} {flaw : Flaw}

theorem Draft.has_of_collision_identifiers
    (hok : draft.tools.traverse Check.tool = .ok config.tools) (hvars : config.vars = draft.vars)
    (hlocal : config.localBinVar = draft.localBin)
    (hfound : Check.collision? [] (Check.identifiers config) = some flaw) : draft.Has flaw := by
  have hnames : config.tools.values.map (fun tool => tool.name.text) = config.tools.keys := by
    rw [Dict.values, Dict.keys, List.map_map]
    refine List.map_congr_left fun entry hentry => ?_
    obtain ⟨tool, -, hmade⟩ := Dict.get?_of_traverse hok (Dict.get?_eq_some_iff.mpr hentry)
    exact (Check.tool_eq_ok_iff.mp hmade).1
  obtain ⟨id, first, second, rfl, hapart, hfirst, hsecond⟩ :=
    Check.exists_of_collision?_eq_some
      (Check.nodup_sources_identifiers (hnames ▸ config.tools.keys_nodup)) (by simp) hfound
  exact .definedTwice hapart (defines_of_mem_identifiers hok hvars hlocal hfirst)
    (defines_of_mem_identifiers hok hvars hlocal hsecond)

theorem Draft.has_of_collision_stages (htools : config.tools.keys = draft.tools.keys)
    (hsets : draft.toolSets.traverse (Check.toolSet config.tools) = .ok config.toolSets)
    (hfound : Check.collision? [] (Check.stages config) = some flaw) : draft.Has flaw := by
  have hkeys := Dict.keys_of_traverse hsets
  have hfresh : ∀ name ∈ config.toolSets.keys, name ∉ config.tools.keys := by
    intro name hname
    rw [hkeys] at hname
    obtain ⟨members, hmembers⟩ := Dict.exists_get?_of_mem_keys hname
    obtain ⟨made, -, hmade⟩ := Dict.get?_traverse hsets hmembers
    exact (Check.toolSet_eq_ok_iff.mp hmade).2.1
  obtain ⟨id, first, second, rfl, hapart, hfirst, hsecond⟩ :=
    Check.exists_of_collision?_eq_some (Check.nodup_sources_stages hfresh) (by simp) hfound
  exact .stagedTwice hapart (stages_of_mem_stages htools hkeys hfirst)
    (stages_of_mem_stages htools hkeys hsecond)

/-- A rejected draft has the flaw that it is rejected for. -/
theorem Draft.has_of_check_eq_error (herror : draft.check = .error flaw) : draft.Has flaw := by
  simp only [Draft.check, Check.bind_eq_error_iff, Check.require_eq_error_iff,
    Check.refuse_eq_error_iff, Check.mapError_eq_error_iff] at herror
  -- Each flaw comes after the checks in front of its own have passed.
  rcases herror with ⟨hlocal, rfl⟩ | ⟨-, -, hvars | ⟨_, hvars, htool | ⟨tools, htools,
    hdangling | ⟨-, -, hset | ⟨toolSets, hsets, ⟨loop, hcycle, rfl⟩ | ⟨-, -, hempty | ⟨-, -,
    hidentifiers | ⟨-, -, hstages | ⟨-, -, hdone⟩⟩⟩⟩⟩⟩⟩⟩⟩
  · cases hwritten : draft.localBinVar with
    | none =>
        rw [hwritten] at hlocal
        contradiction
    | some name =>
        rw [hwritten, Option.getD_some] at hlocal
        exact .invalidLocalBinVar hwritten hlocal
  · obtain ⟨key, hkey, hname, rfl⟩ := Check.varKeys_eq_error hvars
    exact .invalidVarKey hkey hname
  · obtain ⟨name, tool, hget, hflaw⟩ := Dict.exists_of_traverse_eq_error htool
    exact .tool hget (Tool.has_of_tool hflaw)
  · exact has_of_danglingDependency? htools hdangling
  · obtain ⟨set, members, hget, hflaw⟩ := Dict.exists_of_traverse_eq_error hset
    exact has_of_toolSet (Dict.keys_of_traverse htools) hget hflaw
  · rw [Config.graph, graph_of_traverse htools] at hcycle
    obtain ⟨names, rfl, hnames⟩ := Graph.exists_cycle_of_checkAcyclic hcycle
    exact .circularDependency hnames
  · obtain ⟨named, hfound, rfl⟩ := Option.map_eq_some_iff.mp hempty
    have hnamed : draft.Names named.1 named.2 := names_of_mem_namedOrigins htools rfl
      (Dict.keys_of_traverse hsets) (List.mem_of_find?_eq_some hfound)
    have hplain := isPlain_of_isName (hnamed.isName (Check.varKeys_eq_ok_iff.mp hvars) htools hsets)
    have hnothing := List.find?_some hfound
    rw [decide_eq_true_eq] at hnothing
    exact .emptyIdentifier hnamed (hplain.identifier_eq_empty_iff.mp hnothing)
  · exact has_of_collision_identifiers htools rfl rfl hidentifiers
  · exact has_of_collision_stages (Dict.keys_of_traverse htools) hsets hstages
  · contradiction

end Whole

/-- Two tools that depend on each other, and two whose names derive one identifier. -/
def Draft.looped : Draft :=
  { tools := .ofList
      [("fmt", { provided := some {}, dependsOn := ["lint"] }),
        ("lint", { provided := some {}, dependsOn := ["fmt"] }),
        ("go-fmt", { provided := some {} }), ("go_fmt", { provided := some {} })] }

theorem Draft.has_looped :
    Draft.looped.check = .error (.circularDependency (.path ["fmt", "lint", "fmt"])) ∧
      Draft.looped.Has (.circularDependency (.path ["fmt", "lint", "fmt"])) := by
  have herror : Draft.looped.check =
      .error (.circularDependency (.path ["fmt", "lint", "fmt"])) := by decide +kernel
  exact ⟨herror, Draft.has_of_check_eq_error herror⟩

end Provision
