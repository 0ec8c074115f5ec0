import Provision.Proofs.Manifest.Check
import Provision.Proofs.Name

/-!
# Configurations written down as manifests

What a check makes of a draft can be written down as a draft again: every installer as the one
section it came from, with all that was filled in, dropped or derived on the way.  Nothing of it is
filled in, dropped or derived differently a second time, and no check refuses what an earlier one
has made, so such a draft makes the configuration that it was written down from.
-/

namespace Provision

/-! ## Writing down -/

namespace Archive

def zip? : Archive → Option Draft.Zip
  | .zip path => some { path := some path }
  | .tar _ _ => none

def tar? : Archive → Option Draft.Tar
  | .zip _ => none
  | .tar compression path => some { compression, path := some path }

end Archive

def Fetch.toDraft (source : Fetch) : Draft.Fetch :=
  { url := some source.url
    zip := source.archive.bind Archive.zip?
    tar := source.archive.bind Archive.tar? }

def PythonApp.toDraft (app : PythonApp) : Draft.Pipx :=
  { package := some app.package, version := app.version, app := some app.app }

/-- The binary of a module is derived and has no field of its own. -/
def GoModule.toDraft (m : GoModule) : Draft.Go :=
  { modulePath := some m.modulePath, subPath := m.subPath, version := some m.version
    env := m.env, flags := m.flags }

/-- A tool that has an installer and nothing else. -/
def Installer.toDraft : Installer → Draft.Tool
  | .provided default => { provided := some { default := some default } }
  | .http source => { http := some source.toDraft }
  | .objectStore source => { s3 := some source.toDraft }
  | .pythonApp app => { pipx := some app.toDraft }
  | .goModule m => { go := some m.toDraft }
  | .maven artifact => { maven := some { artifact := some artifact } }

def Tool.toDraft (tool : Tool) : Draft.Tool :=
  { tool.installer.toDraft with vars := tool.vars, dependsOn := tool.dependencyNames }

def ToolSet.toDraft (set : ToolSet) : List String :=
  set.tools.map ToolName.text

def Config.toDraft (config : Config) : Draft :=
  { vars := config.vars
    localBinVar := some config.localBinVar
    tools := config.tools.mapValues (fun _ tool => tool.toDraft)
    toolSets := config.toolSets.mapValues (fun _ set => set.toDraft)
    commands := config.commands
    dockerfile := config.dockerfile }

/-! ## Checking what was written down -/

namespace Check

theorem nonEmpty?_eq_some_iff {value : Option String} {text : String} :
    nonEmpty? value = some text ↔ value = some text ∧ text ≠ "" := by
  simp [nonEmpty?, Option.filter_eq_some_iff]

theorem nonEmpty?_nonEmpty? (value : Option String) :
    nonEmpty? (nonEmpty? value) = nonEmpty? value := by
  simp [nonEmpty?, Option.filter_filter]

theorem getD_nonEmpty?_ne_empty {tool : String} (htool : tool ≠ "") (value : Option String) :
    (nonEmpty? value).getD tool ≠ "" := by
  cases hvalue : nonEmpty? value with
  | none => exact htool
  | some text => exact (nonEmpty?_eq_some_iff.mp hvalue).2

/-- A path that is not empty stands as it is. -/
theorem getD_nonEmpty?_some {path : String} (hpath : path ≠ "") (tool : String) :
    (nonEmpty? (some path)).getD tool = path := by
  rw [nonEmpty?_eq_some_iff.mpr ⟨rfl, hpath⟩, Option.getD_some]

theorem archive_toDraft {tool : String} (htool : tool ≠ "") {written : Draft.Fetch}
    {source : Fetch} (hok : archive tool written = .ok source.archive) :
    archive tool source.toDraft = .ok source.archive := by
  obtain ⟨-, hpacked⟩ := archive_eq_ok_iff.mp hok
  cases hzip : written.zip with
  | some zip =>
      have hkept := getD_nonEmpty?_some (getD_nonEmpty?_ne_empty htool zip.path) tool
      rw [hzip, Option.map_some, Option.some_or] at hpacked
      simp [archive, Fetch.toDraft, hpacked, Archive.zip?, Archive.tar?, hkept]
  | none =>
      rw [hzip, Option.map_none, Option.none_or] at hpacked
      cases htar : written.tar with
      | some tar =>
          have hkept := getD_nonEmpty?_some (getD_nonEmpty?_ne_empty htool tar.path) tool
          rw [htar, Option.map_some] at hpacked
          simp [archive, Fetch.toDraft, hpacked, Archive.zip?, Archive.tar?, hkept]
      | none =>
          rw [htar, Option.map_none] at hpacked
          simp [archive, Fetch.toDraft, hpacked]

theorem fetch_toDraft {tool field : String} (htool : tool ≠ "") {written : Draft.Fetch}
    {source : Fetch} (hok : fetch tool written field = .ok source) :
    fetch tool source.toDraft field = .ok source := by
  obtain ⟨-, hwritten, hpacked⟩ := fetch_eq_ok_iff.mp hok
  exact fetch_eq_ok_iff.mpr ⟨rfl, hwritten, archive_toDraft htool hpacked⟩

theorem pythonApp_toDraft (tool : String) (written : Draft.Pipx) :
    pythonApp tool (pythonApp tool written).toDraft = pythonApp tool written := by
  simp [pythonApp, PythonApp.toDraft, nonEmpty?_nonEmpty?]

theorem goModule_toDraft {tool : String} {written : Draft.Go} {m : GoModule}
    (hok : goModule tool written = .ok m) : goModule tool m.toDraft = .ok m := by
  obtain ⟨⟨-, hpath⟩, ⟨-, hversion⟩, hsub, -, -, hbinary⟩ := goModule_eq_ok_iff.mp hok
  refine goModule_eq_ok_iff.mpr ⟨⟨rfl, hpath⟩, ⟨rfl, hversion⟩, ?_, rfl, rfl, hbinary⟩
  rw [GoModule.toDraft, hsub, nonEmpty?_nonEmpty?]

theorem installer_toDraft {tool : String} (htool : tool ≠ "") {written : Draft.Tool}
    {made : Installer} (hok : installer tool written = .ok made) :
    installer tool made.toDraft = .ok made := by
  obtain ⟨-, hinstalls⟩ := installer_eq_ok_iff.mp hok
  cases hinstalls with
  | provided hsection => rfl
  | http hsection hsource =>
      exact installer_eq_ok_iff.mpr ⟨rfl, .http rfl (fetch_toDraft htool hsource)⟩
  | objectStore hsection hsource =>
      exact installer_eq_ok_iff.mpr ⟨rfl, .objectStore rfl (fetch_toDraft htool hsource)⟩
  | @pythonApp app hsection =>
      have happ := pythonApp_toDraft tool app
      simp only [installer, Installer.toDraft, happ]
  | goModule hsection hmodule =>
      exact installer_eq_ok_iff.mpr ⟨rfl, .goModule rfl (goModule_toDraft hmodule)⟩
  | maven hsection hartifact =>
      have hwritten := (required_eq_ok_iff.mp hartifact).2
      exact installer_eq_ok_iff.mpr ⟨rfl, .maven rfl (required_eq_ok_iff.mpr ⟨rfl, hwritten⟩)⟩

theorem tool_toDraft {text : String} {written : Draft.Tool} {made : Tool}
    (hok : tool text written = .ok made) : tool text made.toDraft = .ok made := by
  obtain ⟨hname, hvars, hmade, hsame, hnames, hnodup⟩ := tool_eq_ok_iff.mp hok
  have htext : text ≠ "" := hname ▸ made.name.text_ne_empty
  rw [← hsame] at hvars
  rw [← hnames] at hnodup
  exact tool_eq_ok_iff.mpr ⟨hname, hvars, installer_toDraft htext hmade, rfl, rfl, hnodup⟩

/-! ## Tool sets -/

/-- The members of a set are pairwise different. -/
theorem nodup_of_members {tools : Dict Tool} {set : String} {found names : List ToolName}
    {texts : List String} (hfound : found.Nodup) (hok : members tools set found texts = .ok names) :
    names.Nodup := by
  induction texts generalizing found with
  | nil =>
      cases hok
      exact List.nodup_reverse.mpr hfound
  | cons text rest ih =>
      rw [members] at hok
      split at hok
      · contradiction
      · next tool htool =>
          refine ih ?_ hok
          split
          · exact hfound
          · next hnew => exact List.nodup_cons.mpr ⟨hnew, hfound⟩

/-- Tools that are listed once each are the members that are found. -/
theorem members_map_text {tools : Dict Tool} {set : String} {found names : List ToolName}
    (hknown : ∀ name ∈ names, ∃ tool, tools.get? name.text = some tool ∧ tool.name = name)
    (hnodup : names.Nodup) (hnew : ∀ name ∈ names, name ∉ found) :
    members tools set found (names.map ToolName.text) = .ok (found.reverse ++ names) := by
  induction names generalizing found with
  | nil => simp [members]
  | cons name rest ih =>
      obtain ⟨⟨tool, htool, rfl⟩, hothers⟩ := List.forall_mem_cons.mp hknown
      obtain ⟨hfirst, hrest⟩ := List.nodup_cons.mp hnodup
      obtain ⟨hfresh, hlater⟩ := List.forall_mem_cons.mp hnew
      rw [List.map_cons, members, htool]
      simp only [if_neg hfresh]
      rw [ih hothers hrest, List.reverse_cons, List.append_assoc, List.singleton_append]
      intro other hother hmem
      rcases List.mem_cons.mp hmem with rfl | hfound
      · exact hfirst hother
      · exact hlater other hother hfound

end Check

theorem Dict.traverse_mapValues {α β ε : Type} {f : String → α → Except ε β} {g : String → β → α}
    {d : Dict β} (h : ∀ key value, d.get? key = some value → f key (g key value) = .ok value) :
    (d.mapValues g).traverse f = .ok d := by
  rw [traverse_eq_ok_iff, entries_mapValues, List.forall₂_map_left_iff, List.forall₂_same]
  exact fun entry hentry => ⟨rfl, h entry.1 entry.2 (get?_eq_some_iff.mpr hentry)⟩

namespace Accepted

variable {draft : Draft} {config : Config}

theorem toolSet_toDraft (h : Accepted draft config) {name : String} {set : ToolSet}
    (hset : config.toolSets.get? name = some set) :
    Check.toolSet config.tools name set.toDraft = .ok set := by
  obtain ⟨listed, -, hok⟩ := Dict.get?_of_traverse h.toolSets hset
  obtain ⟨hname, hfresh, hmembers⟩ := Check.toolSet_eq_ok_iff.mp hok
  refine Check.toolSet_eq_ok_iff.mpr ⟨hname, hfresh, ?_⟩
  refine Check.members_map_text ?_ (Check.nodup_of_members List.nodup_nil hmembers) (by simp)
  intro member hmember
  obtain ⟨text, tool, htool, rfl⟩ :=
    Check.exists_get?_of_mem_members (by simp) hmembers member hmember
  exact ⟨tool, by rw [h.text_name htool, htool], rfl⟩

theorem toDraft (h : Accepted draft config) : Accepted config.toDraft config where
  vars := rfl
  localBinVar := rfl
  commands := rfl
  dockerfile := rfl
  isIdentifier_localBinVar := h.isIdentifier_localBinVar
  isName_vars := h.isName_vars
  tools := by
    refine Dict.traverse_mapValues fun name tool htool => ?_
    obtain ⟨written, -, hok⟩ := h.exists_draft htool
    exact Check.tool_toDraft hok
  toolSets := Dict.traverse_mapValues fun name set hset => h.toolSet_toDraft hset
  closed := h.closed
  acyclic := h.acyclic
  identifier_ne_empty := h.identifier_ne_empty
  identifiers_nodup := h.identifiers_nodup
  stages_nodup := h.stages_nodup

end Accepted

/-- A configuration that a draft makes is also made by the draft that it is written down as. -/
theorem check_toDraft_of_check {draft : Draft} {config : Config} (hok : draft.check = .ok config) :
    config.toDraft.check = .ok config :=
  Draft.check_eq_ok_iff.mpr (Draft.check_eq_ok_iff.mp hok).toDraft

/-- A draft that leaves out what has a default, writes down what says nothing and repeats itself. -/
def Draft.loose : Draft :=
  { tools := .ofList
      [("gen",
          { go := some
              { modulePath := some "example.org/gen/v2", subPath := some ""
                version := some "v2.1" }
            dependsOn := ["helm"] }),
        ("helm",
          { http := some { url := some "https://example.org", zip := some { path := some "" } } })]
    toolSets := .ofList [("all", ["helm", "gen", "helm"])] }

/-- What the check makes of `Draft.loose`. -/
def Config.tidy : Config :=
  let gen : ToolName := ⟨"gen", by decide⟩
  let helm : ToolName := ⟨"helm", by decide⟩
  { vars := .empty
    localBinVar := "LOCALBIN"
    tools := .ofList
      [("gen",
          { name := gen
            installer := .goModule
              { modulePath := "example.org/gen/v2", subPath := none, version := "v2.1"
                env := .empty, flags := [], binary := "gen" }
            vars := .empty
            dependsOn := [helm] }),
        ("helm",
          { name := helm
            installer := .http { url := "https://example.org", archive := some (.zip "helm") }
            vars := .empty
            dependsOn := [] })]
    toolSets := .ofList [("all", { name := ⟨"all", by decide⟩, tools := [helm, gen] })]
    commands := {}
    dockerfile := {} }

theorem Draft.check_loose : Draft.loose.check = .ok Config.tidy := by
  decide +kernel

theorem check_toDraft_tidy : Config.tidy.toDraft.check = .ok Config.tidy :=
  check_toDraft_of_check Draft.check_loose

end Provision
