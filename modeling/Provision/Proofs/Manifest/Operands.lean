import Mathlib.Tactic.MkIffOfInductiveProp
import Provision.Proofs.Artifact.Values
import Provision.Proofs.Manifest.NormalForm
import Provision.Proofs.Manifest.PackagePath

/-!
# Operands of recipes

The settings of an installer that recipes and definitions put in front of a command or behind it.
A check demands some of them and refuses blanks there; the others have a default, which stands in
for what is not written but not always for what is written blank.  So an operand is blank exactly
where the draft says blanks.
-/

namespace Provision

open Name

namespace Installer

/-- The settings that recipes and definitions use as operands. -/
def operands : Installer → List String
  | .provided default => [default]
  | .http source => source.url :: (source.archive.map Archive.path).toList
  | .objectStore source => source.url :: (source.archive.map Archive.path).toList
  | .pythonApp app => [app.package, app.app]
  | .goModule m => [m.modulePath, m.version, m.binary]
  | .maven artifact => [artifact]

/-- The operands that have no default. -/
def demanded : Installer → List String
  | .provided _ => []
  | .http source => [source.url]
  | .objectStore source => [source.url]
  | .pythonApp _ => []
  | .goModule m => [m.modulePath, m.version]
  | .maven artifact => [artifact]

end Installer

/-! ## Blank settings of a draft -/

/-- What is written, if anything, is more than blanks. -/
def NotBlank (value : Option String) : Prop :=
  ∀ text, value = some text → Text.isBlankText text = false

/-- What is written, if anything, is nothing at all or more than blanks. -/
def EmptyOrNotBlank (value : Option String) : Prop :=
  NotBlank (Check.nonEmpty? value)

namespace Draft

@[mk_iff] structure Fetch.Solid (written : Draft.Fetch) : Prop where
  zip : ∀ zip, written.zip = some zip → EmptyOrNotBlank zip.path
  tar : ∀ tar, written.tar = some tar → EmptyOrNotBlank tar.path

@[mk_iff] structure Pipx.Solid (written : Draft.Pipx) : Prop where
  package : NotBlank written.package
  app : NotBlank written.app

def Go.Solid (written : Draft.Go) : Prop :=
  ∀ modulePath, written.modulePath = some modulePath →
    ¬ GoPackage.Nameless (GoPackage.path modulePath written.subPath).toList

/-- Nothing blank is written in the place of a default, and the path of a package names its
binary. -/
@[mk_iff] structure Tool.Solid (tool : Draft.Tool) : Prop where
  provided : ∀ written, tool.provided = some written → NotBlank written.default
  http : ∀ written, tool.http = some written → written.Solid
  s3 : ∀ written, tool.s3 = some written → written.Solid
  pipx : ∀ written, tool.pipx = some written → written.Solid
  go : ∀ written, tool.go = some written → written.Solid

end Draft

/-! ## One tool -/

theorem ToolName.isBlankText_text (name : ToolName) : Text.isBlankText name.text = false := by
  have hne : name.text.toList ≠ [] := fun hnil => name.text_ne_empty (String.toList_inj.mp hnil)
  obtain ⟨c, rest, htext⟩ := List.exists_cons_of_ne_nil hne
  have hc : Text.isBlank c = false :=
    isBlank_of_isNameChar (name.isPlain_text c (htext ▸ List.mem_cons_self))
  simp [Text.isBlankText, htext, hc]

theorem GoPackage.path_nonEmpty? (modulePath : String) (subPath : Option String) :
    GoPackage.path modulePath (Check.nonEmpty? subPath) = GoPackage.path modulePath subPath := by
  cases subPath with
  | none => rfl
  | some sub =>
      by_cases hsub : sub = "" <;> simp [Check.nonEmpty?, Option.filter, GoPackage.path, hsub]

namespace Check

variable {tool : String} {written : Draft.Tool} {made : Installer}

theorem isBlankText_getD_iff (htool : Text.isBlankText tool = false) {value : Option String} :
    Text.isBlankText (value.getD tool) = false ↔ NotBlank value := by
  cases value <;> simp [NotBlank, htool]

theorem paths_of_archive (htool : Text.isBlankText tool = false) {written : Draft.Fetch}
    {found : Option Archive} (hok : archive tool written = .ok found) :
    (∀ path ∈ (found.map Archive.path).toList, Text.isBlankText path = false) ↔
      written.Solid := by
  obtain ⟨hone, rfl⟩ := archive_eq_ok_iff.mp hok
  rw [Draft.Fetch.solid_iff]
  cases hzip : written.zip <;> cases htar : written.tar
  · simp
  · simp [Archive.path, isBlankText_getD_iff htool, EmptyOrNotBlank]
  · simp [Archive.path, isBlankText_getD_iff htool, EmptyOrNotBlank]
  · simp [hzip, htar] at hone

theorem texts_of_fetch (htool : Text.isBlankText tool = false) {written : Draft.Fetch}
    {field : String} {source : Fetch} (hok : fetch tool written field = .ok source) :
    Text.isBlankText source.url = false ∧
      ((∀ path ∈ (source.archive.map Archive.path).toList, Text.isBlankText path = false) ↔
        written.Solid) := by
  obtain ⟨-, hurl, hpacked⟩ := fetch_eq_ok_iff.mp hok
  exact ⟨hurl, paths_of_archive htool hpacked⟩

theorem texts_of_goModule {written : Draft.Go} {m : GoModule}
    (hok : goModule tool written = .ok m) :
    Text.isBlankText m.modulePath = false ∧ Text.isBlankText m.version = false ∧
      (Text.isBlankText m.binary = false ↔ written.Solid) := by
  obtain ⟨⟨hmodule, hpath⟩, ⟨-, hversion⟩, hsub, -, -, hbinary⟩ := goModule_eq_ok_iff.mp hok
  refine ⟨hpath, hversion, ?_⟩
  rw [hbinary, GoModule.package, hsub, GoPackage.path_nonEmpty?, ← Bool.not_eq_true,
    GoPackage.isBlankText_binaryName_iff]
  simp [Draft.Go.Solid, hmodule]

theorem texts_of_installer (htool : Text.isBlankText tool = false)
    (hok : installer tool written = .ok made) :
    (∀ text ∈ made.demanded, Text.isBlankText text = false) ∧
      ((∀ text ∈ made.operands, Text.isBlankText text = false) ↔ written.Solid) := by
  rw [Draft.Tool.solid_iff]
  obtain ⟨provided, http, s3, pipx, go, maven, vars, dependsOn⟩ := written
  simp only [installer] at hok
  split at hok
  · cases hok
    simp [Installer.demanded, Installer.operands, isBlankText_getD_iff htool]
  · obtain ⟨source, hsource, rfl⟩ := map_eq_ok_iff.mp hok
    obtain ⟨hurl, hpaths⟩ := texts_of_fetch htool hsource
    simpa [Installer.demanded, Installer.operands, hurl] using hpaths
  · obtain ⟨source, hsource, rfl⟩ := map_eq_ok_iff.mp hok
    obtain ⟨hurl, hpaths⟩ := texts_of_fetch htool hsource
    simpa [Installer.demanded, Installer.operands, hurl] using hpaths
  · next pipx =>
      cases hok
      simp [Installer.demanded, Installer.operands, pythonApp, isBlankText_getD_iff htool,
        Draft.Pipx.solid_iff]
  · obtain ⟨m, hmodule, rfl⟩ := map_eq_ok_iff.mp hok
    obtain ⟨hpath, hversion, hbinary⟩ := texts_of_goModule hmodule
    simpa [Installer.demanded, Installer.operands, hpath, hversion] using hbinary
  · obtain ⟨artifact, hartifact, rfl⟩ := map_eq_ok_iff.mp hok
    simp [Installer.demanded, Installer.operands, (required_eq_ok_iff.mp hartifact).2]
  · contradiction

end Check

/-! ## All tools -/

/-- An operand without a default is more than blanks.  The others are so as well exactly if the
draft has nothing blank in the place of a default. -/
theorem operands_of_check {draft : Draft} {config : Config} (hok : draft.check = .ok config) :
    (∀ tool ∈ config.tools.values, ∀ text ∈ tool.installer.demanded,
        Text.isBlankText text = false) ∧
      ((∀ tool ∈ config.tools.values, ∀ text ∈ tool.installer.operands,
          Text.isBlankText text = false) ↔
        ∀ name written, draft.tools.get? name = some written → written.Solid) := by
  have haccepted := Draft.check_eq_ok_iff.mp hok
  have htexts : ∀ {name : String} {written : Draft.Tool} {tool : Tool},
      Check.tool name written = .ok tool →
        (∀ text ∈ tool.installer.demanded, Text.isBlankText text = false) ∧
          ((∀ text ∈ tool.installer.operands, Text.isBlankText text = false) ↔
            written.Solid) := by
    intro name written tool hmade
    obtain ⟨rfl, -, hinstaller, -⟩ := Check.tool_eq_ok_iff.mp hmade
    exact Check.texts_of_installer tool.name.isBlankText_text hinstaller
  simp only [Dict.mem_values_iff]
  refine ⟨?_, ?_, ?_⟩
  · rintro tool ⟨name, htool⟩
    obtain ⟨written, -, hmade⟩ := haccepted.exists_draft htool
    exact (htexts hmade).1
  · intro hall name written hwritten
    obtain ⟨tool, htool, hmade⟩ := haccepted.exists_made hwritten
    exact (htexts hmade).2.mp (hall tool ⟨name, htool⟩)
  · rintro hsolid tool ⟨name, htool⟩
    obtain ⟨written, hwritten, hmade⟩ := haccepted.exists_draft htool
    exact (htexts hmade).2.mpr (hsolid name written hwritten)

theorem operands_tidy :
    (∀ tool ∈ Config.tidy.tools.values, ∀ text ∈ tool.installer.demanded,
        Text.isBlankText text = false) ∧
      ((∀ tool ∈ Config.tidy.tools.values, ∀ text ∈ tool.installer.operands,
          Text.isBlankText text = false) ↔
        ∀ name written, Draft.loose.tools.get? name = some written → written.Solid) :=
  operands_of_check Draft.check_loose

/-- Tools with nothing and with blanks in the place of a default, and with nothing in the place of the
name of a package. -/
def Draft.blanked : Draft :=
  { tools := .ofList
      [("black", { pipx := some { package := some "", app := some " " } }),
        ("vgo", { go := some { modulePath := some "/", version := some "v1" } })] }

/-- What the check makes of `Draft.blanked`. -/
def Config.blanked : Config :=
  { vars := .empty
    localBinVar := "LOCALBIN"
    tools := .ofList
      [("black",
          { name := ⟨"black", by decide⟩
            installer := .pythonApp { package := "", version := none, app := " " }
            vars := .empty
            dependsOn := [] }),
        ("vgo",
          { name := ⟨"vgo", by decide⟩
            installer := .goModule
              { modulePath := "/", subPath := none, version := "v1", env := .empty, flags := []
                binary := "" }
            vars := .empty
            dependsOn := [] })]
    toolSets := .empty
    commands := {}
    dockerfile := {} }

theorem not_operands_blanked :
    Draft.blanked.check = .ok Config.blanked ∧
      ¬ ∀ tool ∈ Config.blanked.tools.values, ∀ text ∈ tool.installer.operands,
        Text.isBlankText text = false := by
  decide +kernel

end Provision
