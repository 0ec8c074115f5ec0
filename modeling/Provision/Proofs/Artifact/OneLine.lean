import Provision.Proofs.Artifact.Literal
import Provision.Proofs.Artifact.Runner
import Provision.Proofs.Artifact.Templated

/-!
# Texts of one line

Names and what is derived from them are written on one line in every artifact.  So are the other
texts of a configuration, provided that they are of one line there.
-/

namespace Provision

/-- A text has no line end in it. -/
def OneLine (s : String) : Prop :=
  '\n' ∉ s.toList

instance : DecidablePred OneLine :=
  fun s => inferInstanceAs (Decidable ('\n' ∉ s.toList))

namespace OneLine

@[simp] theorem append_iff {s t : String} : OneLine (s ++ t) ↔ OneLine s ∧ OneLine t := by
  simp [OneLine]

@[simp] theorem join_iff {texts : List String} :
    OneLine (String.join texts) ↔ ∀ s ∈ texts, OneLine s := by
  simp [OneLine]

end OneLine

theorem Name.IsPlain.oneLine {text : String} (h : Name.IsPlain text) : OneLine text := by
  intro hmem
  exact absurd (h '\n' hmem) (by decide)

theorem Name.IsPlain.dollar_notMem {text : String} (h : Name.IsPlain text) : '$' ∉ text.toList :=
  fun hmem => absurd (h '$' hmem) (by decide)

theorem oneLine_of_mem_splits {s line : String} (h : line ∈ Text.splits s) : OneLine line := by
  obtain ⟨piece, hpiece, rfl⟩ := List.mem_map.mp h
  rw [OneLine, String.toList_ofList]
  exact Text.notMem_of_mem_pieces hpiece

/-! ## Literal values -/

theorem oneLine_makeText {s : String} (h : OneLine s) : OneLine (makeText s) := by
  rw [OneLine, makeText, String.toList_ofList, mem_makeValue_iff (by decide)]
  exact h

/-- A line end in a build argument is escaped. -/
theorem oneLine_argText (s : String) : OneLine (argText s) := by
  rw [OneLine, argText, String.toList_ofList]
  exact notMem_argValue (by decide) (by decide) s.toList

theorem Digest.isNameChar_of_mem_hex {bytes : List UInt8} {c : Char} (h : c ∈ hex bytes) :
    Name.isNameChar true c = true := by
  have hall : ∀ code < 256, ∀ c ∈ hex [UInt8.ofNat code], Name.isNameChar true c = true := by
    decide +kernel
  obtain ⟨byte, -, hbyte⟩ := List.mem_flatMap.mp h
  apply hall byte.toNat byte.toNat_lt
  rw [UInt8.ofNat_toNat, hex, List.flatMap_singleton]
  exact hbyte

theorem Installer.isPlain_digest (installer : Installer) : Name.IsPlain installer.digest := by
  intro c hc
  rw [digest, String.toList_ofList] at hc
  have hdigest := List.mem_of_mem_take hc
  rw [Digest.ofText, String.toList_ofList] at hdigest
  exact Digest.isNameChar_of_mem_hex hdigest

theorem Archive.isPlain_kind (archive : Archive) : Name.IsPlain archive.kind := by
  cases archive <;> simp only [kind] <;> decide

theorem Installer.isPlain_kind (installer : Installer) : Name.IsPlain installer.kind := by
  cases installer <;> simp only [kind] <;> decide

theorem oneLine_reference {kind : ArtifactKind} {name : String} (h : Name.IsPlain name) :
    OneLine (kind.reference name) := by
  have hname := h.oneLine
  cases kind <;>
    exact OneLine.append_iff.mpr ⟨OneLine.append_iff.mpr ⟨by decide, hname⟩, by decide⟩

theorem Tool.oneLine_filled {kind : ArtifactKind} {config : Config} {tool : Tool} {source : String}
    (h : tool.IsTemplated config source) (hsource : OneLine source) (depth : Nat) :
    OneLine (tool.filled kind config (depth + 2) source) := by
  obtain ⟨t, heq, hfits⟩ := h
  rw [filled_eq_filledIn hfits heq]
  rw [OneLine, ← heq] at hsource
  clear heq
  induction t with
  | text cs =>
      rw [Template.InlineText.filledIn, OneLine, String.toList_ofList]
      exact hsource
  | refer cs scope key rest ih =>
      obtain ⟨-, hkey, -, hrest⟩ := hfits
      obtain ⟨hplain, -⟩ := Name.isPlain_of_isIdentifier hkey
      have hempty : Name.IsPlain "" := by decide
      simp only [Template.InlineText.source, List.mem_append, List.mem_cons, not_or] at hsource
      rw [Template.InlineText.filledIn, OneLine.append_iff, OneLine.append_iff]
      refine ⟨?_, ?_, ih hsource.2.2.2.2 hrest⟩
      · rw [OneLine, String.toList_ofList]
        exact hsource.1
      · cases scope with
        | own => exact oneLine_reference (tool.name.isPlain_text.scopedIdentifier hplain)
        | shared => exact oneLine_reference (hempty.scopedIdentifier hplain)

/-! ## Texts of a configuration -/

namespace Json

mutual

/-- All texts in a structured value, the names of its fields among them. -/
def texts : Json → List String
  | .str s => [s]
  | .arr items => itemTexts items
  | .obj fields => fieldTexts fields
  | _ => []

def itemTexts : List Json → List String
  | [] => []
  | item :: rest => item.texts ++ itemTexts rest

def fieldTexts : List (String × Json) → List String
  | [] => []
  | (name, json) :: rest => name :: (json.texts ++ fieldTexts rest)

end

theorem texts_subset_of_mem {fields : List (String × Json)} (name : String) {json : Json}
    (h : (name, json) ∈ fields) : json.texts ⊆ (obj fields).texts := by
  intro s hs
  rw [texts]
  induction fields with
  | nil => exact absurd h List.not_mem_nil
  | cons first rest ih =>
      rw [fieldTexts]
      apply List.mem_cons_of_mem
      rcases List.mem_cons.mp h with rfl | hrest
      · exact List.mem_append_left _ hs
      · exact List.mem_append_right _ (ih hrest)

theorem mem_texts_of_mem {fields : List (String × Json)} (name : String) {s : String}
    (h : (name, .str s) ∈ fields) : s ∈ (obj fields).texts := by
  apply texts_subset_of_mem name h
  rw [texts]
  exact List.mem_singleton_self s

theorem mem_texts_strings {texts : List String} {s : String} (h : s ∈ texts) :
    s ∈ (strings texts).texts := by
  rw [strings, Json.texts]
  induction texts with
  | nil => exact absurd h List.not_mem_nil
  | cons first rest ih =>
      rw [List.map_cons, itemTexts, Json.texts, List.mem_append]
      exact (List.mem_cons.mp h).imp List.mem_singleton.mpr ih

end Json

theorem Json.mem_texts_of_mem_names {fields : List (String × Json)} {name : String}
    (h : name ∈ fields.map Prod.fst) : name ∈ (obj fields).texts := by
  rw [texts]
  induction fields with
  | nil => exact absurd h List.not_mem_nil
  | cons first rest ih =>
      rw [fieldTexts]
      rcases List.mem_cons.mp h with rfl | hrest
      · exact List.mem_cons_self
      · exact List.mem_cons_of_mem _ (List.mem_append_right _ (ih hrest))

theorem Dict.mem_texts_of_mem_keys {d : Dict String} {key : String} (h : key ∈ d.keys) :
    key ∈ d.toJson.texts := by
  apply Json.mem_texts_of_mem_names
  rw [List.map_map]
  exact h

theorem Dict.mem_texts_of_mem_values {d : Dict String} {value : String} (h : value ∈ d.values) :
    value ∈ d.toJson.texts := by
  obtain ⟨⟨key, _⟩, hentry, rfl⟩ := List.mem_map.mp h
  exact Json.mem_texts_of_mem key (List.mem_map.mpr ⟨_, hentry, rfl⟩)

namespace Config

variable {config : Config} {tool : Tool}

theorem texts_vars_subset (config : Config) : config.vars.toJson.texts ⊆ config.toJson.texts := by
  rw [toJson]
  exact Json.texts_subset_of_mem "vars" (by simp)

theorem texts_commands_subset (config : Config) :
    config.commands.toJson.texts ⊆ config.toJson.texts := by
  rw [toJson]
  exact Json.texts_subset_of_mem "commands" (by simp)

theorem command_mem_texts (field : String × String) (h : field ∈ config.commands.fields) :
    field.2 ∈ config.toJson.texts :=
  config.texts_commands_subset (Json.mem_texts_of_mem field.1 (List.mem_map_of_mem h))

theorem texts_tool_subset (h : tool ∈ config.tools.values) :
    tool.toJson.texts ⊆ config.toJson.texts := by
  obtain ⟨⟨name, _⟩, hentry, rfl⟩ := List.mem_map.mp h
  have houter :
      (Json.obj (config.tools.entries.map (fun entry => (entry.1, entry.2.toJson)))).texts ⊆
        config.toJson.texts := by
    rw [toJson]
    exact Json.texts_subset_of_mem "tools" (by simp)
  exact List.Subset.trans
    (Json.texts_subset_of_mem name (List.mem_map.mpr ⟨_, hentry, rfl⟩)) houter

/-- What the lines of all artifacts take from a configuration is written on one line. -/
structure OneLined (config : Config) : Prop where
  isIdentifier_localBinVar : Name.isIdentifier config.localBinVar = true
  isPlain_vars : ∀ key ∈ config.vars.keys, Name.IsPlain key
  identifier_ne_empty : ∀ key ∈ config.vars.keys, Name.identifier key ≠ ""
  values : ∀ value ∈ config.vars.values, OneLine value
  mkdir : OneLine config.commands.mkdir
  rm : OneLine config.commands.rm
  touch : OneLine config.commands.touch

end Config

namespace Tool

theorem texts_vars_subset (tool : Tool) : tool.vars.toJson.texts ⊆ tool.toJson.texts := by
  rw [toJson]
  exact Json.texts_subset_of_mem "vars" (by simp)

theorem texts_installer_subset (tool : Tool) :
    tool.installer.toJson.texts ⊆ tool.toJson.texts := by
  rw [toJson]
  exact Json.texts_subset_of_mem "installer" (by simp)

end Tool

/-- What the lines of all artifacts take from a tool is written on one line. -/
structure ToolView.OneLined (view : ToolView) : Prop where
  identifier_ne_empty : Name.identifier view.name ≠ ""
  isPlain_vars : ∀ key ∈ view.tool.vars.keys, Name.IsPlain key
  isPlain_prerequisites : ∀ name ∈ view.prerequisites, Name.IsPlain name
  values : ∀ value ∈ view.tool.vars.values, OneLine value
  default : ∀ default, view.tool.installer = .provided default → OneLine default
  url : ∀ source, view.tool.installer.fetch? = some source → OneLine source.url

namespace ToolView

theorem isPlain_of_runner {config : Config} {tool : Tool} {runner : String}
    (h : (ofTool config tool).runner = some runner) : Name.IsPlain runner ∧ runner ≠ "" := by
  have hrunner : tool.installer.runner? = some runner := (Option.filter_eq_some_iff.mp h).1
  cases hinstaller : tool.installer <;> rw [hinstaller] at hrunner <;> cases hrunner <;> decide

theorem isPlain_of_mem_prerequisites {config : Config} {tool : Tool} {name : String}
    (h : name ∈ (ofTool config tool).prerequisites) : Name.IsPlain name := by
  rcases mem_prerequisites_iff.mp h with hdependency | hrunner
  · obtain ⟨dependency, -, rfl⟩ := List.mem_map.mp hdependency
    exact dependency.isPlain_text
  · exact (isPlain_of_runner hrunner).1

end ToolView

namespace Accepted

variable {draft : Draft} {config : Config}

theorem isPlain_sharedVar (h : Accepted draft config) {key : String}
    (hkey : key ∈ config.vars.keys) : Name.IsPlain key ∧ Name.identifier key ≠ "" := by
  refine ⟨Name.isPlain_of_isName (h.isName_vars key hkey), ?_⟩
  apply h.identifier_ne_empty (key, .sharedVar key)
  simp [Check.namedOrigins, hkey]

theorem isPlain_toolVar (h : Accepted draft config) {tool : Tool}
    (htool : tool ∈ config.tools.values) {key : String} (hkey : key ∈ tool.vars.keys) :
    Name.IsPlain key := by
  obtain ⟨name, hname⟩ := Dict.mem_values_iff.mp htool
  obtain ⟨written, -, hok⟩ := h.exists_draft hname
  obtain ⟨-, hkeys, -, hvars, -⟩ := Check.tool_eq_ok_iff.mp hok
  rw [← hvars] at hkeys
  exact Name.isPlain_of_isName (hkeys key hkey)

theorem identifier_tool_ne_empty (h : Accepted draft config) {tool : Tool}
    (htool : tool ∈ config.tools.values) : Name.identifier tool.name.text ≠ "" := by
  apply h.identifier_ne_empty (tool.name.text, .tool tool.name.text)
  simp only [Check.namedOrigins, List.mem_append, List.mem_flatMap]
  exact Or.inl (Or.inr ⟨tool, htool, List.mem_cons_self⟩)

theorem oneLined (h : Accepted draft config) (hlines : ∀ s ∈ config.toJson.texts, OneLine s) :
    config.OneLined := by
  have hcommand : ∀ field ∈ config.commands.fields, OneLine field.2 :=
    fun field hfield => hlines _ (Config.command_mem_texts field hfield)
  constructor
  · exact h.isIdentifier_localBinVar
  · exact fun key hkey => (h.isPlain_sharedVar hkey).1
  · exact fun key hkey => (h.isPlain_sharedVar hkey).2
  · intro value hvalue
    exact hlines value (config.texts_vars_subset (Dict.mem_texts_of_mem_values hvalue))
  · exact hcommand ("mkdir", config.commands.mkdir) (by simp [Commands.fields])
  · exact hcommand ("rm", config.commands.rm) (by simp [Commands.fields])
  · exact hcommand ("touch", config.commands.touch) (by simp [Commands.fields])

theorem oneLined_view (h : Accepted draft config) (hlines : ∀ s ∈ config.toJson.texts, OneLine s)
    {tool : Tool} (htool : tool ∈ config.tools.values) :
    (ToolView.ofTool config tool).OneLined := by
  have htexts : ∀ s ∈ tool.toJson.texts, OneLine s :=
    fun s hs => hlines s (Config.texts_tool_subset htool hs)
  have hinstaller : ∀ s ∈ tool.installer.toJson.texts, OneLine s :=
    fun s hs => htexts s (tool.texts_installer_subset hs)
  constructor
  · exact h.identifier_tool_ne_empty htool
  · exact fun key hkey => h.isPlain_toolVar htool hkey
  · exact fun name hname => ToolView.isPlain_of_mem_prerequisites hname
  · intro value hvalue
    exact htexts value (tool.texts_vars_subset (Dict.mem_texts_of_mem_values hvalue))
  · intro default hdefault
    apply hinstaller
    rw [show tool.installer = .provided default from hdefault, Installer.toJson]
    exact Json.mem_texts_of_mem "default" (by simp [Installer.settings])
  · intro source hsource
    apply hinstaller
    rw [Installer.toJson]
    apply Json.mem_texts_of_mem "url"
    cases hkind : tool.installer <;> rw [ToolView.ofTool, hkind] at hsource <;> cases hsource <;>
      simp [Installer.settings, Installer.fetchFields]

end Accepted

end Provision
