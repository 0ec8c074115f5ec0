import Provision.Proofs.Artifact.Bodies
import Provision.Proofs.Name
import Provision.Proofs.Template.Rendering
import Provision.Proofs.Text.Lines

/-!
# What fragments find in a plan

The structured values that fragments are given, as the settings that they find there under their
names, and what filters and helpers make of them.
-/

namespace Provision

open Template Template.Value

/-! ## Texts -/

def makeText (s : String) : String := String.ofList (makeValue s.toList)

def argText (s : String) : String := String.ofList (argValue s.toList)

theorem endsSolid_argText (s : String) : Text.EndsSolid (argText s) := by
  unfold Text.EndsSolid argText argValue
  rw [String.toList_ofList]
  split
  · exact ⟨'"' :: s.toList.flatMap Json.escape, '"', rfl, by decide⟩
  · next hplain =>
      unfold needsQuotes at hplain
      simp only [Bool.or_eq_true, not_or, List.isEmpty_iff, List.any_eq_true, not_exists,
        not_and] at hplain
      obtain ⟨front, c, hs⟩ := (List.eq_nil_or_concat' s.toList).resolve_left hplain.1
      have hc := hplain.2 c (by simp [hs])
      exact ⟨front, c, hs, by simpa using hc.1.1.1⟩

theorem ToolName.endsSolid (name : ToolName) : Text.EndsSolid name.text := by
  have hne : name.text.toList ≠ [] := fun hnil => name.text_ne_empty (String.toList_inj.mp hnil)
  obtain ⟨front, c, hs⟩ := (List.eq_nil_or_concat' name.text.toList).resolve_left hne
  have hc : c ∈ name.text.toList := by simp [hs]
  exact ⟨front, c, hs, Name.isBlank_of_isNameChar (name.isPlain_text c hc)⟩

@[simp] theorem filtered?_trim (s : String) :
    filtered? false "trim" (.text s) [] = some (.text (Text.trimmed s)) := (rfl)

@[simp] theorem filtered?_indent_wrap (s : String) :
    filtered? false "indent_wrap" (.text s) [.int 1] = some (.text (Text.nested s)) := (rfl)

@[simp] theorem filtered?_make_value (s : String) :
    filtered? false "make_value" (.text s) [] = some (.text (makeText s)) := (rfl)

@[simp] theorem filtered?_arg_value (s : String) :
    filtered? false "arg_value" (.text s) [] = some (.text (argText s)) := (rfl)

@[simp] theorem emitted?_text (s : String) : emitted? false (.text s) = some s := (rfl)

@[simp] theorem concat?_text (a b : String) :
    Value.concat? (.text a) (.text b) = some (.text (a ++ b)) := (rfl)

@[simp] theorem condition?_bool (b : Bool) : (Value.bool b).condition? = some b := (rfl)

@[simp] theorem compare?_equal_text (a b : String) :
    Value.compare? .equal (.text a) (.text b) = some (a == b) := (rfl)

@[simp] theorem compare?_notEqual_text (a b : String) :
    Value.compare? .notEqual (.text a) (.text b) = some (!(a == b)) := (rfl)

/-- Where the binary lies in an archive. -/
def Archive.path : Archive → String
  | .zip path => path
  | .tar _ path => path

/-! ## Records -/

namespace Template
namespace Value

theorem attribute?_ofJson_obj (fields : List (String × Json)) (name : String) :
    (ofJson (.obj fields)).attribute? name =
      some (((fields.reverse.lookup name).map ofJson).getD missing) := by
  rw [ofJson_obj, attribute?_ofDict, Dict.get?_ofList, ← List.map_reverse]
  exact congrArg (fun found => some (found.getD missing))
    (Dict.lookup_map (fun _ json => ofJson json) fields.reverse name)

theorem ofJson_entries {α : Type} (d : Dict α) (f : α → Json) :
    ofJson (.obj (d.entries.map (fun entry => (entry.1, f entry.2)))) =
      ofDict (d.mapValues (fun _ value => ofJson (f value))) := by
  rw [ofJson_obj, List.map_map]
  exact congrArg ofDict (Dict.ofList_entries (d.mapValues (fun _ value => ofJson (f value))))

theorem ofJson_texts (d : Dict String) :
    ofJson d.toJson = ofDict (d.mapValues (fun _ value => .text value)) :=
  ofJson_entries d .str

@[simp] theorem filtered?_items (d : Dict Value) :
    filtered? false "items" (ofDict d) [] =
      some (.stream (d.entries.map (fun entry => .list [.text entry.1, entry.2]))) := by
  change some (stream ((namedEntries d.entries).map FilterFunction.pairOf)) = _
  rw [namedEntries, List.map_map]
  rfl

@[simp] theorem iterated?_ofDict (d : Dict Value) :
    (ofDict d).iterated? = some (d.keys.map .text) := by
  change some ((namedEntries d.entries).map Prod.fst) = _
  rw [namedEntries, List.map_map, Dict.keys, List.map_map]
  rfl

@[simp] theorem condition?_ofDict (d : Dict Value) :
    (ofDict d).condition? = some !d.entries.isEmpty := by
  simp [condition?, ofDict, isMissing, truth, namedEntries]

end Value
end Template

namespace Engine

theorem references_eq (reference : String → String) (tool : String) (vars : Dict String) :
    references reference tool vars.keys =
      ofDict
        (vars.mapValues (fun key _ => .text (reference (Name.scopedIdentifier tool key)))) := by
  have hentries := Dict.ofList_entries
    (vars.mapValues (fun key _ => Value.text (reference (Name.scopedIdentifier tool key))))
  rw [references, ofEntries_namedEntries, Dict.keys, List.map_map, ← hentries]
  rfl

end Engine

/-! ## Settings under their names -/

@[simp] theorem Commands.attributes (c : Commands) :
    (ofJson c.toJson).attribute? "go" = some (.text c.go) ∧
      (ofJson c.toJson).attribute? "curl" = some (.text c.curl) ∧
      (ofJson c.toJson).attribute? "aws" = some (.text c.aws) ∧
      (ofJson c.toJson).attribute? "tar" = some (.text c.tar) ∧
      (ofJson c.toJson).attribute? "unzip" = some (.text c.unzip) ∧
      (ofJson c.toJson).attribute? "mkdir" = some (.text c.mkdir) ∧
      (ofJson c.toJson).attribute? "chmod" = some (.text c.chmod) ∧
      (ofJson c.toJson).attribute? "rm" = some (.text c.rm) ∧
      (ofJson c.toJson).attribute? "ln" = some (.text c.ln) ∧
      (ofJson c.toJson).attribute? "touch" = some (.text c.touch) ∧
      (ofJson c.toJson).attribute? "mv" = some (.text c.mv) ∧
      (ofJson c.toJson).attribute? "pipx" = some (.text c.pipx) ∧
      (ofJson c.toJson).attribute? "mvn" = some (.text c.mvn) ∧
      (ofJson c.toJson).attribute? "java" = some (.text c.java) := by
  simp only [toJson, attribute?_ofJson_obj]
  exact ⟨rfl, rfl, rfl, rfl, rfl, rfl, rfl, rfl, rfl, rfl, rfl, rfl, rfl, rfl⟩

@[simp] theorem DockerfileSettings.attributes (d : DockerfileSettings) :
    (ofJson d.toJson).attribute? "fetch_image" = some (.text d.fetchImage) ∧
      (ofJson d.toJson).attribute? "go_image" = some (.text d.goImage) ∧
      (ofJson d.toJson).attribute? "python_image" = some (.text d.pythonImage) ∧
      (ofJson d.toJson).attribute? "maven_image" = some (.text d.mavenImage) ∧
      (ofJson d.toJson).attribute? "s3_image" = some (.text d.s3Image) ∧
      (ofJson d.toJson).attribute? "stage_prefix" = some (.text d.stagePrefix) ∧
      (ofJson d.toJson).attribute? "final_stage" = some (.text d.finalStage) ∧
      (ofJson d.toJson).attribute? "final_image" = some (.text d.finalImage) ∧
      (ofJson d.toJson).attribute? "pre_copy" = some (ofJson (.ofOption .str d.preCopy)) ∧
      (ofJson d.toJson).attribute? "post_copy" = some (ofJson (.ofOption .str d.postCopy)) ∧
      (ofJson d.toJson).attribute? "install_dir" = some (.text d.installDir) := by
  simp only [toJson, attribute?_ofJson_obj]
  exact ⟨rfl, rfl, rfl, rfl, rfl, rfl, rfl, rfl, rfl, rfl, rfl⟩

@[simp] theorem Config.attributes (config : Config) :
    (ofJson config.toJson).attribute? "vars" =
        some (ofDict (config.vars.mapValues (fun _ value => .text value))) ∧
      (ofJson config.toJson).attribute? "local_bin_var" = some (.text config.localBinVar) ∧
      (ofJson config.toJson).attribute? "tools" =
        some (ofDict (config.tools.mapValues (fun _ tool => ofJson tool.toJson))) ∧
      (ofJson config.toJson).attribute? "tool_sets" =
        some (ofDict (config.toolSets.mapValues (fun _ set => ofJson set.toJson))) ∧
      (ofJson config.toJson).attribute? "commands" = some (ofJson config.commands.toJson) ∧
      (ofJson config.toJson).attribute? "dockerfile" = some (ofJson config.dockerfile.toJson) := by
  simp only [toJson, attribute?_ofJson_obj]
  refine ⟨?_, rfl, ?_, ?_, rfl, rfl⟩
  · exact congrArg some (ofJson_texts config.vars)
  · exact congrArg some (ofJson_entries config.tools Tool.toJson)
  · exact congrArg some (ofJson_entries config.toolSets ToolSet.toJson)

@[simp] theorem ToolSet.attribute?_tools (set : ToolSet) :
    (ofJson set.toJson).attribute? "tools" =
      some (.list ((set.tools.map ToolName.text).map .text)) := by
  rw [toJson, attribute?_ofJson_obj]
  exact congrArg some (ofJson_strings _)

@[simp] theorem Tool.attribute?_installer (tool : Tool) :
    (ofJson tool.toJson).attribute? "installer" = some (ofJson tool.installer.toJson) := by
  rw [toJson, attribute?_ofJson_obj]
  rfl

@[simp] theorem ToolView.attributes (view : ToolView) :
    (ofJson view.toJson).attribute? "name" = some (.text view.name) ∧
      (ofJson view.toJson).attribute? "installer" = some (ofJson view.tool.installer.toJson) ∧
      (ofJson view.toJson).attribute? "vars" =
        some (ofDict (view.tool.vars.mapValues (fun _ value => .text value))) ∧
      (ofJson view.toJson).attribute? "depends_on" =
        some (.list (view.tool.dependencyNames.map .text)) ∧
      (ofJson view.toJson).attribute? "provided" = some (.bool view.tool.installer.isProvided) ∧
      (ofJson view.toJson).attribute? "fragment" = some (.text view.tool.installer.fragment) ∧
      (ofJson view.toJson).attribute? "package" =
        some (ofJson (.ofOption .str view.tool.installer.package?)) ∧
      (ofJson view.toJson).attribute? "runner" = some (ofJson (.ofOption .str view.runner)) ∧
      (ofJson view.toJson).attribute? "prerequisites" =
        some (.list (view.prerequisites.map .text)) ∧
      (ofJson view.toJson).attribute? "has_url" = some (.bool view.tool.installer.hasUrl) ∧
      (ofJson view.toJson).attribute? "has_archive" =
        some (.bool view.tool.installer.hasArchive) ∧
      (ofJson view.toJson).attribute? "installer_digest" =
        some (.text view.tool.installer.digest) := by
  simp only [toJson, attribute?_ofJson_obj]
  refine ⟨rfl, rfl, ?_, ?_, rfl, rfl, rfl, rfl, ?_, rfl, rfl, rfl⟩
  · exact congrArg some (ofJson_texts view.tool.vars)
  · exact congrArg some (ofJson_strings view.tool.dependencyNames)
  · exact congrArg some (ofJson_strings view.prerequisites)

namespace Installer

theorem exists_of_isProvided {installer : Installer} (h : installer.isProvided = true) :
    ∃ default, installer = provided default := by
  cases installer with
  | provided default => exact ⟨default, rfl⟩
  | _ => contradiction

@[simp] theorem attribute?_kind (installer : Installer) :
    (ofJson installer.toJson).attribute? "kind" = some (.text installer.kind) := by
  rw [toJson, attribute?_ofJson_obj]
  cases installer <;> rfl

@[simp] theorem attribute?_provided (default : String) :
    (ofJson (provided default).toJson).attribute? "default" = some (.text default) := by
  rw [toJson, attribute?_ofJson_obj]
  rfl

theorem attributes_fetch {installer : Installer} {source : Fetch}
    (h : installer.fetch? = some source) :
    (ofJson installer.toJson).attribute? "url" = some (.text source.url) ∧
      (ofJson installer.toJson).attribute? "archive" =
        some (ofJson (.ofOption Archive.toJson source.archive)) := by
  simp only [toJson, attribute?_ofJson_obj]
  cases installer <;> cases h <;> exact ⟨rfl, rfl⟩

@[simp] theorem attributes_pythonApp (app : PythonApp) :
    (ofJson (pythonApp app).toJson).attribute? "package" = some (.text app.package) ∧
      (ofJson (pythonApp app).toJson).attribute? "version" =
        some (ofJson (.ofOption .str app.version)) ∧
      (ofJson (pythonApp app).toJson).attribute? "app" = some (.text app.app) := by
  simp only [toJson, attribute?_ofJson_obj]
  exact ⟨rfl, rfl, rfl⟩

@[simp] theorem attributes_goModule (m : GoModule) :
    (ofJson (goModule m).toJson).attribute? "version" = some (.text m.version) ∧
      (ofJson (goModule m).toJson).attribute? "env" =
        some (ofDict (m.env.mapValues (fun _ value => .text value))) ∧
      (ofJson (goModule m).toJson).attribute? "flags" = some (.list (m.flags.map .text)) ∧
      (ofJson (goModule m).toJson).attribute? "binary" = some (.text m.binary) := by
  simp only [toJson, attribute?_ofJson_obj]
  refine ⟨rfl, ?_, ?_, rfl⟩
  · exact congrArg some (ofJson_texts m.env)
  · exact congrArg some (ofJson_strings m.flags)

@[simp] theorem attribute?_maven (artifact : String) :
    (ofJson (maven artifact).toJson).attribute? "artifact" = some (.text artifact) := by
  rw [toJson, attribute?_ofJson_obj]
  rfl

end Installer

@[simp] theorem Archive.attributes (archive : Archive) :
    (ofJson archive.toJson).attribute? "kind" = some (.text archive.kind) ∧
      (ofJson archive.toJson).attribute? "path" = some (.text archive.path) := by
  cases archive <;> simp only [toJson, attribute?_ofJson_obj] <;> exact ⟨rfl, rfl⟩

@[simp] theorem Archive.attribute?_compression (compression : Compression) (path : String) :
    (ofJson (tar compression path).toJson).attribute? "compression" =
      some (.text compression.name) := by
  rw [toJson, attribute?_ofJson_obj]
  rfl

/-! ## Helpers -/

@[simp] theorem Template.Env.outside_helper :
    Env.outside "identifier" = .helper .identifier ∧
      Env.outside "url_identifier" = .helper .urlIdentifier ∧
      Env.outside "archive_identifier" = .helper .archiveIdentifier ∧
      Env.outside "stamp_identifier" = .helper .stampIdentifier ∧
      Env.outside "scoped_identifier" = .helper .scopedIdentifier ∧
      Env.outside "stage_id" = .helper .stage ∧
      Env.outside "ref" = .helper .reference ∧
      Env.outside "var_dict" = .helper .references ∧
      Env.outside "include" = .helper .inclusion ∧
      Env.outside "tpl" = .helper .inlineTemplate :=
  ⟨rfl, rfl, rfl, rfl, rfl, rfl, rfl, rfl, rfl, rfl⟩

namespace Engine

variable (engine : Engine) (inlining : Inlining) (depth : Nat)

@[simp] theorem answer?_text (s : String) :
    engine.answer? inlining depth .identifier [.text s] = some (.text (Name.identifier s)) ∧
      engine.answer? inlining depth .urlIdentifier [.text s] = some (.text (Name.urlIdentifier s)) ∧
      engine.answer? inlining depth .archiveIdentifier [.text s] =
        some (.text (Name.archiveIdentifier s)) ∧
      engine.answer? inlining depth .stampIdentifier [.text s] =
        some (.text (Name.stampIdentifier s)) ∧
      engine.answer? inlining depth .stage [.text s] = some (.text (Name.stage s)) ∧
      engine.answer? inlining depth .reference [.text s] = some (.text (engine.reference s)) :=
  ⟨rfl, rfl, rfl, rfl, rfl, rfl⟩

@[simp] theorem answer?_scopedIdentifier (tool key : String) :
    engine.answer? inlining depth .scopedIdentifier [.text tool, .text key] =
      some (.text (Name.scopedIdentifier tool key)) := (rfl)

@[simp] theorem answer?_inclusion (name : String) (context : Value) :
    engine.answer? inlining depth .inclusion [.text name, context] =
      engine.included? inlining depth name context := (rfl)

@[simp] theorem answer?_inlineTemplate (source : String) (context : Value) :
    engine.answer? inlining depth .inlineTemplate [.text source, context] =
      inlining depth source context := (rfl)

theorem variableKeys_map_text (keys : List String) :
    variableKeys (keys.map Value.text) = .ok keys := by
  induction keys with
  | nil => rfl
  | cons key rest ih =>
      rw [List.map_cons, Value.text, variableKeys, ih]
      rfl

/-- The references to variables under the keys of the variables. -/
@[simp] theorem answer?_references (tool : String) (vars : Dict String) :
    engine.answer? inlining depth .references
        [.text tool, ofDict (vars.mapValues (fun _ value => .text value))] =
      some (ofDict
        (vars.mapValues
          (fun key _ => .text (engine.reference (Name.scopedIdentifier tool key))))) := by
  have hitems : (ofDict (vars.mapValues (fun _ value => Value.text value))).items? =
      some (vars.keys.map Value.text) := by
    have hiterated := iterated?_ofDict (vars.mapValues (fun _ value => Value.text value))
    rw [Dict.keys_mapValues] at hiterated
    exact hiterated
  change engine.variables? tool _ = _
  rw [variables?, hitems]
  simp only [Option.bind_eq_bind, Option.bind_some, variableKeys_map_text]
  exact congrArg some (references_eq engine.reference tool vars)

end Engine

end Provision
