import Provision.Proofs.Artifact.Templated

/-!
# Install recipes

The recipe that installs a tool, line by line, and the proof that the common fragments render it.
Both kinds of artifact have the same recipes, apart from how they refer to identifiers.
-/

namespace Provision

open Template Fragment

/-- The settings of an installer that are templates. -/
def Installer.templates : Installer → List String
  | .provided _ => []
  | .http source => source.url :: (source.archive.map Archive.path).toList
  | .objectStore source => source.url :: (source.archive.map Archive.path).toList
  | .pythonApp app => app.package :: app.version.toList
  | .goModule m => m.modulePath :: m.subPath.toList ++ m.version :: (m.env.values ++ m.flags)
  | .maven artifact => [artifact]

theorem Installer.url_mem_templates {installer : Installer} {source : Fetch}
    (h : installer.fetch? = some source) : source.url ∈ installer.templates := by
  cases installer <;> cases h <;> exact List.mem_cons_self

/-- The templates that an artifact renders: a package path is rendered as one. -/
def Installer.rendered : Installer → List String
  | .goModule m => m.package :: m.version :: (m.env.values ++ m.flags)
  | installer => installer.templates

theorem Installer.rendered_of_fetch? {installer : Installer} {source : Fetch}
    (h : installer.fetch? = some source) :
    installer.rendered = source.url :: (source.archive.map Archive.path).toList := by
  cases installer <;> cases h <;> rfl

theorem Tool.isTemplated_of_mem_rendered {config : Config} {tool : Tool}
    (h : ∀ source ∈ tool.installer.templates, tool.IsTemplated config source) :
    ∀ source ∈ tool.installer.rendered, tool.IsTemplated config source := by
  unfold Installer.rendered
  split
  · next m hinstaller =>
      simp only [hinstaller, Installer.templates, List.mem_cons, List.mem_append,
        Option.mem_toList, List.cons_append] at h
      intro source hsource
      rcases List.mem_cons.mp hsource with rfl | hsource
      · exact isTemplated_path (h _ (.inl rfl)) (fun sub hsub => h _ (.inr (.inl hsub)))
      · apply h source
        rw [List.mem_cons, List.mem_append] at hsource
        exact .inr (.inr hsource)
  · exact h

namespace Recipe

/-- The letter that tells the unpacking of an archive its compression. -/
def flag : Compression → String
  | .none => ""
  | .gzip => "z"
  | .bzip2 => "j"
  | .xz => "J"
  | .zstd => ""

section

variable (kind : ArtifactKind) (config : Config) (depth : Nat) (tool : Tool)

def localBin : String := kind.reference config.localBinVar

def binary : String := kind.reference (Name.identifier tool.name.text)

def archive : String := kind.reference (Name.archiveIdentifier tool.name.text)

def url : String := kind.reference (Name.urlIdentifier tool.name.text)

/-- What runs the installer: a declared tool or else a command. -/
def runnerOr (runner : Option String) (command : String) : String :=
  match runner with
  | some name => kind.reference (Name.identifier name)
  | none => command

/-- Unpacks the binary. -/
def extract : Archive → String
  | .zip path =>
      config.commands.unzip ++ " -p " ++ archive kind tool ++ " " ++
        tool.filled kind config (depth + 2) path ++ " > " ++ binary kind tool
  | .tar compression path =>
      config.commands.tar ++ " " ++ (if compression = .zstd then "--zstd " else "") ++ "-x" ++
        flag compression ++ "Of " ++ archive kind tool ++ " " ++
        tool.filled kind config (depth + 2) path ++ " > " ++ binary kind tool

def fetch (download : String → String) (source : Fetch) : List String :=
  match source.archive with
  | none => [download (binary kind tool), config.commands.chmod ++ " +x " ++ binary kind tool]
  | some packed =>
      [download (archive kind tool), Text.trimmed (extract kind config depth tool packed ++ "\n"),
        config.commands.rm ++ " -f " ++ archive kind tool,
        config.commands.chmod ++ " +x " ++ binary kind tool]

/-- What a version adds to the package that it pins. -/
def pinning : Option String → String
  | none => ""
  | some version => if version = "" then "" else "==" ++ tool.filled kind config (depth + 4) version

def pythonApp (runner : Option String) (app : PythonApp) : List String :=
  let home := localBin kind config ++ "/.make-env/pipx"
  ["PIPX_HOME=" ++ home ++ " PIPX_BIN_DIR=" ++ home ++ "/bin " ++
      runnerOr kind runner config.commands.pipx ++ " install --force " ++
      tool.filled kind config (depth + 4) app.package ++ pinning kind config depth tool app.version,
    config.commands.ln ++ " -sf " ++ home ++ "/bin/" ++ app.app ++ " " ++ binary kind tool]

def goModule (runner : Option String) (m : GoModule) : List String :=
  let settings := m.env.entries.map
    (fun entry => entry.1 ++ ("=" ++ (tool.filled kind config (depth + 4) entry.2 ++ " ")))
  let flags := m.flags.map (fun flag => " " ++ tool.filled kind config (depth + 4) flag)
  (String.join settings ++ "GOBIN=" ++ localBin kind config ++ " " ++
      runnerOr kind runner config.commands.go ++ " install" ++ String.join flags ++ " " ++
      tool.filled kind config (depth + 4) m.package ++ "@" ++
      tool.filled kind config (depth + 4) m.version) ::
    (if m.binary = tool.name.text then []
    else
      [config.commands.mv ++ " -f " ++ localBin kind config ++ "/" ++ m.binary ++ " " ++
        binary kind tool])

def maven (runner : Option String) (artifact : String) : List String :=
  let dir := localBin kind config ++ "/.make-env/maven/" ++ tool.name.text
  let jar := dir ++ "/" ++ tool.name.text ++ ".jar"
  [config.commands.rm ++ " -rf " ++ dir,
    runnerOr kind runner config.commands.mvn ++ " -q dependency:copy -Dartifact=" ++
      tool.filled kind config (depth + 4) artifact ++ " -DoutputDirectory=" ++ dir,
    config.commands.mv ++ " -f " ++ dir ++ "/*.jar " ++ jar,
    "printf '#!/bin/sh\\nexec %s -jar %s \"\\044@\"\\n' '" ++ config.commands.java ++ "' \"" ++
      jar ++ "\" > " ++ binary kind tool,
    config.commands.chmod ++ " +x " ++ binary kind tool]

/-- The recipe of a tool, given the declared tool that runs its installer and how deep renderings
may nest inside of what unpacks an archive. -/
def lines (runner : Option String) : List String :=
  match tool.installer with
  | .provided _ => ["command -v " ++ binary kind tool ++ " >/dev/null"]
  | .http source =>
      fetch kind config depth tool
        (fun target => config.commands.curl ++ " -fsSL -o " ++ target ++ " " ++ url kind tool)
        source
  | .objectStore source =>
      fetch kind config depth tool
        (fun target =>
          config.commands.aws ++ " s3 cp --only-show-errors " ++ url kind tool ++ " " ++ target)
        source
  | .pythonApp app => pythonApp kind config depth tool runner app
  | .goModule m => goModule kind config depth tool runner m
  | .maven artifact => maven kind config depth tool runner artifact

end

end Recipe

/-! ## Rendering -/

namespace ToolView

/-- What the fragment of a tool is given. -/
abbrev scene (view : ToolView) (config : Config) : Dict Value :=
  Dict.ofList [("tool", .ofJson view.toJson), ("config", .ofJson config.toJson)]

/-- What the fragment of a recipe is given. -/
abbrev sceneWith (view : ToolView) (config : Config) (runner : Option String) : Dict Value :=
  Dict.ofList
    [("tool", .ofJson view.toJson), ("config", .ofJson config.toJson),
      ("runner", .ofJson (.ofOption .str runner))]

variable {view : ToolView} {config : Config} {runner : Option String}

/-- What the settings of a view have to satisfy for an artifact to be written. -/
structure Renderable (kind : ArtifactKind) (inlining : Engine.Inlining) (config : Config)
    (view : ToolView) : Prop where
  runner : "" ∉ view.runner
  fills : ∀ source ∈ view.tool.installer.rendered, view.tool.Fills kind config inlining source

theorem renderable_inlined? {kind : ArtifactKind} (hrunner : "" ∉ view.runner)
    (htemplates : ∀ source ∈ view.tool.installer.templates, view.tool.IsTemplated config source) :
    view.Renderable kind kind.engine.inlined? config where
  runner := hrunner
  fills := fun source hsource =>
    Tool.fills_inlined? (Tool.isTemplated_of_mem_rendered htemplates source hsource)

theorem renderable_supposed? {kind : ArtifactKind} (hrunner : "" ∉ view.runner) :
    view.Renderable kind kind.engine.supposed? config where
  runner := hrunner
  fills := fun source _ => Tool.fills_supposed? kind config view.tool source

theorem isLive_scene : (Value.ofDict (view.scene config)).isLive = false := by
  apply Value.isLive_ofDict_ofList
  intro field hfield
  rcases List.mem_pair.mp hfield with rfl | rfl <;> exact Value.isLive_ofJson _

theorem isLive_sceneWith : (Value.ofDict (view.sceneWith config runner)).isLive = false := by
  apply Value.isLive_ofDict_ofList
  intro field hfield
  simp only [List.mem_cons, List.not_mem_nil, or_false] at hfield
  rcases hfield with rfl | rfl | rfl <;> exact Value.isLive_ofJson _

end ToolView

namespace Plan

/-- What the main fragment of an artifact is given. -/
abbrev scene (plan : Plan) (outPath : String) : Dict Value :=
  Dict.ofList
    [("version", .text version), ("in_path", .text plan.provenance.path),
      ("out_path", .text outPath), ("config_digest", .text plan.provenance.digest),
      ("config", .ofJson plan.config.toJson),
      ("tools", .list (plan.tools.map (fun view => .ofJson view.toJson)))]

theorem ofJson_context (plan : Plan) (outPath : String) :
    Value.ofJson (plan.context outPath) = .ofDict (plan.scene outPath) := by
  have htools :
      Value.ofJson (.arr (plan.tools.map ToolView.toJson)) =
        .list (plan.tools.map (fun view => .ofJson view.toJson)) := by
    rw [Value.ofJson, Value.ofJsonItems_eq, List.map_map]
    rfl
  rw [context, Value.ofJson_obj, scene, ← htools]
  rfl

end Plan

attribute [simp] literalValue Env.ofDict_ofList Env.bindAll Function.update_apply Run.depthLimit
  Fragment.toolName Fragment.setting Fragment.command Fragment.localBin
  Fragment.toolRef Fragment.filled Fragment.scene Fragment.included Fragment.nested

namespace Recipe

variable {kind : ArtifactKind} {inlining : Engine.Inlining} {config : Config} {view : ToolView}
  {runner : Option String}

section Parts

variable (depth : Nat) {env : Env}

theorem output?_refs (kind : ArtifactKind) (config : Config) (view : ToolView) {round : Nat}
    {body : List Stmt} (htool : env "tool" = .ofJson view.toJson)
    (hconfig : env "config" = .ofJson config.toJson)
    (hhelper : env "var_dict" = .helper .references) :
    output? (kind.engine.answer? inlining depth) round env (refs :: body) =
      output? (kind.engine.answer? inlining depth) round
        (Function.update env "refs" (.ofDict (view.tool.refs kind config))) body := by
  simp [refs, htool, hconfig, hhelper, Tool.refs, ToolView.name]

theorem condition?_ofOption (text : Option String) :
    (Value.ofJson (.ofOption .str text)).condition? = some (text.any (· ≠ "")) := by
  cases text with
  | none => rfl
  | some s =>
      simp [Json.ofOption, Value.ofJson, Value.condition?, Value.truth, Value.isMissing, Value.text]

theorem value?_runnerOr (kind : ArtifactKind) (config : Config) (runner : Option String)
    (hrunner : "" ∉ runner) (name fallback : String)
    (hname : (Value.ofJson config.commands.toJson).attribute? name = some (.text fallback))
    (henv : env "runner" = .ofJson (.ofOption .str runner))
    (hconfig : env "config" = .ofJson config.toJson) (href : env "ref" = .helper .reference)
    (hidentifier : env "identifier" = .helper .identifier) :
    value? (kind.engine.answer? inlining depth) env (Fragment.runnerOr name) =
      some (.text (runnerOr kind runner fallback)) := by
  have hcondition := condition?_ofOption runner
  cases runner with
  | none => simp [Fragment.runnerOr, henv, hcondition, hconfig, hname, runnerOr]
  | some tool =>
      have hne : tool ≠ "" := fun heq => hrunner (heq ▸ rfl)
      have htext : Value.ofJson (.ofOption .str (some tool)) = .text tool := rfl
      rw [htext] at hcondition henv
      simp [Fragment.runnerOr, henv, hcondition, href, hidentifier, hne, runnerOr]

theorem value?_pinned (kind : ArtifactKind) (config : Config) (view : ToolView)
    (version : Option String) (hversion : ∀ v ∈ version, view.tool.Fills kind config inlining v)
    (henv : env "version" = .ofJson (.ofOption .str version))
    (hrefs : env "refs" = .ofDict (view.tool.refs kind config))
    (htpl : env "tpl" = .helper .inlineTemplate) :
    value? (kind.engine.answer? inlining (depth + 4)) env pinned =
      some (.text (pinning kind config depth view.tool version)) := by
  have hcondition := condition?_ofOption version
  cases version with
  | none => simp [pinned, henv, hcondition, pinning]
  | some v =>
      have htext : Value.ofJson (.ofOption .str (some v)) = .text v := rfl
      rw [htext] at hcondition henv
      by_cases hempty : v = ""
      · subst hempty
        simp [pinned, henv, hcondition, pinning]
      · simp [pinned, henv, hcondition, hempty, hrefs, htpl, pinning,
          hversion v rfl (depth + 2)]

end Parts

section Bodies

variable (depth : Nat)

theorem output?_installProvided :
    output? (kind.engine.answer? inlining depth) 1 (Env.ofDict (view.sceneWith config runner))
        installProvidedBody =
      some (Text.unlines ["command -v " ++ binary kind view.tool ++ " >/dev/null"]) := by
  simp [installProvidedBody, binary, ToolView.name]
  apply String.toList_inj.mp
  simp

theorem output?_installMaven {artifact : String} (h : view.tool.installer = .maven artifact)
    (hrunner : "" ∉ runner) (hartifact : view.tool.Fills kind config inlining artifact) :
    output? (kind.engine.answer? inlining (depth + 4)) 1 (Env.ofDict (view.sceneWith config runner))
        installMavenBody =
      some (Text.unlines (maven kind config depth view.tool runner artifact)) := by
  simp [installMavenBody, output?_refs _ kind config view,
    value?_runnerOr _ kind config runner hrunner "mvn" config.commands.mvn, h,
    hartifact (depth + 2)]
  apply String.toList_inj.mp
  simp [maven, localBin, binary, ToolView.name]

theorem output?_installPipx {app : PythonApp} (h : view.tool.installer = .pythonApp app)
    (hrunner : "" ∉ runner) (hpackage : view.tool.Fills kind config inlining app.package)
    (hversion : ∀ version ∈ app.version, view.tool.Fills kind config inlining version) :
    output? (kind.engine.answer? inlining (depth + 4)) 1 (Env.ofDict (view.sceneWith config runner))
        installPipxBody =
      some (Text.unlines (pythonApp kind config depth view.tool runner app)) := by
  simp [installPipxBody, output?_refs _ kind config view,
    value?_runnerOr _ kind config runner hrunner "pipx" config.commands.pipx,
    value?_pinned _ kind config view app.version hversion, h, hpackage (depth + 2)]
  apply String.toList_inj.mp
  simp [pythonApp, localBin, binary, ToolView.name]

theorem output?_installGo {m : GoModule} (h : view.tool.installer = .goModule m)
    (hrunner : "" ∉ runner) (hpackage : view.tool.Fills kind config inlining m.package)
    (hversion : view.tool.Fills kind config inlining m.version)
    (henv : ∀ entry ∈ m.env.entries, view.tool.Fills kind config inlining entry.2)
    (hflags : ∀ flag ∈ m.flags, view.tool.Fills kind config inlining flag) :
    output? (kind.engine.answer? inlining (depth + 4)) 1 (Env.ofDict (view.sceneWith config runner))
        installGoBody =
      some (Text.unlines (goModule kind config depth view.tool runner m)) := by
  have hwritten : Value.ofJson (.ofOption .str (Installer.goModule m).package?) =
      .text m.package := rfl
  have henvs := fun entry hentry => henv entry hentry (depth + 2)
  have hflagged := fun flag hflag => hflags flag hflag (depth + 2)
  simp +contextual [installGoBody, output?_refs _ kind config view,
    value?_runnerOr _ kind config runner hrunner "go" config.commands.go, h, hwritten,
    hpackage (depth + 2), hversion (depth + 2), henvs, hflagged]
  by_cases hbinary : m.binary = view.tool.name.text
  · have hsame : m.binary = view.name := hbinary
    simp [hsame]
    apply String.toList_inj.mp
    simp [goModule, localBin, hbinary]
  · have hother : m.binary ≠ view.name := hbinary
    simp [hother]
    apply String.toList_inj.mp
    simp [goModule, localBin, hbinary, ToolView.name, binary]

variable {source : Fetch} (hfetch : view.tool.installer.fetch? = some source)

include hfetch

theorem output?_extractZip {path : String} (harchive : source.archive = some (.zip path))
    (hpath : view.tool.Fills kind config inlining path) :
    output? (kind.engine.answer? inlining (depth + 2)) 1 (Env.ofDict (view.scene config))
        extractZipBody =
      some (extract kind config depth view.tool (.zip path) ++ "\n") := by
  have hattributes := Installer.attributes_fetch hfetch
  simp [extractZipBody, output?_refs _ kind config view, hattributes, harchive, Json.ofOption,
    hpath depth, Archive.path]
  apply String.toList_inj.mp
  simp [extract, binary, archive, ToolView.name]

theorem output?_extractTar {compression : Compression} {path : String}
    (harchive : source.archive = some (.tar compression path))
    (hpath : view.tool.Fills kind config inlining path) :
    output? (kind.engine.answer? inlining (depth + 2)) 1 (Env.ofDict (view.scene config))
        extractTarBody =
      some (extract kind config depth view.tool (.tar compression path) ++ "\n") := by
  have hattributes := Installer.attributes_fetch hfetch
  have hflag : Value.index? (.text compression.name)
      (.ofDict (Dict.ofList
        [("none", .text ""), ("gzip", .text "z"), ("bzip2", .text "j"), ("xz", .text "J"),
          ("zstd", .text "")])) = some (.text (flag compression)) := by
    rw [Value.index?_text_ofDict, Dict.get?_ofList]
    cases compression <;> rfl
  have hname : compression.name = "zstd" ↔ compression = .zstd := by
    cases compression <;> decide
  simp [extractTarBody, output?_refs _ kind config view, hattributes, harchive, Json.ofOption,
    hpath depth, Archive.path, hflag]
  simp only [hname]
  by_cases hzstd : compression = .zstd
  · simp [hzstd]
    apply String.toList_inj.mp
    simp [extract, binary, archive, ToolView.name]
  · simp [hzstd]
    apply String.toList_inj.mp
    simp [extract, hzstd, binary, archive, ToolView.name]

/-- The fragment that unpacks an archive writes the line that does so. -/
theorem included?_extract {packed : Archive} (harchive : source.archive = some packed)
    (hpath : view.tool.Fills kind config inlining packed.path) :
    kind.engine.included? inlining (depth + 4) ("extract/" ++ packed.kind)
        (.ofDict (view.scene config)) =
      some (.text (extract kind config depth view.tool packed ++ "\n")) := by
  have hname : escapesMarkup ("extract/" ++ packed.kind) = false := by
    cases packed with
    | zip path =>
        change escapesMarkup "extract/zip" = false
        decide
    | tar compression path =>
        change escapesMarkup "extract/tar" = false
        decide
  cases packed with
  | zip path =>
      apply Engine.included?_eq _ _ hname ToolView.isLive_scene
        (output?_extractZip depth hfetch harchive hpath)
      rw [ArtifactKind.fragment?_engine]
      cases kind <;> rfl
  | tar compression path =>
      apply Engine.included?_eq _ _ hname ToolView.isLive_scene
        (output?_extractTar depth hfetch harchive hpath)
      rw [ArtifactKind.fragment?_engine]
      cases kind <;> rfl

/-- A body that fetches, whatever it fetches with. -/
theorem output?_fetchBody {download : String → List Stmt} {line : String → String}
    (hpath : ∀ packed ∈ source.archive, view.tool.Fills kind config inlining packed.path)
    (hdownload : ∀ (env : Env) (target : String) (text : String) (rest : List Stmt),
      target ≠ "loop" → env target = .text text → env "url" = .text (url kind view.tool) →
      env "config" = .ofJson config.toJson →
      output? (kind.engine.answer? inlining (depth + 4)) 1 env (download target ++ rest) =
        (output? (kind.engine.answer? inlining (depth + 4)) 1 env rest).map
          (line text ++ "\n" ++ ·)) :
    output? (kind.engine.answer? inlining (depth + 4)) 1 (Env.ofDict (view.sceneWith config runner))
        (fetchBody download) =
      some (Text.unlines (fetch kind config depth view.tool line source)) := by
  have hattributes := Installer.attributes_fetch hfetch
  have hbinary := fun env => hdownload env "bin" (binary kind view.tool)
  have harchived := fun env => hdownload env "archive" (archive kind view.tool)
  simp only [binary, archive, url] at hbinary harchived
  cases harchive : source.archive with
  | none =>
      have hcondition : (Value.ofJson (.ofOption Archive.toJson none)).condition? = some false :=
        rfl
      simp [fetchBody, hattributes, harchive, hcondition, hbinary, ToolView.name]
      apply String.toList_inj.mp
      simp [fetch, harchive, binary]
  | some packed =>
      have hjson : Json.ofOption Archive.toJson (some packed) = packed.toJson := rfl
      have hcondition : (Value.ofJson packed.toJson).condition? = some true := by
        cases packed <;> rfl
      simp [fetchBody, hattributes, harchive, hjson, hcondition, harchived, ToolView.name,
        included?_extract depth hfetch harchive (hpath packed harchive)]
      apply String.toList_inj.mp
      simp [fetch, harchive, binary, archive]

end Bodies

theorem fills_of_fetch? (h : view.Renderable kind inlining config) {source : Fetch}
    (hfetch : view.tool.installer.fetch? = some source) :
    view.tool.Fills kind config inlining source.url ∧
      ∀ packed ∈ source.archive, view.tool.Fills kind config inlining packed.path := by
  have hfills := h.fills
  rw [Installer.rendered_of_fetch? hfetch] at hfills
  refine ⟨hfills _ List.mem_cons_self, ?_⟩
  intro packed hpacked
  apply hfills _ (List.mem_cons_of_mem _ _)
  rw [Option.mem_def.mp hpacked]
  exact List.mem_singleton_self _

/-- Every engine serves the common fragments. -/
theorem fragment?_common (kind : ArtifactKind) {name : String} {body : List Stmt}
    (h : commonBodies.lookup name = some body) :
    kind.engine.fragment? name = some ⟨body, []⟩ ∧ escapesMarkup name = false := by
  have hentry : (name, body) ∈ commonBodies := by
    obtain ⟨before, after, hsplit, -⟩ := List.lookup_eq_some_iff.mp h
    rw [hsplit]
    simp
  rw [ArtifactKind.fragment?_engine]
  simp only [commonBodies, List.mem_cons, List.not_mem_nil, or_false, Prod.mk.injEq] at hentry
  rcases hentry with ⟨rfl, rfl⟩ | ⟨rfl, rfl⟩ | ⟨rfl, rfl⟩ | ⟨rfl, rfl⟩ | ⟨rfl, rfl⟩ |
    ⟨rfl, rfl⟩ | ⟨rfl, rfl⟩ | ⟨rfl, rfl⟩ <;> cases kind <;> exact ⟨rfl, by decide⟩

theorem fragment?_own (kind : ArtifactKind) {name : String} {body : List Stmt}
    (h : kind.ownBodies.lookup name = some body) :
    kind.engine.fragment? name = some ⟨body, []⟩ ∧ escapesMarkup name = false := by
  have hentry : (name, body) ∈ kind.ownBodies := by
    obtain ⟨before, after, hsplit, -⟩ := List.lookup_eq_some_iff.mp h
    rw [hsplit]
    simp
  rw [ArtifactKind.fragment?_engine]
  cases kind with
  | makefile =>
      simp only [ArtifactKind.ownBodies, List.mem_cons, List.not_mem_nil, or_false,
        Prod.mk.injEq] at hentry
      rcases hentry with ⟨rfl, rfl⟩ | ⟨rfl, rfl⟩ <;> exact ⟨rfl, by decide⟩
  | dockerfile =>
      simp only [ArtifactKind.ownBodies, List.mem_cons, List.not_mem_nil, or_false,
        Prod.mk.injEq] at hentry
      rcases hentry with ⟨rfl, rfl⟩ | ⟨rfl, rfl⟩ | ⟨rfl, rfl⟩ | ⟨rfl, rfl⟩ <;>
        exact ⟨rfl, by decide⟩

/-- What the install fragment of a tool says. -/
def installBody : Installer → List Stmt
  | .provided _ => installProvidedBody
  | .http _ => installHttpBody
  | .objectStore _ => installS3Body
  | .pythonApp _ => installPipxBody
  | .goModule _ => installGoBody
  | .maven _ => installMavenBody

theorem fragment?_install (kind : ArtifactKind) (installer : Installer) :
    kind.engine.fragment? installer.fragment = some ⟨installBody installer, []⟩ ∧
      escapesMarkup installer.fragment = false := by
  have hlookup : commonBodies.lookup installer.fragment = some (installBody installer) := by
    cases installer <;> rw [Installer.fragment, Installer.kind] <;> rfl
  exact fragment?_common kind hlookup

/-- The install fragment of a tool writes its recipe. -/
theorem output?_recipe (h : view.Renderable kind inlining config) (hrunner : "" ∉ runner)
    (depth : Nat) :
    output? (kind.engine.answer? inlining (depth + 4)) 1 (Env.ofDict (view.sceneWith config runner))
        (installBody view.tool.installer) =
      some (Text.unlines (lines kind config depth view.tool runner)) := by
  have hfetch : ∀ source, view.tool.installer.fetch? = some source →
      ∀ packed ∈ source.archive, view.tool.Fills kind config inlining packed.path :=
    fun source hsource => (fills_of_fetch? h hsource).2
  have hfills := h.fills
  unfold lines
  cases hinstaller : view.tool.installer with
  | provided default => exact output?_installProvided _
  | http source =>
      have hsource : view.tool.installer.fetch? = some source := by rw [hinstaller]; rfl
      rw [installBody]
      apply output?_fetchBody depth hsource (hfetch source hsource)
      intro env target text rest htarget htext hurl hconfig
      simp [htarget, htext, hurl, hconfig, Function.comp_def, String.append_assoc]
  | objectStore source =>
      have hsource : view.tool.installer.fetch? = some source := by rw [hinstaller]; rfl
      rw [installBody]
      apply output?_fetchBody depth hsource (hfetch source hsource)
      intro env target text rest htarget htext hurl hconfig
      simp [htarget, htext, hurl, hconfig, Function.comp_def, String.append_assoc]
  | pythonApp app =>
      rw [hinstaller] at hfills
      apply output?_installPipx depth hinstaller hrunner
      · exact hfills _ List.mem_cons_self
      · intro version hversion
        apply hfills _ (List.mem_cons_of_mem _ _)
        rw [Option.mem_def.mp hversion]
        exact List.mem_singleton_self _
  | goModule m =>
      rw [hinstaller] at hfills
      simp only [Installer.rendered, List.mem_cons, List.mem_append] at hfills
      apply output?_installGo depth hinstaller hrunner
      · exact hfills _ (.inl rfl)
      · exact hfills _ (.inr (.inl rfl))
      · intro entry hentry
        exact hfills _ (.inr (.inr (.inl (List.mem_map.mpr ⟨entry, hentry, rfl⟩))))
      · intro flag hflag
        exact hfills _ (.inr (.inr (.inr hflag)))
  | maven artifact =>
      rw [hinstaller] at hfills
      exact output?_installMaven depth hinstaller hrunner (hfills _ (List.mem_singleton_self _))

theorem included?_recipe (h : view.Renderable kind inlining config) (hrunner : "" ∉ runner)
    (depth : Nat) :
    kind.engine.included? inlining (depth + 6) view.tool.installer.fragment
        (.ofDict (view.sceneWith config runner)) =
      some (.text (Text.unlines (lines kind config depth view.tool runner))) := by
  obtain ⟨hfragment, hescape⟩ := fragment?_install kind view.tool.installer
  exact kind.engine.included?_eq hfragment hescape ToolView.isLive_sceneWith
    (output?_recipe h hrunner depth)

end Recipe

/-- An artifact is what its main fragment writes. -/
theorem Plan.emit_gives (plan : Plan) {kind : ArtifactKind} {mayFail : Prop}
    {inlining : Engine.Inlining} (hinlines : kind.engine.Inlines mayFail inlining)
    {outPath text : String} {body : List Stmt} (hmain : kind.ownBodies.lookup "main" = some body)
    (htext : output? (kind.engine.answer? inlining (Engine.nestingLimit - 1)) 1
      (Env.ofDict (plan.scene outPath)) body = some text) :
    Gives mayFail (plan.emit kind.fragments kind outPath) text := by
  obtain ⟨hfragment, hescape⟩ := Recipe.fragment?_own kind hmain
  rw [emit, kind.ofFragments_fragments, ofJson_context]
  exact kind.engine.render_gives hinlines hfragment hescape htext

end Provision
