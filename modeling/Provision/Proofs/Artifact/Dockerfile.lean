import Provision.Proofs.Artifact.Recipe

/-!
# Dockerfiles, line by line

What a Dockerfile consists of, and the proof that its fragments write these lines for plans whose
names of tools are those of tools: always where the templated settings are in order, and else unless
one of them cannot be rendered.
-/

namespace Provision

open Template Fragment

namespace Dockerfile

inductive Line where
  | blank
  | comment (text : String)
  /-- A build argument, with its default where it is declared first. -/
  | argument (name : String) (value : Option String)
  | stage (image name : String)
  | copy (origin source target : String)
  | run (command : String)
  | searchPath (dir : String)
  /-- A line of the script between the line that runs it and the end of the script. -/
  | script (command : String)
  | scriptEnd
  /-- Instructions from the settings. -/
  | verbatim (text : String)
deriving DecidableEq

def Line.text : Line → String
  | blank => ""
  | comment text => "# " ++ text
  | argument name none => "ARG " ++ name
  | argument name (some value) => "ARG " ++ name ++ "=" ++ value
  | stage image name => "FROM " ++ image ++ " AS " ++ name
  | copy origin source target =>
      String.join ["COPY --from=", origin, " ", source, "/ ", target, "/"]
  | run command => "RUN " ++ command
  | searchPath dir => "ENV PATH=\"" ++ dir ++ ":$\x7bPATH\x7d\""
  | script command => Text.indented command
  | scriptEnd => "EOF"
  | verbatim text => text

abbrev reference : String → String := ArtifactKind.dockerfile.reference

/-- How deep renderings may nest inside of what unpacks an archive. -/
def depth : Nat := Engine.nestingLimit - 11

/-- The variables of a tool, or those that all tools share, with their defaults. -/
def varLines (owner : String) (vars : Dict String) : List Line :=
  vars.entries.map
    (fun entry => .argument (Name.scopedIdentifier owner entry.1) (some (argText entry.2)))

section

variable (config : Config)

abbrev localBin : String := reference config.localBinVar

def stageName (name : String) : String := config.dockerfile.stagePrefix ++ Name.stage name

def setStageName (name : String) : String :=
  config.dockerfile.stagePrefix ++ "set-" ++ Name.stage name

/-- Whether a tool is installed in a stage of its own. -/
def isInstalled (name : String) : Bool :=
  (config.tool? name).any (fun tool => !tool.installer.isProvided)

/-- The binaries of the installed ones among some tools, out of their stages. -/
def copyLines (names : List String) : List Line :=
  (names.filter (isInstalled config)).map
    (fun name => .copy (stageName config name) (localBin config) (localBin config))

variable (view : ToolView)

def fetchLines (source : Fetch) : List Line :=
  .argument (Name.urlIdentifier view.name)
      (some (argText (view.tool.filled .dockerfile config (depth + 8) source.url))) ::
    (source.archive.map (fun archive =>
      Line.argument (Name.archiveIdentifier view.name)
        (some (localBin config ++ "/.make-env/" ++ view.name ++ "." ++ archive.kind)))).toList

/-- The build arguments of a tool. -/
def argumentLines : List Line :=
  varLines view.name view.tool.vars ++
    match view.tool.installer with
    | .provided default => [.argument (Name.identifier view.name) (some (argText default))]
    | installer =>
        .argument (Name.identifier view.name) (some (localBin config ++ "/" ++ view.name)) ::
          (installer.fetch?.map (fetchLines config view)).getD []

def argumentText : String := Text.unlines ((argumentLines config view).map Line.text)

/-- The image that a tool is installed in. -/
def image : Installer → String
  | .provided _ => ""
  | .http _ => config.dockerfile.fetchImage
  | .objectStore _ => config.dockerfile.s3Image
  | .pythonApp _ => config.dockerfile.pythonImage
  | .goModule _ => config.dockerfile.goImage
  | .maven _ => config.dockerfile.mavenImage

/-- The script that installs a tool. -/
def scriptText : String :=
  Text.unlines
    ["set -eu", config.commands.mkdir ++ " -p " ++ localBin config ++ "/.make-env",
      Text.trimmed (Text.unlines (Recipe.lines .dockerfile config depth view.tool none))]

/-- The build arguments that the script of a tool uses. -/
def scopeLines : List Line :=
  (config.localBinVar :: config.vars.keys.map (Name.scopedIdentifier "") ++
      view.tool.vars.keys.map (Name.scopedIdentifier view.name) ++
      Name.identifier view.name ::
        (if view.tool.installer.hasUrl then [Name.urlIdentifier view.name] else []) ++
      (if view.tool.installer.hasArchive then [Name.archiveIdentifier view.name] else []) ++
      view.tool.dependencyNames.map Name.identifier).map (fun name => .argument name none)

/-- The stage that a tool is installed in. -/
def stageLines : List Line :=
  .stage (image config view.tool.installer) (stageName config view.name) ::
    scopeLines config view ++ copyLines config view.tool.dependencyNames ++
      (if view.tool.installer.kind = "pipx" then
        [.run "python3 -m pip install --no-cache-dir pipx"]
      else []) ++
      .run "<<EOF" ::
        (Text.splits (Text.trimmed (scriptText config view))).map .script ++ [.scriptEnd]

def stageText : String := Text.unlines ((stageLines config view).map Line.text)

/-- The stage that gathers the tools of a set. -/
def setLines (name : String) (set : ToolSet) : List Line :=
  [.blank, .stage "scratch" (setStageName config name), .argument config.localBinVar none] ++
    copyLines config (set.tools.map ToolName.text)

end

def extraLines : Option String → List Line
  | none => []
  | some text => if text = "" then [] else [.verbatim (Text.trimmed text)]

section

variable (plan : Plan)

/-- The lines before the first stage. -/
def prologue (outPath : String) : List Line :=
  [.comment "syntax=docker/dockerfile:1",
      .comment ("Code generated by make-env " ++ version ++ ". DO NOT EDIT."),
      .comment ("Source: " ++ plan.provenance.path ++ " (sha256:" ++ plan.provenance.digest ++ ")"),
      .comment ("Output: " ++ outPath), .blank,
      .argument plan.config.localBinVar (some (argText plan.config.dockerfile.installDir))] ++
    varLines "" plan.config.vars ++ plan.tools.flatMap (argumentLines plan.config)

def installed : List ToolView :=
  plan.tools.filter (fun view => !view.tool.installer.isProvided)

/-- The stages for single tools and for sets of tools. -/
def partLines : List Line :=
  (installed plan).flatMap (fun view => .blank :: stageLines plan.config view) ++
    plan.config.toolSets.entries.flatMap (fun entry => setLines plan.config entry.1 entry.2)

/-- The stage that holds all tools. -/
def finalLines : List Line :=
  let settings := plan.config.dockerfile
  [.blank, .stage settings.finalImage settings.finalStage,
      .argument plan.config.localBinVar none] ++
    extraLines settings.preCopy ++
    (installed plan).map (fun view =>
      .copy (stageName plan.config view.name) (localBin plan.config) settings.installDir) ++
    .searchPath settings.installDir :: extraLines settings.postCopy

def lines (outPath : String) : List Line :=
  prologue plan outPath ++ partLines plan ++ finalLines plan

def text (outPath : String) : String :=
  Text.unlines ((lines plan outPath).map Line.text)

end

/-- Where a plan names tools, they are tools of its configuration. -/
structure Closed (plan : Plan) : Prop where
  dependencies : ∀ view ∈ plan.tools, ∀ name ∈ view.tool.dependencyNames,
    name ∈ plan.config.tools.keys
  members : ∀ entry ∈ plan.config.toolSets.entries, ∀ member ∈ entry.2.tools,
    member.text ∈ plan.config.tools.keys

/-! ## Rendering -/

section Rendering

variable {inlining : Engine.Inlining} {config : Config} {view : ToolView}

theorem argumentLines_of_isProvided_eq_false (h : view.tool.installer.isProvided = false) :
    argumentLines config view =
      varLines view.name view.tool.vars ++
        .argument (Name.identifier view.name) (some (localBin config ++ "/" ++ view.name)) ::
          (view.tool.installer.fetch?.map (fetchLines config view)).getD [] := by
  unfold argumentLines
  split
  · next heq => simp [heq, Installer.isProvided] at h
  · rfl

theorem output?_dockerfileToolArgs (h : view.Renderable .dockerfile inlining config) :
    output? (ArtifactKind.dockerfile.engine.answer? inlining (depth + 8)) 1
        (Env.ofDict (view.scene config)) dockerfileToolArgsBody =
      some (argumentText config view) := by
  unfold argumentText
  cases hprovided : view.tool.installer.isProvided with
  | true =>
      obtain ⟨default, hdefault⟩ := Installer.exists_of_isProvided hprovided
      simp [dockerfileToolArgsBody, Recipe.output?_refs _ .dockerfile config view, hdefault,
        Installer.isProvided]
      apply String.toList_inj.mp
      simp [argumentLines, hdefault, Line.text, varLines, Function.comp_def, String.append_assoc,
        List.flatMap_map]
  | false =>
      rw [argumentLines_of_isProvided_eq_false hprovided]
      cases hfetch : view.tool.installer.fetch? with
      | none =>
          simp [dockerfileToolArgsBody, Recipe.output?_refs _ .dockerfile config view, hprovided,
            Installer.hasUrl, Installer.hasArchive, hfetch]
          apply String.toList_inj.mp
          simp [Line.text, varLines, Function.comp_def, String.append_assoc, List.flatMap_map]
      | some source =>
          have hsettings := Installer.attributes_fetch hfetch
          have hurl := (Recipe.fills_of_fetch? h hfetch).1 (depth + 6)
          cases harchive : source.archive with
          | none =>
              simp [dockerfileToolArgsBody, Recipe.output?_refs _ .dockerfile config view,
                hprovided, Installer.hasUrl, Installer.hasArchive, hfetch, harchive, hsettings,
                hurl]
              apply String.toList_inj.mp
              simp [Line.text, varLines, fetchLines, harchive, Function.comp_def,
                String.append_assoc, List.flatMap_map]
          | some archive =>
              have hjson : Json.ofOption Archive.toJson (some archive) = archive.toJson := rfl
              simp [dockerfileToolArgsBody, Recipe.output?_refs _ .dockerfile config view,
                hprovided, Installer.hasUrl, Installer.hasArchive, hfetch, harchive, hsettings,
                hurl, hjson]
              apply String.toList_inj.mp
              simp [Line.text, varLines, fetchLines, harchive, Function.comp_def,
                String.append_assoc, List.flatMap_map]

theorem exists_of_mem_argumentLines {line : Line} (h : line ∈ argumentLines config view) :
    ∃ name value, line = .argument name (some value) ∧ Text.EndsSolid value := by
  have hname : Text.EndsSolid view.name := view.tool.name.endsSolid
  unfold argumentLines at h
  rcases List.mem_append.mp h with hvar | hown
  · obtain ⟨entry, -, rfl⟩ := List.mem_map.mp hvar
    exact ⟨_, _, rfl, endsSolid_argText entry.2⟩
  · split at hown
    · next default _ =>
        obtain rfl := List.mem_singleton.mp hown
        exact ⟨_, _, rfl, endsSolid_argText default⟩
    · rcases List.mem_cons.mp hown with rfl | hfetched
      · exact ⟨_, _, rfl, hname.append _⟩
      · cases hfetch : view.tool.installer.fetch? with
        | none =>
            rw [hfetch] at hfetched
            exact absurd hfetched List.not_mem_nil
        | some source =>
            rw [hfetch] at hfetched
            rcases List.mem_cons.mp hfetched with rfl | harchived
            · exact ⟨_, _, rfl, endsSolid_argText _⟩
            · obtain ⟨archive, -, rfl⟩ := Option.map_eq_some_iff.mp (Option.mem_toList.mp harchived)
              have hkind : Text.EndsSolid archive.kind := by
                cases archive with
                | zip path => exact ⟨['z', 'i'], 'p', by rw [Archive.kind]; rfl, by decide⟩
                | tar compression path =>
                    exact ⟨['t', 'a'], 'r', by rw [Archive.kind]; rfl, by decide⟩
              exact ⟨_, _, rfl, hkind.append _⟩

/-- A tool's build arguments have solid ends, so that trimming them is undone by the next line
end. -/
theorem trimmed_argumentText (config : Config) (view : ToolView) :
    Text.trimmed (argumentText config view) ++ "\n" = argumentText config view := by
  have hstart : Text.StartsSolid "ARG " := ⟨'A', "RG ".toList, rfl, by decide⟩
  have hne : argumentLines config view ≠ [] := by
    unfold argumentLines
    split <;> simp
  have hhead := List.head_mem hne
  have hlast := List.getLast_mem hne
  obtain ⟨name, value, hhead, -⟩ := exists_of_mem_argumentLines hhead
  obtain ⟨lastName, lastValue, hlast, hend⟩ := exists_of_mem_argumentLines hlast
  have hfirst : (argumentLines config view).head? = some (.argument name (some value)) := by
    rw [← hhead, List.head?_eq_some_head hne]
  have hlast :
      (argumentLines config view).getLast? = some (.argument lastName (some lastValue)) := by
    rw [← hlast, List.getLast?_eq_some_getLast hne]
  exact Text.trimmed_unlines (by rw [List.head?_map, hfirst]; rfl)
    (((hstart.append name).append "=").append value) (by rw [List.getLast?_map, hlast]; rfl)
    (hend.append _)

theorem trimmed_stageText (config : Config) (view : ToolView) :
    Text.trimmed (stageText config view) ++ "\n" = stageText config view := by
  have hstart : Text.StartsSolid "FROM " := ⟨'F', "ROM ".toList, rfl, by decide⟩
  have hend : Text.EndsSolid "EOF" := ⟨['E', 'O'], 'F', rfl, by decide⟩
  have hlast : (stageLines config view).getLast? = some .scriptEnd := by
    unfold stageLines
    simp [List.getLast?_append, List.getLast?_cons]
  exact Text.trimmed_unlines (by rw [List.head?_map]; rfl)
    ((hstart.append _).append _ |>.append _) (by rw [List.getLast?_map, hlast]; rfl) hend

theorem output?_dockerfileScript (h : view.Renderable .dockerfile inlining config) :
    output? (ArtifactKind.dockerfile.engine.answer? inlining (depth + 6)) 1
        (Env.ofDict (view.scene config))
        dockerfileScriptBody =
      some (scriptText config view) := by
  have hrunner : "" ∉ (none : Option String) := by simp
  have hrecipe := Recipe.included?_recipe h hrunner depth
  have hnone : Value.ofJson (.ofOption .str none) = .none := rfl
  rw [ToolView.sceneWith, hnone] at hrecipe
  simp [dockerfileScriptBody, hrecipe]
  apply String.toList_inj.mp
  simp [scriptText]

theorem value?_isInstalled (config : Config) {answer : Answer} {env : Env}
    (hconfig : env "config" = .ofJson config.toJson) {name : String}
    (hname : name ∈ config.tools.keys) {word : String} (hloop : word ≠ "loop")
    (hword : word ≠ "config") :
    value? answer (Function.update env word (.text name)) (Fragment.isInstalled (.var word)) =
      some (.bool (isInstalled config name)) := by
  obtain ⟨tool, htool⟩ := Dict.exists_get?_of_mem_keys hname
  have hkind : (tool.installer.kind == "provided") = tool.installer.isProvided := by
    cases tool.installer <;> rfl
  simp [Fragment.isInstalled, hloop, hword.symm, hconfig, htool, isInstalled, Config.tool?, hkind]

theorem index?_image (config : Config) {installer : Installer}
    (h : installer.isProvided = false) :
    Value.index? (.text installer.kind)
        (.ofDict (Dict.ofList
          [("http", .text config.dockerfile.fetchImage), ("s3", .text config.dockerfile.s3Image),
            ("pipx", .text config.dockerfile.pythonImage),
            ("go", .text config.dockerfile.goImage),
            ("maven", .text config.dockerfile.mavenImage)])) =
      some (.text (image config installer)) := by
  rw [Value.index?_text_ofDict, Dict.get?_ofList]
  cases installer with
  | provided default => contradiction
  | _ => rfl

theorem included?_own {name text : String} {body : List Stmt} {depth : Nat}
    (hbody : ArtifactKind.dockerfile.ownBodies.lookup name = some body)
    (htext : output? (ArtifactKind.dockerfile.engine.answer? inlining depth) 1
      (Env.ofDict (view.scene config)) body = some text) :
    ArtifactKind.dockerfile.engine.included? inlining (depth + 2) name
        (.ofDict (view.scene config)) =
      some (.text text) := by
  obtain ⟨hfragment, hescape⟩ := Recipe.fragment?_own .dockerfile hbody
  exact ArtifactKind.dockerfile.engine.included?_eq hfragment hescape ToolView.isLive_scene htext

/-- The fragment of an installed tool writes its stage. -/
theorem output?_dockerfileTool (h : view.Renderable .dockerfile inlining config)
    (hinstalled : view.tool.installer.isProvided = false)
    (hdependencies : ∀ name ∈ view.tool.dependencyNames, name ∈ config.tools.keys) :
    output? (ArtifactKind.dockerfile.engine.answer? inlining (depth + 8)) 1
        (Env.ofDict (view.scene config))
        dockerfileToolBody =
      some (stageText config view) := by
  have hscript :
      ArtifactKind.dockerfile.engine.included? inlining (depth + 8) "script"
          (.ofDict (view.scene config)) =
        some (.text (scriptText config view)) :=
    included?_own rfl (output?_dockerfileScript h)
  -- The names are looked up once here and not for each of the statements that use them.
  obtain ⟨env, henv⟩ : ∃ env, env = Env.ofDict (view.scene config) := ⟨_, rfl⟩
  have htool : env "tool" = .ofJson view.toJson := by simp [henv]
  have hconfig : env "config" = .ofJson config.toJson := by simp [henv]
  have hinclude : env "include" = .helper .inclusion := by simp [henv]
  have hscoped : env "scoped_identifier" = .helper .scopedIdentifier := by simp [henv]
  have hidentifier : env "identifier" = .helper .identifier := by simp [henv]
  have hurl : env "url_identifier" = .helper .urlIdentifier := by simp [henv]
  have harchive : env "archive_identifier" = .helper .archiveIdentifier := by simp [henv]
  have hstage : env "stage_id" = .helper .stage := by simp [henv]
  have href : env "ref" = .helper .reference := by simp [henv]
  rw [← henv]
  simp +contextual [dockerfileToolBody, -output?_branch, output?_branch_of_isOutput, htool,
    hconfig, hinclude, hscoped, hidentifier, hurl, harchive, hstage, href,
    index?_image config hinstalled, value?_isInstalled config, hdependencies, hscript]
  rw [stageText, stageLines, scopeLines]
  apply String.toList_inj.mp
  cases view.tool.installer.hasUrl <;> cases view.tool.installer.hasArchive <;>
    by_cases hpipx : view.tool.installer.kind = "pipx" <;>
    simp [copyLines, stageName, hpipx, Line.text, ArtifactKind.reference, Function.comp_def,
      String.append_assoc, List.flatMap_map]

theorem output?_extra (extra : Option String) {α : Type} (f : String → Option α) :
    (next? (Value.ofJson (.ofOption .str extra)).condition? fun holds =>
      next? (if holds then
          next? (filtered? false "trim" (Value.ofJson (.ofOption .str extra)) []) fun value =>
            next? (emitted? false value) fun text => some (text ++ "\n")
        else some "") f) =
      f (Text.unlines ((extraLines extra).map Line.text)) := by
  rw [Recipe.condition?_ofOption, next?_some]
  cases extra with
  | none => rfl
  | some s =>
      have hjson : Value.ofJson (.ofOption .str (some s)) = .text s := rfl
      by_cases hs : s = ""
      · simp [extraLines, hs]
      · simp [extraLines, hs, hjson, Line.text]

variable {plan : Plan}

theorem output?_dockerfileMain (hclosed : Closed plan)
    (h : ∀ view ∈ plan.tools, view.Renderable .dockerfile inlining plan.config)
    (outPath : String) :
    output? (ArtifactKind.dockerfile.engine.answer? inlining (depth + 10)) 1
        (Env.ofDict (plan.scene outPath)) dockerfileMainBody =
      some (text plan outPath) := by
  have harguments : ∀ view ∈ plan.tools,
      ArtifactKind.dockerfile.engine.included? inlining (depth + 10) "tool_args"
          (.ofDict (view.scene plan.config)) =
        some (.text (argumentText plan.config view)) :=
    fun view hview => included?_own rfl (output?_dockerfileToolArgs (h view hview))
  have hstages : ∀ view ∈ plan.tools.filter (fun view => !view.tool.installer.isProvided),
      ArtifactKind.dockerfile.engine.included? inlining (depth + 10) "tool"
          (.ofDict (view.scene plan.config)) =
        some (.text (stageText plan.config view)) := by
    intro view hview
    obtain ⟨hmem, hinstalled⟩ := List.mem_filter.mp hview
    exact included?_own rfl (output?_dockerfileTool (h view hmem) (by simpa using hinstalled)
      (hclosed.dependencies view hmem))
  have hmembers : ∀ (answer : Answer) (env : Env), env "config" = .ofJson plan.config.toJson →
      ∀ entry ∈ plan.config.toolSets.entries,
        keep? (fun member => next? (value? answer
            (Function.update env "member" (.text member.text))
            (Fragment.isInstalled (.var "member"))) Value.condition?) entry.2.tools =
          some (entry.2.tools.filter (fun member => isInstalled plan.config member.text)) := by
    intro answer env hconfig entry hentry
    simp +contextual [value?_isInstalled plan.config hconfig (hclosed.members entry hentry _ _)]
  -- The names are looked up once here and not for each of the statements that use them.
  obtain ⟨env, henv⟩ : ∃ env, env = Env.ofDict (plan.scene outPath) := ⟨_, rfl⟩
  have hversion : env "version" = .text version := by simp [henv]
  have hpath : env "in_path" = .text plan.provenance.path := by simp [henv]
  have hdigest : env "config_digest" = .text plan.provenance.digest := by simp [henv]
  have hout : env "out_path" = .text outPath := by simp [henv]
  have hconfig : env "config" = .ofJson plan.config.toJson := by simp [henv]
  have htools : env "tools" = .list (plan.tools.map (fun view => .ofJson view.toJson)) := by
    simp [henv]
  have hinclude : env "include" = .helper .inclusion := by simp [henv]
  have hscoped : env "scoped_identifier" = .helper .scopedIdentifier := by simp [henv]
  have hstage : env "stage_id" = .helper .stage := by simp [henv]
  have href : env "ref" = .helper .reference := by simp [henv]
  rw [← henv]
  simp +contextual [dockerfileMainBody, -output?_branch, output?_branch_of_isOutput, hversion,
    hpath, hdigest, hout, hconfig, htools, hinclude, harguments, hstages, hscoped, hstage, href,
    hmembers, trimmed_argumentText, trimmed_stageText, output?_extra, -List.mem_filter,
    -Bool.not_eq_eq_eq_not]
  apply String.toList_inj.mp
  simp [text, lines, prologue, partLines, finalLines, installed, stageText, argumentText, setLines,
    varLines, copyLines, stageName, setStageName, Line.text, ArtifactKind.reference,
    List.map_flatMap, Text.unlines_flatMap, List.filter_map, Function.comp_def,
    String.append_assoc, List.flatMap_map]

end Rendering

end Dockerfile

/-- The Dockerfile of a plan, line by line, for whatever the templated settings come to. -/
theorem Plan.emit_dockerfile_gives {plan : Plan} {mayFail : Prop} {inlining : Engine.Inlining}
    (hinlines : ArtifactKind.dockerfile.engine.Inlines mayFail inlining)
    (hclosed : Dockerfile.Closed plan)
    (h : ∀ view ∈ plan.tools, view.Renderable .dockerfile inlining plan.config)
    (outPath : String) :
    Gives mayFail (plan.emit ArtifactKind.dockerfile.fragments .dockerfile outPath)
      (Dockerfile.text plan outPath) := by
  have hmain : ArtifactKind.dockerfile.ownBodies.lookup "main" = some dockerfileMainBody := rfl
  exact plan.emit_gives hinlines hmain (Dockerfile.output?_dockerfileMain hclosed h outPath)

/-- The Dockerfile of a plan whose templated settings are in order. -/
theorem Plan.emit_dockerfile {plan : Plan} (hclosed : Dockerfile.Closed plan)
    (hrunner : ∀ view ∈ plan.tools, "" ∉ view.runner)
    (htemplates : ∀ view ∈ plan.tools, ∀ source ∈ view.tool.installer.templates,
      view.tool.IsTemplated plan.config source) (outPath : String) :
    plan.emit ArtifactKind.dockerfile.fragments .dockerfile outPath =
      .ok (Dockerfile.text plan outPath) := by
  refine (emit_dockerfile_gives (Engine.inlines_inlined? _) hclosed ?_ outPath).eq_ok
  intro view hview
  exact ToolView.renderable_inlined? (hrunner view hview) (htemplates view hview)

/-- The Dockerfile of a plan, if there is one. -/
theorem Plan.eq_text_of_emit_dockerfile {plan : Plan} (hclosed : Dockerfile.Closed plan)
    (hrunner : ∀ view ∈ plan.tools, "" ∉ view.runner) {outPath text : String}
    (hemit : plan.emit ArtifactKind.dockerfile.fragments .dockerfile outPath = .ok text) :
    text = Dockerfile.text plan outPath := by
  refine (emit_dockerfile_gives (Engine.inlines_supposed? _) hclosed ?_ outPath).eq_of_eq_ok hemit
  intro view hview
  exact ToolView.renderable_supposed? (hrunner view hview)

end Provision
