import Provision.Proofs.Artifact.Recipe

/-!
# Makefiles, line by line

What a Makefile consists of, and the proof that its fragments write these lines: for every plan
whose templated settings are in order, and for any other plan unless one of its settings cannot be
rendered.
-/

namespace Provision

open Template Fragment

namespace Makefile

inductive Line where
  | blank
  | comment (text : String)
  /-- An assignment that gives way to the environment. -/
  | default (name value : String)
  | clear (name : String)
  | phony (name : String)
  | rule (target : String) (prerequisites orderOnly : List String)
  | recipe (command : String)
deriving DecidableEq

def Line.text : Line → String
  | blank => ""
  | comment text => "# " ++ text
  | default name value => name ++ " ?= " ++ value
  | clear name => name ++ " :="
  | phony name => ".PHONY: " ++ name
  | rule target prerequisites orderOnly =>
      target ++ ":" ++ String.join (prerequisites.map (" " ++ ·)) ++
        (if orderOnly.isEmpty then "" else " |" ++ String.join (orderOnly.map (" " ++ ·)))
  | recipe command => Text.indented command

abbrev reference : String → String := ArtifactKind.makefile.reference

/-- How deep renderings may nest inside of what unpacks an archive. -/
def depth : Nat := Engine.nestingLimit - 9

/-- The variables of a tool, or those that all tools share. -/
def varLines (owner : String) (vars : Dict String) : List Line :=
  vars.entries.map
    (fun entry => .default (Name.scopedIdentifier owner entry.1) (makeText entry.2))

section

variable (config : Config) (view : ToolView)

abbrev localBin : String := reference config.localBinVar

/-- Where the binary of a tool or something made on the way to it is kept. -/
def madePath (name : String) : String := localBin config ++ "/.make-env/" ++ name

/-- The stamp of a tool changes with the settings of its installer and with its variables. -/
def stampPath : String :=
  madePath config view.name ++ "@" ++ view.tool.installer.digest ++
    String.join (view.tool.vars.keys.map (fun key =>
      "@$(subst /,_," ++ reference (Name.scopedIdentifier view.name key) ++ ")")) ++ ".stamp"

def installLines : List Line :=
  (Text.splits (Text.trimmed (Text.unlines
    (Recipe.lines .makefile config depth view.tool view.runner)))).map .recipe

def fetchLines (source : Fetch) : List Line :=
  .default (Name.urlIdentifier view.name)
      (makeText (view.tool.filled .makefile config (depth + 6) source.url)) ::
    (source.archive.map (fun archive =>
      Line.default (Name.archiveIdentifier view.name)
        (madePath config view.name ++ "." ++ archive.kind))).toList

/-- The lines that install a tool unless its stamp is there already. -/
def stampLines : List Line :=
  [.default (Name.identifier view.name) (localBin config ++ "/" ++ view.name),
      .default (Name.stampIdentifier view.name) (stampPath config view), .blank, .phony view.name,
      .rule view.name [reference (Name.stampIdentifier view.name)] [], .blank,
      .rule (reference (Name.stampIdentifier view.name))
        (view.prerequisites.map (fun name => reference (Name.stampIdentifier name)))
        [localBin config],
      .recipe ("@" ++ config.commands.mkdir ++ " -p $(dir $@)"),
      .recipe ("@" ++ config.commands.rm ++ " -f " ++ madePath config view.name ++ "@*.stamp")] ++
    installLines config view ++ [.recipe ("@" ++ config.commands.touch ++ " $@")]

def toolLines : List Line :=
  .comment (view.name ++ " (" ++ view.tool.installer.kind ++ ")") ::
    varLines view.name view.tool.vars ++
      match view.tool.installer with
      | .provided default =>
          [.default (Name.identifier view.name) (makeText default),
              .clear (Name.stampIdentifier view.name), .blank, .phony view.name,
              .rule view.name [] []] ++ installLines config view
      | installer =>
          (installer.fetch?.map (fetchLines config view)).getD [] ++ stampLines config view

def toolText : String := Text.unlines ((toolLines config view).map Line.text)

end

def setLines (name : String) (set : ToolSet) : List Line :=
  [.blank, .phony name, .rule name (set.tools.map ToolName.text) []]

def sharedLines (vars : Dict String) : List Line :=
  if vars.entries = [] then [] else .blank :: varLines "" vars

/-- The lines of a Makefile. -/
def lines (plan : Plan) (outPath : String) : List Line :=
  [.comment ("Code generated by make-env " ++ version ++ ". DO NOT EDIT."),
      .comment ("Source: " ++ plan.provenance.path ++ " (sha256:" ++ plan.provenance.digest ++ ")"),
      .comment ("Output: " ++ outPath), .blank,
      .default plan.config.localBinVar "$(CURDIR)/bin", .rule (localBin plan.config) [] [],
      .recipe (plan.config.commands.mkdir ++ " -p $@")] ++
    sharedLines plan.config.vars ++
    plan.tools.flatMap (fun view => .blank :: toolLines plan.config view) ++
    plan.config.toolSets.entries.flatMap (fun entry => setLines entry.1 entry.2)

def text (plan : Plan) (outPath : String) : String :=
  Text.unlines ((lines plan outPath).map Line.text)

/-! ## Rendering -/

section Rendering

variable {inlining : Engine.Inlining} {config : Config} {view : ToolView}

theorem toolLines_of_isProvided_eq_false (h : view.tool.installer.isProvided = false) :
    toolLines config view =
      .comment (view.name ++ " (" ++ view.tool.installer.kind ++ ")") ::
        (varLines view.name view.tool.vars ++
          ((view.tool.installer.fetch?.map (fetchLines config view)).getD [] ++
            stampLines config view)) := by
  unfold toolLines
  split
  · next heq => simp [heq, Installer.isProvided] at h
  · rfl

theorem output?_stampBody (h : view.Renderable .makefile inlining config) {env : Env}
    (htool : env "tool" = .ofJson view.toJson) (hconfig : env "config" = .ofJson config.toJson)
    (hid : env "id" = .text (Name.identifier view.name))
    (hstamp : env "stamp" = .text (Name.stampIdentifier view.name))
    (hlocal : env "local" = .text (localBin config))
    (hrefs : env "refs" = .ofDict (view.tool.refs .makefile config))
    (hctx : env "ctx" = .ofDict (view.sceneWith config view.runner))
    (hhelper : env "stamp_identifier" = .helper .stampIdentifier)
    (hinclude : env "include" = .helper .inclusion) :
    output? (ArtifactKind.makefile.engine.answer? inlining (depth + 6)) 1 env stampBody =
      some (Text.unlines ((stampLines config view).map Line.text)) := by
  have hrecipe := Recipe.included?_recipe h h.runner depth
  simp +contextual [stampBody, htool, hconfig, hid, hstamp, hlocal, hrefs, hctx, hhelper,
    hinclude, hrecipe, view.tool.index?_refs .makefile config]
  apply String.toList_inj.mp
  simp [Line.text, stampLines, installLines, madePath, localBin, stampPath,
    ArtifactKind.reference, ToolView.name, Function.comp_def, String.append_assoc,
    List.flatMap_map]

/-- The fragment of a tool writes its lines. -/
theorem output?_makefileTool (h : view.Renderable .makefile inlining config) :
    output? (ArtifactKind.makefile.engine.answer? inlining (depth + 6)) 1
        (Env.ofDict (view.scene config))
        makefileToolBody =
      some (toolText config view) := by
  unfold toolText
  cases hprovided : view.tool.installer.isProvided with
  | true =>
      have hrecipe := Recipe.included?_recipe h h.runner depth
      obtain ⟨default, hdefault⟩ := Installer.exists_of_isProvided hprovided
      rw [hdefault] at hrecipe
      simp [makefileToolBody, Recipe.output?_refs _ .makefile config view, hdefault, hrecipe,
        Installer.isProvided]
      apply String.toList_inj.mp
      simp [toolLines, hdefault, Line.text, varLines, installLines, ToolView.name,
        Function.comp_def, String.append_assoc, List.flatMap_map]
  | false =>
      rw [toolLines_of_isProvided_eq_false hprovided]
      cases hfetch : view.tool.installer.fetch? with
      | none =>
          simp [makefileToolBody, Recipe.output?_refs _ .makefile config view, hprovided,
            output?_stampBody h, Installer.hasUrl, Installer.hasArchive, hfetch]
          apply String.toList_inj.mp
          simp [Line.text, varLines, Function.comp_def, String.append_assoc, List.flatMap_map]
      | some source =>
          have hsettings := Installer.attributes_fetch hfetch
          have hurl := (Recipe.fills_of_fetch? h hfetch).1 (depth + 4)
          cases harchive : source.archive with
          | none =>
              simp [makefileToolBody, Recipe.output?_refs _ .makefile config view, hprovided,
                output?_stampBody h, Installer.hasUrl, Installer.hasArchive, hfetch, harchive,
                hsettings, hurl]
              apply String.toList_inj.mp
              simp [Line.text, varLines, fetchLines, harchive, ToolView.name,
                Function.comp_def, String.append_assoc, List.flatMap_map]
          | some archive =>
              have hjson : Json.ofOption Archive.toJson (some archive) = archive.toJson := rfl
              simp [makefileToolBody, Recipe.output?_refs _ .makefile config view, hprovided,
                output?_stampBody h, Installer.hasUrl, Installer.hasArchive, hfetch, harchive,
                hsettings, hurl, hjson]
              apply String.toList_inj.mp
              simp [Line.text, varLines, fetchLines, localBin, madePath, harchive, ToolView.name,
                Function.comp_def, String.append_assoc, List.flatMap_map]

theorem getLast?_installLines (config : Config) {default : String}
    (h : view.tool.installer = .provided default) :
    ∃ last, (installLines config view).getLast? = some (.recipe last) ∧ Text.EndsSolid last := by
  have hstart : Text.StartsSolid "command -v " := ⟨'c', "ommand -v ".toList, rfl, by decide⟩
  have hend : Text.EndsSolid " >/dev/null" := ⟨" >/dev/nul".toList, 'l', rfl, by decide⟩
  have hstart := (hstart.append (Recipe.binary .makefile view.tool)).append " >/dev/null"
  have hend := hend.append ("command -v " ++ Recipe.binary .makefile view.tool)
  have hlines :
      Text.trimmed (Text.unlines (Recipe.lines .makefile config depth view.tool view.runner)) =
        "command -v " ++ Recipe.binary .makefile view.tool ++ " >/dev/null" := by
    rw [Recipe.lines, h]
    exact Text.trimmed_ended hstart hend
  obtain ⟨last, hsplits, hlast⟩ := hend.getLast?_splits
  refine ⟨last, ?_, hlast⟩
  rw [installLines, hlines, List.getLast?_map, hsplits]
  rfl

theorem getLast?_toolLines (config : Config) (view : ToolView) :
    ∃ last, (toolLines config view).getLast? = some (.recipe last) ∧ Text.EndsSolid last := by
  cases hprovided : view.tool.installer.isProvided with
  | true =>
      obtain ⟨default, hdefault⟩ := Installer.exists_of_isProvided hprovided
      obtain ⟨last, hinstall, hlast⟩ := getLast?_installLines config hdefault
      refine ⟨last, ?_, hlast⟩
      simp [toolLines, hdefault, List.getLast?_append, List.getLast?_cons, hinstall]
  | false =>
      have hend : Text.EndsSolid " $@" := ⟨" $".toList, '@', rfl, by decide⟩
      refine ⟨"@" ++ config.commands.touch ++ " $@", ?_, hend.append _⟩
      rw [toolLines_of_isProvided_eq_false hprovided, stampLines]
      simp [List.getLast?_append, List.getLast?_cons]

/-- A tool's lines have solid ends, so that trimming them is undone by the next line end. -/
theorem trimmed_toolText (config : Config) (view : ToolView) :
    Text.trimmed (toolText config view) ++ "\n" = toolText config view := by
  have hstart : Text.StartsSolid "# " := ⟨'#', [' '], rfl, by decide⟩
  obtain ⟨last, hlast, hend⟩ := getLast?_toolLines config view
  have hfirst :
      (toolLines config view).head? =
        some (.comment (view.name ++ " (" ++ view.tool.installer.kind ++ ")")) := rfl
  apply Text.trimmed_unlines (by rw [List.head?_map, hfirst]; rfl) (hstart.append _)
    (by rw [List.getLast?_map, hlast]; rfl) hend.indented

theorem included?_makefileTool (h : view.Renderable .makefile inlining config) :
    ArtifactKind.makefile.engine.included? inlining (depth + 8) "tool"
        (.ofDict (view.scene config)) =
      some (.text (toolText config view)) := by
  have hbody : ArtifactKind.makefile.ownBodies.lookup "tool" = some makefileToolBody := rfl
  obtain ⟨hfragment, hescape⟩ := Recipe.fragment?_own .makefile hbody
  exact ArtifactKind.makefile.engine.included?_eq hfragment hescape ToolView.isLive_scene
    (output?_makefileTool h)

variable {plan : Plan}

theorem output?_makefileMain
    (h : ∀ view ∈ plan.tools, view.Renderable .makefile inlining plan.config) (outPath : String) :
    output? (ArtifactKind.makefile.engine.answer? inlining (depth + 8)) 1
        (Env.ofDict (plan.scene outPath))
        makefileMainBody =
      some (text plan outPath) := by
  have hincluded : ∀ view ∈ plan.tools,
      ArtifactKind.makefile.engine.included? inlining (depth + 8) "tool"
          (.ofDict (view.scene plan.config)) =
        some (.text (toolText plan.config view)) :=
    fun view hview => included?_makefileTool (h view hview)
  -- The names are looked up once here and not for each of the statements that use them.
  obtain ⟨env, henv⟩ : ∃ env, env = Env.ofDict (plan.scene outPath) := ⟨_, rfl⟩
  have hversion : env "version" = .text version := by simp [henv]
  have hpath : env "in_path" = .text plan.provenance.path := by simp [henv]
  have hdigest : env "config_digest" = .text plan.provenance.digest := by simp [henv]
  have hout : env "out_path" = .text outPath := by simp [henv]
  have hconfig : env "config" = .ofJson plan.config.toJson := by simp [henv]
  have htools : env "tools" = .list (plan.tools.map (fun view => .ofJson view.toJson)) := by
    simp [henv]
  have hinclude : env "include" = .helper .inclusion := by simp [henv]
  have hscoped : env "scoped_identifier" = .helper .scopedIdentifier := by simp [henv]
  rw [← henv]
  by_cases hvars : plan.config.vars.entries = []
  · simp +contextual [makefileMainBody, hversion, hpath, hdigest, hout, hconfig, htools, hinclude,
      hvars, hincluded, trimmed_toolText]
    apply String.toList_inj.mp
    simp [text, lines, Line.text, sharedLines, hvars, toolText, setLines, ArtifactKind.reference,
      List.map_flatMap, Text.unlines_flatMap, Function.comp_def, String.append_assoc,
      List.flatMap_map]
  · simp +contextual [makefileMainBody, hversion, hpath, hdigest, hout, hconfig, htools, hinclude,
      hscoped, hvars, hincluded, trimmed_toolText]
    apply String.toList_inj.mp
    simp [text, lines, Line.text, sharedLines, hvars, toolText, setLines, varLines,
      ArtifactKind.reference, List.map_flatMap, Text.unlines_flatMap, Function.comp_def,
      String.append_assoc, List.flatMap_map]

end Rendering

end Makefile

/-- The Makefile of a plan, line by line, for whatever the templated settings come to. -/
theorem Plan.emit_makefile_gives {plan : Plan} {mayFail : Prop} {inlining : Engine.Inlining}
    (hinlines : ArtifactKind.makefile.engine.Inlines mayFail inlining)
    (h : ∀ view ∈ plan.tools, view.Renderable .makefile inlining plan.config) (outPath : String) :
    Gives mayFail (plan.emit ArtifactKind.makefile.fragments .makefile outPath)
      (Makefile.text plan outPath) := by
  have hmain : ArtifactKind.makefile.ownBodies.lookup "main" = some makefileMainBody := rfl
  exact plan.emit_gives hinlines hmain (Makefile.output?_makefileMain h outPath)

/-- The Makefile of a plan whose templated settings are in order. -/
theorem Plan.emit_makefile {plan : Plan} (hrunner : ∀ view ∈ plan.tools, "" ∉ view.runner)
    (htemplates : ∀ view ∈ plan.tools, ∀ source ∈ view.tool.installer.templates,
      view.tool.IsTemplated plan.config source) (outPath : String) :
    plan.emit ArtifactKind.makefile.fragments .makefile outPath =
      .ok (Makefile.text plan outPath) := by
  refine (emit_makefile_gives (Engine.inlines_inlined? _) ?_ outPath).eq_ok
  intro view hview
  exact ToolView.renderable_inlined? (hrunner view hview) (htemplates view hview)

/-- The Makefile of a plan, if there is one. -/
theorem Plan.eq_text_of_emit_makefile {plan : Plan}
    (hrunner : ∀ view ∈ plan.tools, "" ∉ view.runner) {outPath text : String}
    (hemit : plan.emit ArtifactKind.makefile.fragments .makefile outPath = .ok text) :
    text = Makefile.text plan outPath := by
  refine (emit_makefile_gives (Engine.inlines_supposed? _) ?_ outPath).eq_of_eq_ok hemit
  intro view hview
  exact ToolView.renderable_supposed? (hrunner view hview)

end Provision
