import Provision.Proofs.Artifact.Mentions

/-!
# References in scope

A Dockerfile knows the build arguments that were declared before, and forgets them at every new
stage, but it can copy from the stages that it started.  Where dollar signs stand in references
alone, its lines refer to what is known where they stand.
-/

namespace Provision

namespace Dockerfile

/-- What a line can refer to: the build arguments that were declared before it in its stage, or
before the first of them, and the stages that were started before it. -/
structure Known where
  arguments : List String := []
  stages : List String := []

namespace Known

/-- What is known behind a line. -/
def after (known : Known) (line : List Char) : Known :=
  if isStage line then ⟨[], (stage? line).toList ++ known.stages⟩
  else ⟨(argument? line).toList ++ known.arguments, known.stages⟩

/-- What is known behind the first lines of a Dockerfile. -/
def behind (lines : List (List Char)) : Known := lines.foldl after {}

def past (known : Known) : Line → Known
  | .stage _ name => ⟨[], name :: known.stages⟩
  | .argument name _ => ⟨name :: known.arguments, known.stages⟩
  | _ => known

/-- A variable with a value: a build argument or what the image sets. -/
def Has (known : Known) (name : String) : Prop :=
  name = "PATH" ∨ name ∈ known.arguments

theorem after_text {line : Line} (h : line.Sound) (known : Known) :
    known.after line.text.toList = known.past line := by
  unfold after
  rw [h.isStage_text, h.stage?_text, h.argument?_text]
  cases line <;> rfl

theorem foldl_after_text {lines : List Line} (h : ∀ line ∈ lines, line.Sound) (known : Known) :
    (lines.map (fun line => line.text.toList)).foldl after known = lines.foldl past known := by
  induction lines generalizing known with
  | nil => rfl
  | cons line rest ih =>
      rw [List.map_cons, List.foldl_cons, List.foldl_cons, after_text (h line List.mem_cons_self)]
      exact ih (fun other hother => h other (List.mem_cons_of_mem line hother)) _

theorem mem_stages_foldl {lines : List Line} {known : Known} {name : String} :
    name ∈ (lines.foldl past known).stages ↔
      name ∈ lines.filterMap Line.stage? ∨ name ∈ known.stages := by
  induction lines generalizing known with
  | nil => simp
  | cons line rest ih =>
      rw [List.foldl_cons, ih]
      cases line <;> simp [past, Line.stage?, or_assoc, or_left_comm]

/-- Only a new stage makes build arguments forgotten. -/
theorem mem_arguments_foldl {lines : List Line} {known : Known}
    (h : ∀ line ∈ lines, line.stage? = none) {name : String} :
    name ∈ (lines.foldl past known).arguments ↔
      name ∈ lines.filterMap Line.argument? ∨ name ∈ known.arguments := by
  induction lines generalizing known with
  | nil => simp
  | cons line rest ih =>
      rw [List.foldl_cons, ih (fun other hother => h other (List.mem_cons_of_mem line hother))]
      have hline := h line List.mem_cons_self
      cases line with
      | stage image name => simp [Line.stage?] at hline
      | _ => simp [past, Line.argument?, or_assoc, or_left_comm]

end Known

/-- What every line refers to is known there: the build arguments, apart from what images set, and
the stage that it copies from. -/
def SelfContained (text : String) : Prop :=
  ∀ before line after, Text.pieces '\n' text.toList = before ++ line :: after →
    (∀ name, '\x7d' ∉ name.toList → (reference name).toList <:+: line →
      (Known.behind before).Has name) ∧
    ∀ origin ∈ origin? line, origin ∈ (Known.behind before).stages

/-- A line is of its kind, and what it refers to is known. -/
structure Line.Fits (known : Known) (line : Line) : Prop where
  sound : line.Sound
  mentions : Mentions .dockerfile known.Has line.text.toList
  origin : ∀ origin ∈ line.origin?, origin ∈ known.stages

theorem Line.Fits.mono {known more : Known} {line : Line} (h : line.Fits known)
    (harguments : known.arguments ⊆ more.arguments) (hstages : known.stages ⊆ more.stages) :
    line.Fits more where
  sound := h.sound
  mentions := h.mentions.mono (fun _ hname => hname.imp id (fun hmem => harguments hmem))
  origin := fun origin horigin => hstages (h.origin origin horigin)

/-- Every line refers to what is known where it stands. -/
def InOrder (known : Known) : List Line → Prop
  | [] => True
  | line :: rest => line.Fits known ∧ InOrder (known.past line) rest

section InOrder

variable {known : Known} {lines others : List Line}

theorem inOrder_append :
    InOrder known (lines ++ others) ↔
      InOrder known lines ∧ InOrder (lines.foldl Known.past known) others := by
  induction lines generalizing known with
  | nil => simp [InOrder]
  | cons line rest ih => simp only [List.cons_append, InOrder, ih, List.foldl_cons, and_assoc]

/-- Lines that refer to nothing among them can stand one below the other. -/
theorem inOrder_of_forall (h : ∀ line ∈ lines, line.Fits known ∧ line.stage? = none) :
    InOrder known lines := by
  induction lines generalizing known with
  | nil => trivial
  | cons line rest ih =>
      obtain ⟨hfits, hstage⟩ := h line List.mem_cons_self
      refine ⟨hfits, ih ?_⟩
      intro other hother
      obtain ⟨hothers, hnone⟩ := h other (List.mem_cons_of_mem line hother)
      refine ⟨hothers.mono ?_ ?_, hnone⟩
      · cases line with
        | stage image name => simp [Line.stage?] at hstage
        | argument name value => exact List.subset_cons_self _ _
        | _ => exact List.Subset.refl _
      · cases line with
        | stage image name => simp [Line.stage?] at hstage
        | _ => exact List.Subset.refl _

/-- Blocks of lines are in order if each is in order behind those before it. -/
theorem inOrder_flatMap {α : Type} {items : List α} {block : α → List Line}
    (h : ∀ before item after, items = before ++ item :: after →
      InOrder ((before.flatMap block).foldl Known.past known) (block item)) :
    InOrder known (items.flatMap block) := by
  induction items generalizing known with
  | nil => trivial
  | cons item rest ih =>
      rw [List.flatMap_cons, inOrder_append]
      refine ⟨h [] item rest rfl, ih ?_⟩
      intro before other after hsplit
      have hblock := h (item :: before) other after (by rw [hsplit, List.cons_append])
      rw [List.flatMap_cons, List.foldl_append] at hblock
      exact hblock

theorem InOrder.sound (h : InOrder known lines) : ∀ line ∈ lines, line.Sound := by
  induction lines generalizing known with
  | nil => exact fun line hline => absurd hline List.not_mem_nil
  | cons first rest ih =>
      intro line hline
      rcases List.mem_cons.mp hline with rfl | hrest
      · exact h.1.sound
      · exact ih h.2 line hrest

theorem fits_blank : Line.blank.Fits known where
  sound := trivial
  mentions := .nil
  origin := fun _ horigin => nomatch horigin

/-- Lines in order make a text in which they are in order as they are read. -/
theorem InOrder.selfContained (h : InOrder {} lines) :
    SelfContained (Text.unlines (lines.map Line.text)) := by
  intro before line after hsplit
  -- The empty piece behind the last line end is read as one more blank line.
  have hblank : InOrder {} (lines ++ [.blank]) := inOrder_append.mpr ⟨h, fits_blank, trivial⟩
  have hpieces := Text.pieces_unlines (fun line hline => (h.sound line hline).oneLine)
  have hended : lines.map (fun line => line.text.toList) ++ [[]] =
      (lines ++ [Line.blank]).map (fun line => line.text.toList) := by
    rw [List.map_append]
    rfl
  have hline : '\n' ∉ line :=
    Text.notMem_of_mem_pieces (by rw [hsplit]; exact List.mem_append_right _ List.mem_cons_self)
  rw [hsplit, hended] at hpieces
  obtain ⟨first, rest, heq, rfl, hrest⟩ := List.map_eq_append_iff.mp hpieces.symm
  obtain ⟨middle, last, rfl, rfl, -⟩ := List.map_eq_cons_iff.mp hrest
  rw [heq, inOrder_append] at hblank
  rw [Known.behind, Known.foldl_after_text hblank.1.sound, hblank.2.1.sound.origin?_text]
  refine ⟨?_, hblank.2.1.origin⟩
  intro name hclosing hoccurs
  refine hblank.2.1.mentions name ⟨hclosing, fun hmem => hline (hoccurs.subset ?_)⟩ hoccurs
  rw [ArtifactKind.toList_reference]
  simp [hmem]

end InOrder

/-- The settings that say what stages are made from, what they are called and where binaries go. -/
def words (settings : DockerfileSettings) : List String :=
  [settings.fetchImage, settings.s3Image, settings.pythonImage, settings.goImage,
    settings.mavenImage, settings.finalImage, settings.stagePrefix, settings.finalStage,
    settings.installDir]

theorem mem_texts_of_mem_words {config : Config} (word : String)
    (h : word ∈ words config.dockerfile) : word ∈ config.toJson.texts := by
  have hdockerfile : config.dockerfile.toJson.texts ⊆ config.toJson.texts := by
    rw [Config.toJson]
    exact Json.texts_subset_of_mem "dockerfile" (by simp)
  apply hdockerfile
  simp only [words, List.mem_cons, List.not_mem_nil, or_false] at h
  rw [DockerfileSettings.toJson]
  rcases h with rfl | rfl | rfl | rfl | rfl | rfl | rfl | rfl | rfl
  · exact Json.mem_texts_of_mem "fetch_image" (by simp)
  · exact Json.mem_texts_of_mem "s3_image" (by simp)
  · exact Json.mem_texts_of_mem "python_image" (by simp)
  · exact Json.mem_texts_of_mem "go_image" (by simp)
  · exact Json.mem_texts_of_mem "maven_image" (by simp)
  · exact Json.mem_texts_of_mem "final_image" (by simp)
  · exact Json.mem_texts_of_mem "stage_prefix" (by simp)
  · exact Json.mem_texts_of_mem "final_stage" (by simp)
  · exact Json.mem_texts_of_mem "install_dir" (by simp)

section Lines

variable {known : Known}

theorem fits_comment {text : String} (h : Flat text) : (Line.comment text).Fits known where
  sound := h.1
  mentions := ((Refers.literal (by decide)).append (.literal h.2)).mentions
  origin := fun _ horigin => nomatch horigin

theorem fits_argument {name value : String} (hsound : (Line.argument name (some value)).Sound)
    (hvalue : Refers .dockerfile known.Has value) :
    (Line.argument name (some value)).Fits known where
  sound := hsound
  mentions := ((((Refers.literal (by decide)).append hsound.1.refers).append
    (.literal (by decide))).append hvalue).mentions
  origin := fun _ horigin => nomatch horigin

theorem fits_redeclared {name : String} (hname : Name.IsPlain name) :
    (Line.argument name none).Fits known where
  sound := ⟨hname, fun _ htext => nomatch htext⟩
  mentions := ((Refers.literal (by decide)).append hname.refers).mentions
  origin := fun _ horigin => nomatch horigin

theorem fits_stage {image name : String} (himage : Unblank image ∧ '$' ∉ image.toList)
    (hname : Unblank name ∧ '$' ∉ name.toList) : (Line.stage image name).Fits known where
  sound := ⟨himage.1, hname.1⟩
  mentions := ((((Refers.literal (by decide)).append (.literal himage.2)).append
    (.literal (by decide))).append (.literal hname.2)).mentions
  origin := fun _ horigin => nomatch horigin

theorem fits_run {command : String} (hline : OneLine command) (hdollar : '$' ∉ command.toList) :
    (Line.run command).Fits known where
  sound := hline
  mentions := ((Refers.literal (by decide)).append (.literal hdollar)).mentions
  origin := fun _ horigin => nomatch horigin

theorem fits_script {command : String} (hline : OneLine command)
    (h : Mentions .dockerfile known.Has command.toList) : (Line.script command).Fits known where
  sound := hline
  mentions := h.indented
  origin := fun _ horigin => nomatch horigin

theorem fits_scriptEnd : Line.scriptEnd.Fits known where
  sound := trivial
  mentions := (Refers.literal (by decide)).mentions
  origin := fun _ horigin => nomatch horigin

theorem fits_copy {origin source target : String} (hstage : origin ∈ known.stages)
    (horigin : Unblank origin ∧ '$' ∉ origin.toList)
    (hsource : OneLine source ∧ Refers .dockerfile known.Has source)
    (htarget : OneLine target ∧ Refers .dockerfile known.Has target) :
    (Line.copy origin source target).Fits known where
  sound := ⟨horigin.1, hsource.1, htarget.1⟩
  mentions := by
    apply Refers.mentions
    apply Refers.join
    simp only [List.forall_mem_cons, List.not_mem_nil, false_implies, implies_true, and_true]
    exact ⟨.literal (by decide), .literal horigin.2, .literal (by decide), hsource.2,
      .literal (by decide), htarget.2, .literal (by decide)⟩
  origin := by
    rintro name hname
    obtain rfl := Option.some.inj hname
    exact hstage

theorem fits_searchPath {dir : String} (hline : OneLine dir) (hdollar : '$' ∉ dir.toList) :
    (Line.searchPath dir).Fits known where
  sound := hline
  mentions := by
    have hend : ":$\x7bPATH\x7d\"" = ":" ++ ArtifactKind.dockerfile.reference "PATH" ++ "\"" := by
      decide
    rw [Line.text, hend]
    exact (((Refers.literal (by decide)).append (.literal hdollar)).append
      (((Refers.literal (by decide)).append (.reference (by decide) (Or.inl rfl))).append
        (.literal (by decide)))).mentions
  origin := fun _ horigin => nomatch horigin

end Lines

section Blocks

variable {config : Config} {view : ToolView} {known : Known}

theorem refers_localBin (h : Name.isIdentifier config.localBinVar = true)
    (hlocal : config.localBinVar ∈ known.arguments) :
    OneLine (localBin config) ∧ Refers .dockerfile known.Has (localBin config) := by
  have hplain := (Name.isPlain_of_isIdentifier h).1
  exact ⟨oneLine_reference hplain, .reference hplain (Or.inr hlocal)⟩

theorem fits_of_mem_varLines {owner : String} {vars : Dict String} {line : Line}
    (howner : Name.IsPlain owner) (hkeys : ∀ key ∈ vars.keys, Name.IsPlain key)
    (hvalues : ∀ value ∈ vars.values, '$' ∉ value.toList) (hline : line ∈ varLines owner vars) :
    line.Fits known ∧ line.stage? = none := by
  have hsound := sound_of_mem_varLines howner hkeys hline
  obtain ⟨⟨key, value⟩, hentry, rfl⟩ := List.mem_map.mp hline
  exact ⟨fits_argument hsound (.argText (hvalues value (List.mem_map_of_mem hentry))), rfl⟩

theorem filterMap_argument?_varLines (owner : String) (vars : Dict String) :
    (varLines owner vars).filterMap Line.argument? =
      vars.keys.map (Name.scopedIdentifier owner) := by
  rw [varLines, List.filterMap_map, Dict.keys, List.map_map, ← List.filterMap_eq_map]
  rfl

/-- The build arguments of a tool refer to each other and to those that all tools share. -/
theorem inOrder_argumentLines (hconfig : config.OneLined) (hview : view.OneLined)
    (h : Legible config view.tool none) (hvalues : ∀ value ∈ view.tool.vars.values,
      '$' ∉ value.toList) (hlocal : config.localBinVar ∈ known.arguments)
    (hshared : ∀ key ∈ config.vars.keys, Name.scopedIdentifier "" key ∈ known.arguments) :
    InOrder known (argumentLines config view) := by
  have hplain : Name.IsPlain view.name := view.tool.name.isPlain_text
  have hvars : ∀ line ∈ varLines view.name view.tool.vars, line.Fits known ∧ line.stage? = none :=
    fun line hline => fits_of_mem_varLines hplain hview.isPlain_vars hvalues hline
  have hknown : ∀ name, name ∈ view.tool.varNames ∨ name ∈ known.arguments →
      ((varLines view.name view.tool.vars).foldl Known.past known).Has name := by
    intro name hname
    apply Or.inr
    rw [Known.mem_arguments_foldl (fun line hline => (hvars line hline).2),
      filterMap_argument?_varLines]
    exact hname
  have hplainLocal := (Name.isPlain_of_isIdentifier h.isIdentifier_localBinVar).1
  have hbin : Refers .dockerfile ((varLines view.name view.tool.vars).foldl Known.past known).Has
      (localBin config) := .reference hplainLocal (hknown _ (Or.inr hlocal))
  rw [argumentLines, inOrder_append]
  refine ⟨inOrder_of_forall hvars, inOrder_of_forall ?_⟩
  intro line hline
  have hmem : line ∈ argumentLines config view := List.mem_append_right _ hline
  refine ⟨?_, stage?_of_mem_argumentLines hmem⟩
  have hsound := sound_of_mem_argumentLines hconfig hview hmem
  split at hline
  · next default hdefault =>
      obtain rfl := List.mem_singleton.mp hline
      have hvalue : '$' ∉ default.toList := by
        apply h.settings
        rw [hdefault]
        exact Installer.mem_texts_of_mem_settings "default" (by simp [Installer.settings])
      exact fits_argument hsound (.argText hvalue)
  · rcases List.mem_cons.mp hline with rfl | hfetched
    · exact fits_argument hsound ((hbin.append (.literal (by decide))).append hplain.refers)
    · cases hfetch : view.tool.installer.fetch? with
      | none =>
          rw [hfetch] at hfetched
          exact absurd hfetched List.not_mem_nil
      | some source =>
          rw [hfetch] at hfetched
          rcases List.mem_cons.mp hfetched with rfl | harchived
          · have hrendered : source.url ∈ view.tool.installer.rendered := by
              rw [Installer.rendered_of_fetch? hfetch]
              exact List.mem_cons_self
            have hnames : ∀ name ∈ Recipe.templateNames config view.tool,
                ((varLines view.name view.tool.vars).foldl Known.past known).Has name := by
              intro name hname
              rcases List.mem_append.mp hname with hmem | hown
              · obtain ⟨key, hkey, rfl⟩ := List.mem_map.mp hmem
                exact hknown _ (Or.inr (hshared key hkey))
              · exact hknown _ (Or.inl hown)
            have hfilled := (Recipe.mirrored_template h hrendered (depth + 6)).mono hnames
            exact fits_argument hsound hfilled.refers_argText
          · obtain ⟨archive, -, rfl⟩ := Option.map_eq_some_iff.mp (Option.mem_toList.mp harchived)
            exact fits_argument hsound ((((hbin.append (.literal (by decide))).append
              hplain.refers).append (.literal (by decide))).append archive.isPlain_kind.refers)

variable (hwords : ∀ word ∈ words config.dockerfile, Unblank word ∧ '$' ∉ word.toList)

include hwords

theorem unblank_image (installer : Installer) :
    Unblank (image config installer) ∧ '$' ∉ (image config installer).toList := by
  cases installer with
  | provided default =>
      have hempty : Unblank "" ∧ '$' ∉ "".toList := by simp [Unblank]
      exact hempty
  | _ => exact hwords _ (by simp [words, image])

theorem unblank_stageName {name : String} (h : Name.IsPlain name) :
    Unblank (stageName config name) ∧ '$' ∉ (stageName config name).toList := by
  obtain ⟨hstart, hdollar⟩ := hwords config.dockerfile.stagePrefix (by simp [words])
  refine ⟨hstart.append (unblank_of_isPlain h.stage), ?_⟩
  simp [stageName, hdollar, h.stage.dollar_notMem]

theorem unblank_setStageName {name : String} (h : Name.IsPlain name) :
    Unblank (setStageName config name) ∧ '$' ∉ (setStageName config name).toList := by
  obtain ⟨hstart, hdollar⟩ := hwords config.dockerfile.stagePrefix (by simp [words])
  refine ⟨(hstart.append (unblank_of_isPlain (by decide))).append (unblank_of_isPlain h.stage), ?_⟩
  simp [setStageName, hdollar, h.stage.dollar_notMem]

theorem fits_of_mem_copyLines (h : Name.isIdentifier config.localBinVar = true)
    (hlocal : config.localBinVar ∈ known.arguments) {names : List String}
    (hplain : ∀ name ∈ names, Name.IsPlain name)
    (hstages : ∀ name ∈ names, isInstalled config name = true →
      stageName config name ∈ known.stages)
    {line : Line} (hline : line ∈ copyLines config names) :
    line.Fits known ∧ line.stage? = none := by
  obtain ⟨name, hname, rfl⟩ := List.mem_map.mp hline
  obtain ⟨hmem, hinstalled⟩ := List.mem_filter.mp hname
  have hbin := refers_localBin h hlocal
  exact ⟨fits_copy (hstages name hmem hinstalled) (unblank_stageName hwords (hplain name hmem)) hbin
    hbin, rfl⟩

omit hwords in
theorem mentions_scriptText (h : Legible config view.tool none) {names : String → Prop}
    (hnames : ∀ name ∈ Recipe.names config view.tool none, names name) :
    Mentions .dockerfile names (scriptText config view).toList := by
  have hplain := (Name.isPlain_of_isIdentifier h.isIdentifier_localBinVar).1
  have hmkdir := h.commands ("mkdir", config.commands.mkdir) (by simp [Commands.fields])
  have hlocal := hnames config.localBinVar (by simp [Recipe.names])
  have hrecipe : Refers .dockerfile names
      (Text.unlines (Recipe.lines .dockerfile config depth view.tool none)) :=
    ((Recipe.mirrored_lines h depth).mono hnames).refers
  apply Mentions.unlines
  intro line hline
  simp only [List.mem_cons, List.not_mem_nil, or_false] at hline
  rcases hline with rfl | rfl | rfl
  · exact (Refers.literal (by decide)).mentions
  · exact ((((Refers.literal hmkdir).append (.literal (by decide))).append
      (.reference hplain hlocal)).append (.literal (by decide))).mentions
  · exact hrecipe.mentions.of_isInfix (Text.trimmed_isInfix _)

omit hwords in
/-- A stage declares what the recipe refers to and what its dependencies are called. -/
theorem scopeLines_eq (config : Config) (view : ToolView) :
    scopeLines config view =
      (Recipe.names config view.tool none ++ view.tool.dependencyNames.map Name.identifier).map
        (fun name => .argument name none) := by
  simp [scopeLines, Recipe.names, Recipe.templateNames, Tool.varNames, Tool.fetchedNames,
    ToolView.name]

omit hwords in
theorem fits_of_mem_scopeLines (h : Legible config view.tool none) {line : Line}
    (hline : line ∈ scopeLines config view) : line.Fits known ∧ line.stage? = none := by
  rw [scopeLines_eq] at hline
  obtain ⟨name, hname, rfl⟩ := List.mem_map.mp hline
  refine ⟨fits_redeclared ?_, rfl⟩
  rcases List.mem_append.mp hname with hrecipe | hdependency
  · exact Recipe.isPlain_of_mem_names h hrecipe
  · obtain ⟨dependency, hmem, rfl⟩ := List.mem_map.mp hdependency
    obtain ⟨other, -, rfl⟩ := List.mem_map.mp hmem
    exact other.isPlain_text.identifier

/-- The script of a stage refers to build arguments that the stage declares, and the binaries of
the dependencies come from their stages. -/
theorem inOrder_stageLines (h : Legible config view.tool none)
    (hdependencies : ∀ name ∈ view.tool.dependencyNames, isInstalled config name = true →
      stageName config name ∈ known.stages) :
    InOrder known (stageLines config view) := by
  have hplain : Name.IsPlain view.name := view.tool.name.isPlain_text
  obtain ⟨inner, hinner⟩ : ∃ inner, inner = (scopeLines config view).foldl Known.past
      (known.past (.stage (image config view.tool.installer) (stageName config view.name))) :=
    ⟨_, rfl⟩
  have hnames : ∀ name ∈ Recipe.names config view.tool none, name ∈ inner.arguments := by
    intro name hname
    have hscope : ∀ line ∈ scopeLines config view, line.Fits known ∧ line.stage? = none :=
      fun line hline => fits_of_mem_scopeLines h hline
    rw [hinner, Known.mem_arguments_foldl (fun line hline => (hscope line hline).2), scopeLines_eq]
    exact Or.inl (List.mem_filterMap.mpr
      ⟨.argument name none, List.mem_map_of_mem (List.mem_append_left _ hname), rfl⟩)
  have hstages : ∀ name ∈ view.tool.dependencyNames, isInstalled config name = true →
      stageName config name ∈ inner.stages := by
    intro name hname hinstalled
    rw [hinner, Known.mem_stages_foldl]
    exact Or.inr (List.mem_cons_of_mem _ (hdependencies name hname hinstalled))
  have hscript : Mentions .dockerfile inner.Has (scriptText config view).toList :=
    mentions_scriptText h (fun name hname => Or.inr (hnames name hname))
  rw [stageLines, List.append_assoc, List.append_assoc, List.append_assoc, List.cons_append]
  refine ⟨fits_stage (unblank_image hwords _) (unblank_stageName hwords hplain), ?_⟩
  rw [inOrder_append, ← hinner]
  refine ⟨inOrder_of_forall (fun line hline => fits_of_mem_scopeLines h hline),
    inOrder_of_forall ?_⟩
  intro line hline
  simp only [List.mem_append, List.mem_cons, List.mem_map, List.mem_ite_nil_right,
    List.not_mem_nil, or_false] at hline
  rcases hline with hcopy | (⟨-, rfl⟩ | (rfl | ⟨command, hcommand, rfl⟩) | rfl)
  · refine fits_of_mem_copyLines hwords h.isIdentifier_localBinVar
      (hnames _ (by simp [Recipe.names])) ?_ hstages hcopy
    intro name hname
    obtain ⟨other, -, rfl⟩ := List.mem_map.mp hname
    exact other.isPlain_text
  · exact ⟨fits_run (by decide) (by decide), rfl⟩
  · exact ⟨fits_run (by decide) (by decide), rfl⟩
  · exact ⟨fits_script (oneLine_of_mem_splits hcommand) (hscript.of_mem_splits hcommand), rfl⟩
  · exact ⟨fits_scriptEnd, rfl⟩

theorem inOrder_setLines (h : Name.isIdentifier config.localBinVar = true) {name : String}
    {set : ToolSet} (hname : set.name.text = name)
    (hstages : ∀ member ∈ set.tools, isInstalled config member.text = true →
      stageName config member.text ∈ known.stages) :
    InOrder known (setLines config name set) := by
  have hplain := set.name.isPlain_text
  rw [hname] at hplain
  have hscratch : Unblank "scratch" ∧ '$' ∉ "scratch".toList :=
    ⟨unblank_of_isPlain (by decide), by decide⟩
  refine ⟨fits_blank, fits_stage hscratch (unblank_setStageName hwords hplain),
    fits_redeclared (Name.isPlain_of_isIdentifier h).1, inOrder_of_forall ?_⟩
  intro line hline
  refine fits_of_mem_copyLines hwords h List.mem_cons_self ?_ ?_ hline
  · intro member hmember
    obtain ⟨other, -, rfl⟩ := List.mem_map.mp hmember
    exact other.isPlain_text
  · intro member hmember hinstalled
    obtain ⟨other, hother, rfl⟩ := List.mem_map.mp hmember
    exact List.mem_cons_of_mem _ (hstages other hother hinstalled)

end Blocks

section Text

variable {draft : Draft} {config : Config} {provenance : Provenance} {plan : Plan}

/-- An installed tool is among those that have stages. -/
theorem exists_installed (hnames : config.KeyedByName)
    (hplan : Plan.ofConfig config provenance = .ok plan) {name : String}
    (hinstalled : isInstalled config name = true) :
    ∃ view ∈ installed plan, view.name = name := by
  obtain ⟨tool, htool, hkind⟩ := (Option.any_eq_true _ _).mp hinstalled
  have hview : ToolView.ofTool config tool ∈ plan.tools := by
    rw [(Plan.tools_perm hplan).mem_iff]
    exact List.mem_map_of_mem (Dict.mem_values_iff.mpr ⟨name, htool⟩)
  exact ⟨_, List.mem_filter.mpr ⟨hview, hkind⟩, hnames name tool htool⟩

/-- The stages of installed dependencies stand before the stage of what depends on them. -/
theorem exists_installed_before (hnames : config.KeyedByName)
    (hplan : Plan.ofConfig config provenance = .ok plan) {before after : List ToolView}
    {view : ToolView} (hsplit : installed plan = before ++ view :: after) {name : String}
    (hname : name ∈ view.tool.dependencyNames) (hinstalled : isInstalled config name = true) :
    ∃ other ∈ before, other.name = name := by
  obtain ⟨front, rest, htools, rfl, hrest⟩ := List.filter_eq_append_iff.mp hsplit
  obtain ⟨skipped, others, rfl, hskipped, -, -⟩ := List.filter_eq_cons_iff.mp hrest
  have hdependency := (Plan.ordered_of_ofConfig hnames hplan).dependencies (front ++ skipped) view
    others (by rw [htools, List.append_assoc]) name hname
  obtain ⟨other, hother, rfl⟩ := List.mem_map.mp hdependency
  have hmem : other ∈ plan.tools := by
    rw [htools, ← List.append_assoc]
    exact List.mem_append_left _ hother
  rw [isInstalled_name hnames hplan hmem] at hinstalled
  rcases List.mem_append.mp hother with hfront | hskip
  · exact ⟨other, List.mem_filter.mpr ⟨hfront, hinstalled⟩, rfl⟩
  · exact absurd hinstalled (hskipped other hskip)

theorem mem_stages_of_mem {views : List ToolView} {view : ToolView} (hview : view ∈ views)
    (known : Known) :
    stageName config view.name ∈
      ((views.flatMap (fun view => .blank :: stageLines config view)).foldl
        Known.past known).stages := by
  rw [Known.mem_stages_foldl, List.filterMap_flatMap]
  refine Or.inl (List.mem_flatMap.mpr ⟨view, hview, List.mem_filterMap.mpr ?_⟩)
  exact ⟨.stage (image config view.tool.installer) (stageName config view.name),
    by simp [stageLines], rfl⟩

variable (h : Accepted draft config) (hplan : Plan.ofConfig config provenance = .ok plan)
  (hflat : ∀ s ∈ config.toJson.texts, Flat s)
  (htemplates : ∀ tool ∈ config.tools.values, ∀ source ∈ tool.installer.templates,
    tool.IsTemplated config source)

include h hplan hflat htemplates

theorem legible_of_mem_tools {view : ToolView} (hview : view ∈ plan.tools) :
    Legible config view.tool none := by
  obtain ⟨tool, htool, rfl⟩ := Plan.exists_tool_of_mem_tools hplan hview
  exact h.legible (fun s hs => (hflat s hs).2) htool (htemplates tool htool) (by simp)

omit hplan htemplates in
/-- The header and the build arguments that do not belong to a tool. -/
theorem exists_front (hpath : Flat plan.provenance.path) (hdigest : Flat plan.provenance.digest)
    {outPath : String} (hout : Flat outPath) (hconfig : plan.config = config) :
    ∃ front, prologue plan outPath = front ++ plan.tools.flatMap (argumentLines config) ∧
      (∀ line ∈ front, line.Fits {} ∧ line.stage? = none) ∧
      config.localBinVar ∈ front.filterMap Line.argument? ∧
      ∀ key ∈ config.vars.keys, Name.scopedIdentifier "" key ∈ front.filterMap Line.argument? := by
  subst hconfig
  have hdollar : ∀ s ∈ plan.config.toJson.texts, '$' ∉ s.toList := fun s hs => (hflat s hs).2
  have hlocal := (Name.isPlain_of_isIdentifier h.isIdentifier_localBinVar).1
  have hinstallDir := hdollar _
    (mem_texts_of_mem_words plan.config.dockerfile.installDir (by simp [words]))
  have hempty : Name.IsPlain "" := by decide
  refine ⟨_, rfl, List.forall_mem_append.mpr ⟨?_, ?_⟩, ?_, ?_⟩
  · have hsource : Flat ("Source: " ++ plan.provenance.path ++ " (sha256:" ++
        plan.provenance.digest ++ ")") := by
      simp [Flat, hpath.1, hpath.2, hdigest.1, hdigest.2]
      decide
    have houtput : Flat ("Output: " ++ outPath) := by
      simp [Flat, hout.1, hout.2]
      decide
    simp only [List.forall_mem_cons, List.not_mem_nil, false_implies, implies_true, and_true]
    exact ⟨⟨fits_comment (by decide), rfl⟩, ⟨fits_comment (by decide), rfl⟩,
      ⟨fits_comment hsource, rfl⟩, ⟨fits_comment houtput, rfl⟩, ⟨fits_blank, rfl⟩,
      fits_argument (sound_argument hlocal (oneLine_argText _)) (.argText hinstallDir), rfl⟩
  · refine fun line hline => fits_of_mem_varLines hempty
      (fun key hkey => (h.isPlain_sharedVar hkey).1) (fun value hvalue => ?_) hline
    exact hdollar value (plan.config.texts_vars_subset (Dict.mem_texts_of_mem_values hvalue))
  · rw [List.filterMap_append]
    exact List.mem_append_left _ List.mem_cons_self
  · intro key hkey
    rw [List.filterMap_append, filterMap_argument?_varLines]
    exact List.mem_append_right _ (List.mem_map_of_mem hkey)

theorem inOrder_prologue (hpath : Flat plan.provenance.path)
    (hdigest : Flat plan.provenance.digest) {outPath : String} (hout : Flat outPath) :
    InOrder {} (prologue plan outPath) := by
  have hlines : ∀ s ∈ config.toJson.texts, OneLine s := fun s hs => (hflat s hs).1
  obtain ⟨front, hprologue, hfront, hlocal, hshared⟩ :=
    exists_front h hflat hpath hdigest hout (Plan.config_of_ofConfig hplan)
  rw [hprologue, inOrder_append]
  refine ⟨inOrder_of_forall hfront, inOrder_flatMap ?_⟩
  intro before view after hsplit
  have hview : view ∈ plan.tools := by simp [hsplit]
  have hlegible := legible_of_mem_tools h hplan hflat htemplates hview
  have hknown : ∀ name ∈ front.filterMap Line.argument?,
      name ∈ ((before.flatMap (argumentLines config)).foldl Known.past
        (front.foldl Known.past {})).arguments := by
    intro name hname
    rw [Known.mem_arguments_foldl, Known.mem_arguments_foldl]
    · exact Or.inr (Or.inl hname)
    · exact fun line hline => (hfront line hline).2
    · intro line hline
      obtain ⟨other, -, hline⟩ := List.mem_flatMap.mp hline
      exact stage?_of_mem_argumentLines hline
  obtain ⟨tool, htool, rfl⟩ := Plan.exists_tool_of_mem_tools hplan hview
  refine inOrder_argumentLines (h.oneLined hlines) (h.oneLined_view hlines htool) hlegible ?_
    (hknown _ hlocal) (fun key hkey => hknown _ (hshared key hkey))
  intro value hvalue
  exact (hflat value (Config.texts_tool_subset htool
    (tool.texts_vars_subset (Dict.mem_texts_of_mem_values hvalue)))).2

/-- Every line of a Dockerfile refers to what is known where it stands. -/
theorem inOrder_lines (hpath : Flat plan.provenance.path) (hdigest : Flat plan.provenance.digest)
    {outPath : String} (hout : Flat outPath)
    (hunblank : ∀ word ∈ words config.dockerfile, Unblank word)
    (hpre : config.dockerfile.preCopy = none) (hpost : config.dockerfile.postCopy = none) :
    InOrder {} (lines plan outPath) := by
  have hlocal := h.isIdentifier_localBinVar
  have hwords : ∀ word ∈ words config.dockerfile, Unblank word ∧ '$' ∉ word.toList :=
    fun word hword => ⟨hunblank word hword, (hflat word (mem_texts_of_mem_words word hword)).2⟩
  have hprologue := inOrder_prologue h hplan hflat htemplates hpath hdigest hout
  have hlegible : ∀ view ∈ plan.tools, Legible config view.tool none :=
    fun view hview => legible_of_mem_tools h hplan hflat htemplates hview
  obtain rfl := Plan.config_of_ofConfig hplan
  rw [lines, partLines, inOrder_append, inOrder_append, inOrder_append]
  refine ⟨⟨hprologue, inOrder_flatMap ?_, inOrder_flatMap ?_⟩, ?_⟩
  · intro before view after hsplit
    have hview : view ∈ plan.tools := by
      have hinstalled : view ∈ installed plan := by simp [hsplit]
      exact (List.mem_filter.mp hinstalled).1
    refine ⟨fits_blank, inOrder_stageLines hwords (hlegible view hview) ?_⟩
    intro name hname hinstalled
    obtain ⟨other, hother, rfl⟩ :=
      exists_installed_before h.keyedByName hplan hsplit hname hinstalled
    exact mem_stages_of_mem hother _
  · intro before entry after hsplit
    have hentry : entry ∈ plan.config.toolSets.entries := by simp [hsplit]
    refine inOrder_setLines hwords hlocal (h.text_toolSet (Dict.get?_eq_some_iff.mpr hentry)) ?_
    intro member _ hinstalled
    obtain ⟨view, hview, hname⟩ := exists_installed h.keyedByName hplan hinstalled
    rw [← hname, Known.mem_stages_foldl]
    exact Or.inr (mem_stages_of_mem hview _)
  · have hfinal : Unblank plan.config.dockerfile.finalStage ∧
        '$' ∉ plan.config.dockerfile.finalStage.toList := hwords _ (by simp [words])
    have himage : Unblank plan.config.dockerfile.finalImage ∧
        '$' ∉ plan.config.dockerfile.finalImage.toList := hwords _ (by simp [words])
    have hdir := hflat _
      (mem_texts_of_mem_words plan.config.dockerfile.installDir (by simp [words]))
    have hstages : ∀ view ∈ installed plan, stageName plan.config view.name ∈
        ((prologue plan outPath ++ partLines plan).foldl Known.past {}).stages := by
      intro view hview
      rw [partLines, List.foldl_append, List.foldl_append, Known.mem_stages_foldl]
      exact Or.inr (mem_stages_of_mem hview _)
    have hnone : extraLines none = [] := rfl
    rw [finalLines, hpre, hpost, hnone, List.append_nil]
    refine ⟨fits_blank, fits_stage himage hfinal,
      fits_redeclared (Name.isPlain_of_isIdentifier hlocal).1, inOrder_of_forall ?_⟩
    intro line hline
    rcases List.mem_append.mp hline with hcopy | hpath
    · obtain ⟨view, hview, rfl⟩ := List.mem_map.mp hcopy
      refine ⟨fits_copy ?_ (unblank_stageName hwords view.tool.name.isPlain_text)
        (refers_localBin hlocal List.mem_cons_self) ⟨hdir.1, .literal hdir.2⟩, rfl⟩
      exact List.mem_cons_of_mem _ (hstages view hview)
    · obtain rfl := List.mem_singleton.mp hpath
      exact ⟨fits_searchPath hdir.1 hdir.2, rfl⟩

end Text

end Dockerfile

/-- Where the texts of a configuration are flat, apart from placeholders in the templated settings,
and those that name images, stages and directories have no blanks, every reference in an artifact is
to a variable that has a value there, and whatever is copied from a stage comes from one before. -/
theorem references_of_check {draft : Draft} {config : Config} {provenance : Provenance}
    (hok : draft.check = .ok config) (hflat : ∀ s ∈ config.toJson.texts, Flat s)
    (hpath : Flat provenance.path) (hdigest : Flat provenance.digest)
    {makefilePath dockerfilePath : String} (hmakefile : Flat makefilePath)
    (hdockerfile : Flat dockerfilePath)
    (htemplates : ∀ tool ∈ config.tools.values, ∀ source ∈ tool.installer.templates,
      tool.IsTemplated config source)
    (hwords : ∀ word ∈ Dockerfile.words config.dockerfile, Dockerfile.Unblank word)
    (hpre : config.dockerfile.preCopy = none) (hpost : config.dockerfile.postCopy = none) :
    ∃ plan makefile dockerfile, Plan.ofConfig config provenance = .ok plan ∧
      plan.emit ArtifactKind.makefile.fragments .makefile makefilePath = .ok makefile ∧
      plan.emit ArtifactKind.dockerfile.fragments .dockerfile dockerfilePath = .ok dockerfile ∧
      Makefile.SelfContained makefile ∧ Dockerfile.SelfContained dockerfile := by
  have h := Draft.check_eq_ok_iff.mp hok
  obtain ⟨plan, hplan⟩ := h.exists_plan provenance
  have hprovenance := Plan.provenance_of_ofConfig hplan
  rw [← hprovenance] at hpath hdigest
  exact ⟨plan, _, _, hplan, h.emit_eq_text hplan htemplates .makefile makefilePath,
    h.emit_eq_text hplan htemplates .dockerfile dockerfilePath,
    Makefile.selfContained_text h hplan hflat hpath hdigest hmakefile htemplates,
    (Dockerfile.inOrder_lines h hplan hflat htemplates hpath hdigest hdockerfile hwords hpre
      hpost).selfContained⟩

theorem references_packed :
    ∃ plan makefile dockerfile, Plan.ofConfig Config.packed ⟨"provision.yaml", "00"⟩ = .ok plan ∧
      plan.emit ArtifactKind.makefile.fragments .makefile "Makefile" = .ok makefile ∧
      plan.emit ArtifactKind.dockerfile.fragments .dockerfile "Dockerfile" = .ok dockerfile ∧
      Makefile.SelfContained makefile ∧ Dockerfile.SelfContained dockerfile := by
  have hflat : ∀ s ∈ Config.packed.toJson.texts, Flat s := Config.texts_packed
  have hwords : ∀ word ∈ Dockerfile.words Config.packed.dockerfile, Dockerfile.Unblank word := by
    unfold Dockerfile.Unblank
    decide
  exact references_of_check Config.check_packed hflat (by decide) (by decide) (by decide)
    (by decide) Config.isTemplated_packed hwords rfl rfl

end Provision
