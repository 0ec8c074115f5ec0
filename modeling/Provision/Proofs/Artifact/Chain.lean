import Provision.Proofs.Artifact.Scope

/-!
# Chains of dependencies in artifacts

A dependency of an installed tool on another is a prerequisite of its stamp in a Makefile, and a
copy into its stage in a Dockerfile.  So chains of such dependencies are kept, in every artifact
that is written at all.  A provided tool has neither a rule for a stamp nor a stage, and what it
depends on is not reached through it.
-/

namespace Provision

/-! ## Makefiles -/

namespace Makefile

/-- The prerequisites that a line lists for a target. -/
def prerequisites (target : String) (line : List Char) : List String :=
  match Text.pieces ' ' line with
  | [] => []
  | first :: words =>
      if first = (target ++ ":").toList then (words.takeWhile (· ≠ ['|'])).map String.ofList else []

abbrev stampReference (name : String) : String := reference (Name.stampIdentifier name)

/-- A rule for the stamp of a tool lists that of another as a prerequisite. -/
def Requires (text name other : String) : Prop :=
  ∃ line ∈ Text.pieces '\n' text.toList,
    stampReference other ∈ prerequisites (stampReference name) line

namespace Line

def prerequisites (target : String) : Line → List String
  | rule name names _ => if name = target then names else []
  | _ => []

end Line

theorem pieces_words {front : List Char} (hfront : ' ' ∉ front) {names : List String}
    (hnames : ∀ name ∈ names, ' ' ∉ name.toList) :
    Text.pieces ' ' (front ++ (String.join (names.map (" " ++ ·))).toList) =
      front :: names.map String.toList := by
  induction names generalizing front with
  | nil => simpa using Text.pieces_of_notMem hfront
  | cons name others ih =>
      have htext : front ++ (String.join ((name :: others).map (" " ++ ·))).toList =
          front ++ ' ' :: (name.toList ++ (String.join (others.map (" " ++ ·))).toList) := by
        simp
      rw [htext, Text.pieces_append_cons hfront, ih (hnames name List.mem_cons_self)
        (fun other hother => hnames other (List.mem_cons_of_mem name hother)), List.map_cons]

/-- A rule is read back as it is. -/
theorem prerequisites_rule {target name : String} {names orderOnly : List String}
    (h : (Line.rule name names orderOnly).Sound) :
    prerequisites target (Line.rule name names orderOnly).text.toList =
      (Line.rule name names orderOnly).prerequisites target := by
  obtain ⟨hname, hnames, horder⟩ := h
  obtain ⟨others, hothers, htext⟩ : ∃ others : List String,
      (others = [] ∨ ∃ rest, others = "|" :: rest) ∧ (∀ word ∈ names ++ others, ' ' ∉ word.toList) ∧
        (Line.rule name names orderOnly).text.toList =
          (name ++ ":").toList ++ (String.join ((names ++ others).map (" " ++ ·))).toList := by
    have hwords : ∀ word ∈ names, ' ' ∉ word.toList :=
      fun word hword => (hnames word hword).notMem (by decide)
    cases orderOnly with
    | nil => exact ⟨[], Or.inl rfl, by simpa using hwords, by simp [Line.text]⟩
    | cons first rest =>
        have hrest : ∀ word ∈ first :: rest, ' ' ∉ word.toList :=
          fun word hword => (horder word hword).notMem (by decide)
        refine ⟨"|" :: first :: rest, Or.inr ⟨_, rfl⟩, ?_, by simp [Line.text]⟩
        intro word hword
        rcases List.mem_append.mp hword with hfront | hbehind
        · exact hwords word hfront
        · rcases List.mem_cons.mp hbehind with rfl | hmem
          · decide
          · exact hrest word hmem
  have hspace : ' ' ∉ (name ++ ":").toList := by
    have hvariable : ' ' ∉ name.toList := fun hmem => absurd (hname.2 ' ' hmem) (by decide)
    simp [hvariable]
  have hkept : ((names ++ others).map String.toList).takeWhile (· ≠ ['|']) =
      names.map String.toList := by
    have hall : ∀ word ∈ names.map String.toList, decide (word ≠ ['|']) = true := by
      simp only [List.forall_mem_map, decide_eq_true_eq]
      intro word hword hbar
      exact (hnames word hword).1 (String.toList_inj.mp hbar)
    rw [List.map_append, List.takeWhile_append_of_pos hall]
    rcases hothers with rfl | ⟨rest, rfl⟩ <;> simp
  have hsame : (name ++ ":").toList = (target ++ ":").toList ↔ name = target := by
    rw [String.toList_inj]
    exact String.append_left_inj ":"
  rw [prerequisites, htext.2, pieces_words hspace htext.1]
  simp only [hkept, hsame, Line.prerequisites]
  split
  · simp [Function.comp_def]
  · rfl

theorem head?_of_mem_prerequisites {name other : String} {line : List Char}
    (h : other ∈ prerequisites (reference name) line) : line.head? = some '$' := by
  unfold prerequisites at h
  split at h
  · exact absurd h List.not_mem_nil
  · next first words hpieces =>
      split at h
      · next hfirst =>
          obtain ⟨rest, rfl⟩ := Text.isPrefix_of_pieces_eq_cons hpieces
          rw [hfirst]
          simp [ArtifactKind.reference]
      · exact absurd h List.not_mem_nil

theorem prerequisites_append {name target : String} (hname : IsVariable name) (rest : List Char) :
    prerequisites target (name.toList ++ ' ' :: rest) = [] := by
  have hspace : ' ' ∉ name.toList := fun hmem => absurd (hname.2 ' ' hmem) (by decide)
  have hcolon : ':' ∉ name.toList := fun hmem => absurd (hname.2 ':' hmem) (by decide)
  have hne : name.toList ≠ (target ++ ":").toList := by
    intro heq
    rw [heq] at hcolon
    simp at hcolon
  rw [prerequisites, Text.pieces_append_cons hspace]
  simp only [if_neg hne]

/-- What a line lists for the stamp of a tool is what its text lists. -/
theorem Line.Sound.prerequisites_text {line : Line} (h : line.Sound) (name : String) :
    Makefile.prerequisites (reference name) line.text.toList =
      line.prerequisites (reference name) := by
  have hnone : line.text.toList.head? ≠ some '$' →
      Makefile.prerequisites (reference name) line.text.toList = [] := by
    intro hhead
    rw [List.eq_nil_iff_forall_not_mem]
    exact fun other hother => hhead (head?_of_mem_prerequisites hother)
  cases line with
  | blank => exact hnone (by simp [Line.text])
  | comment text => exact hnone (by simp [Line.text])
  | default assigned value =>
      have htext : (Line.default assigned value).text.toList =
          assigned.toList ++ ' ' :: '?' :: '=' :: ' ' :: value.toList := by
        simp [Line.text]
      rw [htext]
      exact prerequisites_append h.1 _
  | clear assigned =>
      have htext : (Line.clear assigned).text.toList =
          assigned.toList ++ ' ' :: ':' :: '=' :: [] := by
        simp [Line.text]
      rw [htext]
      exact prerequisites_append h _
  | phony target => exact hnone (by simp [Line.text])
  | rule target names orderOnly => exact prerequisites_rule h
  | recipe command =>
      apply hnone
      by_cases hempty : command = ""
      · subst hempty
        simp [Line.text, Text.indented, Text.indentLine]
      · rw [Line.text, Text.toList_indented hempty]
        simp

section Plan

variable {config : Config} {view : ToolView} {plan : Plan}

theorem ne_reference {s name : String} (h : Name.IsPlain s) : s ≠ reference name := by
  rintro rfl
  exact h.dollar_notMem (by simp [ArtifactKind.reference])

/-- The prerequisites of the stamp of a tool, if it is the one that is asked for. -/
def listed (name : String) (view : ToolView) : List String :=
  if view.tool.installer.isProvided = false ∧ stampReference view.name = stampReference name then
    view.prerequisites.map stampReference
  else []

theorem flatMap_prerequisites_varLines (owner : String) (vars : Dict String) (target : String) :
    (varLines owner vars).flatMap (Line.prerequisites target) = [] := by
  rw [varLines, List.flatMap_map]
  exact List.flatMap_eq_nil_iff.mpr (fun _ _ => rfl)

theorem flatMap_prerequisites_installLines (config : Config) (view : ToolView) (target : String) :
    (installLines config view).flatMap (Line.prerequisites target) = [] := by
  rw [installLines, List.flatMap_map]
  exact List.flatMap_eq_nil_iff.mpr (fun _ _ => rfl)

/-- The lines of a tool list prerequisites for its own stamp alone. -/
theorem flatMap_prerequisites_toolLines (config : Config) (view : ToolView) (name : String) :
    (toolLines config view).flatMap (Line.prerequisites (stampReference name)) =
      listed name view := by
  have hname : view.name ≠ stampReference name := ne_reference view.tool.name.isPlain_text
  cases hprovided : view.tool.installer.isProvided with
  | true =>
      obtain ⟨default, hdefault⟩ := Installer.exists_of_isProvided hprovided
      have hnone : listed name view = [] := by simp [listed, hprovided]
      rw [hnone]
      simp [toolLines, hdefault, flatMap_prerequisites_varLines,
        flatMap_prerequisites_installLines, Line.prerequisites]
  | false =>
      have hfetched : ((view.tool.installer.fetch?.map (fetchLines config view)).getD []).flatMap
          (Line.prerequisites (stampReference name)) = [] := by
        cases view.tool.installer.fetch? with
        | none => rfl
        | some source => cases harchive : source.archive <;>
            simp [fetchLines, harchive, Line.prerequisites]
      rw [toolLines_of_isProvided_eq_false hprovided, stampLines]
      simp [flatMap_prerequisites_varLines, flatMap_prerequisites_installLines, hfetched, hname,
        Line.prerequisites, listed, hprovided]

theorem flatMap_prerequisites_lines
    (hsets : ∀ entry ∈ plan.config.toolSets.entries, Name.IsPlain entry.1) (outPath name : String) :
    (lines plan outPath).flatMap (Line.prerequisites (stampReference name)) =
      plan.tools.flatMap (listed name) := by
  have hshared : (sharedLines plan.config.vars).flatMap
      (Line.prerequisites (stampReference name)) = [] := by
    unfold sharedLines
    split
    · rfl
    · exact flatMap_prerequisites_varLines "" plan.config.vars _
  have hnone : (plan.config.toolSets.entries.flatMap
      (fun entry => setLines entry.1 entry.2)).flatMap
        (Line.prerequisites (stampReference name)) = [] := by
    rw [List.flatMap_assoc]
    refine List.flatMap_eq_nil_iff.mpr (fun entry hentry => ?_)
    have hname : entry.1 ≠ stampReference name := ne_reference (hsets entry hentry)
    simp [setLines, Line.prerequisites, hname]
  rw [lines]
  simp only [List.flatMap_append, hshared, hnone, List.append_nil]
  simp [Line.prerequisites, List.flatMap_assoc, flatMap_prerequisites_toolLines]

/-- Where every text keeps to one line, the rules for stamps are those of the installed tools. -/
theorem requires_text_iff {outPath name other : String}
    (hsound : ∀ line ∈ lines plan outPath, line.Sound)
    (hsets : ∀ entry ∈ plan.config.toolSets.entries, Name.IsPlain entry.1) :
    Requires (text plan outPath) name other ↔
      stampReference other ∈ plan.tools.flatMap (listed name) := by
  rw [← flatMap_prerequisites_lines hsets outPath, List.mem_flatMap]
  constructor
  · rintro ⟨piece, hpiece, hlisted⟩
    rw [text, Text.pieces_unlines (fun line hline => (hsound line hline).oneLine),
      List.mem_append] at hpiece
    rcases hpiece with hmem | hlast
    · obtain ⟨line, hline, rfl⟩ := List.mem_map.mp hmem
      rw [(hsound line hline).prerequisites_text] at hlisted
      exact ⟨line, hline, hlisted⟩
    · obtain rfl := List.mem_singleton.mp hlast
      exact absurd (head?_of_mem_prerequisites hlisted) (by simp)
  · rintro ⟨line, hline, hlisted⟩
    refine ⟨line.text.toList, ?_, ?_⟩
    · exact Text.mem_pieces_unlines (List.mem_map_of_mem hline) (hsound line hline).oneLine
    · rw [(hsound line hline).prerequisites_text]
      exact hlisted

variable {draft : Draft} {provenance : Provenance}

/-- The stamp of an installed tool requires those of its prerequisites, whatever stands in the other
lines. -/
theorem requires_of_mem_prerequisites (h : Accepted draft config)
    (hplan : Plan.ofConfig config provenance = .ok plan) (hview : view ∈ plan.tools)
    (hinstalled : view.tool.installer.isProvided = false) {other : String}
    (hother : other ∈ view.prerequisites) (outPath : String) :
    Requires (text plan outPath) view.name other := by
  have hconfig := Plan.config_of_ofConfig hplan
  obtain ⟨tool, -, hsame⟩ := Plan.exists_tool_of_mem_tools hplan hview
  have hlocal := (Name.isPlain_of_isIdentifier h.isIdentifier_localBinVar).1
  have hstamp := view.tool.name.isPlain_text.stampIdentifier
  have hrule : (Line.rule (stampReference view.name) (view.prerequisites.map stampReference)
      [localBin config]).Sound := by
    refine ⟨isVariable_reference hstamp, ?_, List.forall_mem_singleton.mpr
      (isWord_reference hlocal)⟩
    simp only [List.forall_mem_map]
    intro name hname
    rw [hsame] at hname
    exact isWord_reference (ToolView.isPlain_of_mem_prerequisites hname).stampIdentifier
  have hmem : Line.rule (stampReference view.name) (view.prerequisites.map stampReference)
      [localBin config] ∈ lines plan outPath := by
    have hown : Line.rule (stampReference view.name) (view.prerequisites.map stampReference)
        [localBin config] ∈ toolLines config view := by
      rw [toolLines_of_isProvided_eq_false hinstalled, stampLines]
      simp
    rw [lines, hconfig]
    refine List.mem_append_left _ (List.mem_append_right _ (List.mem_flatMap.mpr ?_))
    exact ⟨view, hview, List.mem_cons_of_mem _ hown⟩
  refine ⟨_, Text.mem_pieces_unlines (List.mem_map_of_mem hmem) hrule.oneLine, ?_⟩
  rw [hrule.prerequisites_text, Line.prerequisites, if_pos rfl]
  exact List.mem_map_of_mem hother

end Plan

end Makefile

/-! ## Dockerfiles -/

namespace Dockerfile

/-- The stage of a tool copies from that of another: between the line that starts the stage and the
one that copies, there are only build arguments and other copies. -/
def CopiesFrom (config : Config) (text name other : String) : Prop :=
  ∃ (image : String) (before after : List String) (between : List Line),
    text = Text.unlines (before ++
      ((Line.stage image (stageName config name) :: between) ++
        [Line.copy (stageName config other) (localBin config) (localBin config)]).map Line.text ++
      after) ∧
    ∀ line ∈ between, line.argument?.isSome ∨ line.origin?.isSome

variable {config : Config} {provenance : Provenance} {plan : Plan} {view : ToolView}

theorem exists_stageLines_eq {other : String} (hother : other ∈ view.tool.dependencyNames)
    (hinstalled : isInstalled config other = true) :
    ∃ between rest : List Line, stageLines config view =
        (.stage (image config view.tool.installer) (stageName config view.name) :: between) ++
          [.copy (stageName config other) (localBin config) (localBin config)] ++ rest ∧
      ∀ line ∈ between, line.argument?.isSome ∨ line.origin?.isSome := by
  obtain ⟨first, others, hnames⟩ := List.append_of_mem (List.mem_filter.mpr ⟨hother, hinstalled⟩)
  refine ⟨scopeLines config view ++ first.map (fun name =>
    .copy (stageName config name) (localBin config) (localBin config)), ?_⟩
  rw [stageLines, copyLines, hnames]
  refine ⟨_, by simp only [List.map_append, List.map_cons, List.cons_append, List.append_assoc,
    List.nil_append]; rfl, ?_⟩
  intro line hline
  rcases List.mem_append.mp hline with hscope | hcopy
  · obtain ⟨name, -, rfl⟩ := List.mem_map.mp hscope
    exact Or.inl rfl
  · obtain ⟨name, -, rfl⟩ := List.mem_map.mp hcopy
    exact Or.inr rfl

theorem copiesFrom_of_mem_dependencies (hplan : Plan.ofConfig config provenance = .ok plan)
    (hview : view ∈ installed plan) {other : String}
    (hother : other ∈ view.tool.dependencyNames) (hinstalled : isInstalled config other = true)
    (outPath : String) : CopiesFrom config (text plan outPath) view.name other := by
  obtain rfl := Plan.config_of_ofConfig hplan
  obtain ⟨earlier, later, hsplit⟩ := List.append_of_mem hview
  obtain ⟨between, rest, hstage, hbetween⟩ := exists_stageLines_eq hother hinstalled
  obtain ⟨before, after, hlines⟩ : ∃ before after,
      lines plan outPath = before ++ stageLines plan.config view ++ after := by
    rw [lines, partLines, hsplit]
    exact ⟨prologue plan outPath ++
        (earlier.flatMap (fun view => .blank :: stageLines plan.config view) ++ [.blank]),
      _, by simp only [List.flatMap_append, List.flatMap_cons, List.append_assoc,
        List.cons_append, List.nil_append]; rfl⟩
  refine ⟨image plan.config view.tool.installer, before.map Line.text,
    (rest ++ after).map Line.text, between, ?_, hbetween⟩
  rw [text, hlines, hstage]
  simp only [List.map_append, List.append_assoc]

end Dockerfile

/-! ## Accepted drafts -/

/-- A tool that has to be installed depends on another such tool. -/
def Config.InstalledDependsOn (config : Config) (name other : String) : Prop :=
  Dockerfile.isInstalled config name = true ∧ Dockerfile.isInstalled config other = true ∧
    config.graph.DependsOn name other

section Chains

variable {draft : Draft} {config : Config} {provenance : Provenance} {plan : Plan}

/-- A dependency between installed tools, in both artifacts. -/
theorem Accepted.keeps_dependency (h : Accepted draft config)
    (hplan : Plan.ofConfig config provenance = .ok plan) {name other : String}
    (hdepends : config.InstalledDependsOn name other) (outPath : String) :
    Makefile.Requires (plan.text .makefile outPath) name other ∧
      Dockerfile.CopiesFrom config (plan.text .dockerfile outPath) name other := by
  obtain ⟨hname, hother, hdependency⟩ := hdepends
  obtain ⟨view, hview, rfl⟩ := Dockerfile.exists_installed h.keyedByName hplan hname
  obtain ⟨hmem, hinstalled⟩ := List.mem_filter.mp hview
  obtain ⟨tool, htool, hsame⟩ := Plan.view_of_mem_tools h.keyedByName hplan hmem
  have hlisted : other ∈ view.tool.dependencyNames := by
    rw [hsame]
    exact (Config.dependsOn_iff htool).mp hdependency
  constructor
  · exact Makefile.requires_of_mem_prerequisites h hplan hmem (by simpa using hinstalled)
      (ToolView.mem_prerequisites_iff.mpr (Or.inl hlisted)) outPath
  · exact Dockerfile.copiesFrom_of_mem_dependencies hplan hview hlisted hother outPath

/-- Whatever artifacts are written for an accepted draft, a chain of dependencies that goes through
installed tools alone is a chain of rules for stamps in the Makefile and a chain of copies from
stages in the Dockerfile. -/
theorem chains_of_check (hok : draft.check = .ok config)
    (hplan : Plan.ofConfig config provenance = .ok plan) {name other : String}
    (hchain : Relation.TransGen config.InstalledDependsOn name other) :
    (∀ outPath text, plan.emit ArtifactKind.makefile.fragments .makefile outPath = .ok text →
      Relation.TransGen
        (fun a b => config.InstalledDependsOn a b ∧ Makefile.Requires text a b) name other) ∧
      ∀ outPath text, plan.emit ArtifactKind.dockerfile.fragments .dockerfile outPath = .ok text →
        Relation.TransGen
          (fun a b => config.InstalledDependsOn a b ∧ Dockerfile.CopiesFrom config text a b)
          name other := by
  have h := Draft.check_eq_ok_iff.mp hok
  constructor
  · intro outPath text hemit
    rw [h.eq_text_of_emit hplan hemit]
    exact hchain.lift id (fun _ _ hstep => ⟨hstep, (h.keeps_dependency hplan hstep outPath).1⟩)
  · intro outPath text hemit
    rw [h.eq_text_of_emit hplan hemit]
    exact hchain.lift id (fun _ _ hstep => ⟨hstep, (h.keeps_dependency hplan hstep outPath).2⟩)

end Chains

/-- Tools of which each depends on the next one, a provided one among them. -/
def Draft.stacked : Draft :=
  let http := some { url := some "https://example.org/tool" }
  { tools := .ofList
      [("app", { http, dependsOn := ["node"] }), ("base", { http }),
        ("cli", { http, dependsOn := ["core"] }), ("core", { http, dependsOn := ["base"] }),
        ("node", { provided := some {}, dependsOn := ["cli"] })] }

namespace Config

def fetched (name : ToolName) (dependsOn : List ToolName) : Tool :=
  { name, installer := .http { url := "https://example.org/tool", archive := none }, vars := .empty
    dependsOn }

def node : Tool :=
  { name := ⟨"node", by decide⟩, installer := .provided "node", vars := .empty
    dependsOn := [⟨"cli", by decide⟩] }

/-- What the check makes of `Draft.stacked`. -/
def stacked : Config :=
  { vars := .empty
    localBinVar := "LOCALBIN"
    tools := .ofList
      [("app", fetched ⟨"app", by decide⟩ [⟨"node", by decide⟩]),
        ("base", fetched ⟨"base", by decide⟩ []),
        ("cli", fetched ⟨"cli", by decide⟩ [⟨"core", by decide⟩]),
        ("core", fetched ⟨"core", by decide⟩ [⟨"base", by decide⟩]), ("node", node)]
    toolSets := .empty
    commands := {}
    dockerfile := {} }

theorem check_stacked : Draft.stacked.check = .ok stacked := by
  have hok : Draft.stacked.check.toOption = some stacked := by decide +kernel
  exact Engine.exists_eq_ok_of_toOption hok

theorem isTemplated_stacked :
    ∀ tool ∈ stacked.tools.values, ∀ source ∈ tool.installer.templates,
      tool.IsTemplated stacked source := by
  have hurl : ∀ tool ∈ stacked.tools.values, ∀ source ∈ tool.installer.templates,
      '\x7b' ∉ source.toList := by decide
  intro tool htool source hsource
  exact ⟨.text source.toList, rfl, hurl tool htool source hsource⟩

theorem installedDependsOn_stacked :
    stacked.InstalledDependsOn "cli" "core" ∧ stacked.InstalledDependsOn "core" "base" := by
  unfold InstalledDependsOn Graph.DependsOn
  decide

end Config

theorem chains_stacked :
    ∃ plan makeText dockerText, Plan.ofConfig Config.stacked ⟨"provision.yaml", "00"⟩ = .ok plan ∧
      plan.emit ArtifactKind.makefile.fragments .makefile "Makefile" = .ok makeText ∧
      plan.emit ArtifactKind.dockerfile.fragments .dockerfile "Dockerfile" = .ok dockerText ∧
      Relation.TransGen
        (fun a b => Config.stacked.InstalledDependsOn a b ∧ Makefile.Requires makeText a b)
        "cli" "base" ∧
      Relation.TransGen
        (fun a b => Config.stacked.InstalledDependsOn a b ∧
          Dockerfile.CopiesFrom Config.stacked dockerText a b) "cli" "base" := by
  have h := Draft.check_eq_ok_iff.mp Config.check_stacked
  obtain ⟨plan, hplan⟩ := h.exists_plan ⟨"provision.yaml", "00"⟩
  have hmake := h.emit_eq_text hplan Config.isTemplated_stacked .makefile "Makefile"
  have hdocker := h.emit_eq_text hplan Config.isTemplated_stacked .dockerfile "Dockerfile"
  obtain ⟨hcore, hbase⟩ := Config.installedDependsOn_stacked
  obtain ⟨hrules, hcopies⟩ :=
    chains_of_check Config.check_stacked hplan (.tail (.single hcore) hbase)
  exact ⟨plan, _, _, hplan, hmake, hdocker, hrules _ _ hmake, hcopies _ _ hdocker⟩

/-- The stamp of a provided tool is empty, and no rule leads on from it. -/
theorem not_chain_stacked :
    ∃ plan text, Plan.ofConfig Config.stacked ⟨"provision.yaml", "00"⟩ = .ok plan ∧
      plan.emit ArtifactKind.makefile.fragments .makefile "Makefile" = .ok text ∧
      Dockerfile.isInstalled Config.stacked "app" = true ∧
      Dockerfile.isInstalled Config.stacked "base" = true ∧
      Relation.TransGen Config.stacked.graph.DependsOn "app" "base" ∧
      ¬ Relation.TransGen (Makefile.Requires text) "app" "base" := by
  have h := Draft.check_eq_ok_iff.mp Config.check_stacked
  have hlines : ∀ s ∈ Config.stacked.toJson.texts, OneLine s := by decide +kernel
  have hnode : Config.stacked.graph.DependsOn "app" "node" ∧
      Config.stacked.graph.DependsOn "node" "cli" := by
    unfold Graph.DependsOn
    decide +kernel
  have happ : ∀ tool ∈ Config.stacked.tools.values,
      ∀ stamp ∈ Makefile.listed "app" (ToolView.ofTool Config.stacked tool),
        stamp = Makefile.stampReference "node" := by decide +kernel
  have hended : ∀ tool ∈ Config.stacked.tools.values,
      Makefile.listed "node" (ToolView.ofTool Config.stacked tool) = [] := by decide +kernel
  obtain ⟨hcore, hbase⟩ := Config.installedDependsOn_stacked
  obtain ⟨plan, hplan⟩ := h.exists_plan ⟨"provision.yaml", "00"⟩
  have hprovenance := Plan.provenance_of_ofConfig hplan
  have hconfig := Plan.config_of_ofConfig hplan
  have hrequires : ∀ name other, Makefile.Requires (plan.text .makefile "Makefile") name other →
      ∃ tool ∈ Config.stacked.tools.values, Makefile.stampReference other ∈
        Makefile.listed name (ToolView.ofTool Config.stacked tool) := by
    intro name other hstep
    have hsound : ∀ line ∈ Makefile.lines plan "Makefile", line.Sound :=
      fun line hline => Makefile.sound_of_mem_lines h hplan hlines (by rw [hprovenance]; decide)
        (by rw [hprovenance]; decide) (by decide) Config.isTemplated_stacked hline
    have hsets : ∀ entry ∈ plan.config.toolSets.entries, Name.IsPlain entry.1 := by
      rw [hconfig]
      decide
    obtain ⟨view, hview, hlisted⟩ :=
      List.mem_flatMap.mp ((Makefile.requires_text_iff hsound hsets).mp hstep)
    obtain ⟨tool, htool, rfl⟩ := Plan.exists_tool_of_mem_tools hplan hview
    exact ⟨tool, htool, hlisted⟩
  refine ⟨plan, _, hplan, h.emit_eq_text hplan Config.isTemplated_stacked .makefile "Makefile",
    by decide +kernel, hbase.2.1, .tail (.tail (.tail (.single hnode.1) hnode.2) hcore.2.2)
      hbase.2.2, ?_⟩
  intro hchain
  obtain ⟨next, hfirst, hrest⟩ := Relation.TransGen.head'_iff.mp hchain
  obtain ⟨tool, htool, hlisted⟩ := hrequires _ _ hfirst
  have hnext := happ tool htool _ hlisted
  rcases Relation.ReflTransGen.cases_head hrest with rfl | ⟨other, hsecond, -⟩
  · exact absurd hnext (by decide)
  · obtain ⟨tool, htool, hlisted⟩ := hrequires _ _ hsecond
    rw [Makefile.listed, hnext, ← Makefile.listed, hended tool htool] at hlisted
    exact absurd hlisted List.not_mem_nil

end Provision
