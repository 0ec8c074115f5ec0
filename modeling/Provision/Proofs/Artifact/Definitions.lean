import Provision.Proofs.Artifact.Reading

/-!
# What artifacts define

The variables that a Makefile assigns and the build arguments that a Dockerfile declares before its
first stage, read off the lines of the texts.  Both define the identifiers that the check of the
manifest claims, each of them once, except that stamps are known to the Makefile alone.
-/

namespace Provision

/-! ## Identifiers -/

namespace Tool

/-- What the check claims for a tool. -/
theorem map_fst_toolIdentifiers (tool : Tool) :
    (Check.toolIdentifiers tool).map Prod.fst =
      [Name.identifier tool.name.text, Name.stampIdentifier tool.name.text] ++
        tool.fetchedNames ++ tool.varNames := by
  simp only [Check.toolIdentifiers, fetchedNames, varNames, List.map_append, List.map_map]
  cases tool.installer.hasUrl <;> cases tool.installer.hasArchive <;> rfl

end Tool

/-- What the check claims for a configuration. -/
theorem Config.map_fst_identifiers (config : Config) :
    (Check.identifiers config).map Prod.fst =
      config.localBinVar :: (config.vars.keys.map (Name.scopedIdentifier "") ++
        config.tools.values.flatMap (fun tool => (Check.toolIdentifiers tool).map Prod.fst)) := by
  simp only [Check.identifiers, List.cons_append, List.map_cons, List.map_append, List.map_map,
    List.map_flatMap]
  rfl

/-! ## Makefiles -/

namespace Makefile

/-! ### The lines of a plan -/

section Plan

variable {config : Config} {view : ToolView}

theorem scopedIdentifier_ne_empty {owner key : String}
    (h : owner ≠ "" ∨ Name.identifier key ≠ "") : Name.scopedIdentifier owner key ≠ "" := by
  unfold Name.scopedIdentifier
  split
  · next hshared => exact h.resolve_left (fun howner => howner hshared)
  · intro hempty
    have hlist := congrArg String.toList hempty
    simp at hlist

theorem sound_of_mem_varLines {owner : String} {vars : Dict String} {line : Line}
    (howner : Name.IsPlain owner) (hkeys : ∀ key ∈ vars.keys, Name.IsPlain key)
    (hne : ∀ key ∈ vars.keys, owner ≠ "" ∨ Name.identifier key ≠ "")
    (hvalues : ∀ value ∈ vars.values, OneLine value) (hline : line ∈ varLines owner vars) :
    line.Sound := by
  obtain ⟨⟨key, value⟩, hentry, rfl⟩ := List.mem_map.mp hline
  have hkey : key ∈ vars.keys := List.mem_map_of_mem hentry
  have hvalue : value ∈ vars.values := List.mem_map_of_mem hentry
  exact ⟨isVariable_of_isPlain (howner.scopedIdentifier (hkeys key hkey))
    (scopedIdentifier_ne_empty (hne key hkey)), oneLine_makeText (hvalues value hvalue)⟩

theorem oneLine_localBin (hconfig : config.OneLined) : OneLine (localBin config) :=
  oneLine_reference (Name.isPlain_of_isIdentifier hconfig.isIdentifier_localBinVar).1

theorem oneLine_madePath (hconfig : config.OneLined) {name : String} (h : OneLine name) :
    OneLine (madePath config name) := by
  have hdir : OneLine "/.make-env/" := by decide
  simp only [madePath, OneLine.append_iff]
  exact ⟨⟨oneLine_localBin hconfig, hdir⟩, h⟩

theorem isVariable_name (view : ToolView) : IsVariable view.name :=
  isVariable_of_isPlain view.tool.name.isPlain_text view.tool.name.text_ne_empty

theorem isVariable_identifier (hview : view.OneLined) : IsVariable (Name.identifier view.name) :=
  isVariable_of_isPlain view.tool.name.isPlain_text.identifier hview.identifier_ne_empty

/-- What is made of an identifier of a tool with an ending. -/
theorem isVariable_ended (hview : view.OneLined) {ending : String} (hending : Name.IsPlain ending) :
    IsVariable (Name.identifier view.name ++ ending) := by
  apply isVariable_of_isPlain (view.tool.name.isPlain_text.identifier.append hending)
  intro hempty
  exact hview.identifier_ne_empty (String.append_eq_empty_iff.mp hempty).1

theorem oneLine_stampPath (hconfig : config.OneLined) (hview : view.OneLined) :
    OneLine (stampPath config view) := by
  have hname : OneLine view.name := view.tool.name.isPlain_text.oneLine
  have hdigest := view.tool.installer.isPlain_digest.oneLine
  have hreference : ∀ key ∈ view.tool.vars.keys,
      OneLine (reference (Name.scopedIdentifier view.name key)) := by
    intro key hkey
    exact oneLine_reference
      (view.tool.name.isPlain_text.scopedIdentifier (hview.isPlain_vars key hkey))
  have hat : OneLine "@" := by decide
  have hstart : OneLine "@$(subst /,_," := by decide
  have hend : OneLine ")" := by decide
  have hstamp : OneLine ".stamp" := by decide
  simp only [stampPath, OneLine.append_iff, OneLine.join_iff, List.forall_mem_map]
  refine ⟨⟨⟨⟨oneLine_madePath hconfig hname, hat⟩, hdigest⟩, ?_⟩, hstamp⟩
  intro key hkey
  exact ⟨⟨hstart, hreference key hkey⟩, hend⟩

theorem sound_of_mem_installLines {line : Line} (h : line ∈ installLines config view) :
    line.Sound := by
  obtain ⟨command, hcommand, rfl⟩ := List.mem_map.mp h
  exact oneLine_of_mem_splits hcommand

theorem sound_of_mem_fetchLines (hconfig : config.OneLined) (hview : view.OneLined)
    {source : Fetch} (hurl : OneLine (view.tool.filled .makefile config (depth + 6) source.url))
    {line : Line} (hline : line ∈ fetchLines config view source) : line.Sound := by
  rcases List.mem_cons.mp hline with rfl | harchive
  · exact ⟨isVariable_ended hview (by decide), oneLine_makeText hurl⟩
  · obtain ⟨archive, -, rfl⟩ := Option.map_eq_some_iff.mp (Option.mem_toList.mp harchive)
    have hname : OneLine view.name := view.tool.name.isPlain_text.oneLine
    have hpoint : OneLine "." := by decide
    refine ⟨isVariable_ended hview (by decide), ?_⟩
    simp only [OneLine.append_iff]
    exact ⟨⟨oneLine_madePath hconfig hname, hpoint⟩, archive.isPlain_kind.oneLine⟩

theorem sound_of_mem_stampLines (hconfig : config.OneLined) (hview : view.OneLined) {line : Line}
    (hline : line ∈ stampLines config view) : line.Sound := by
  have hname : OneLine view.name := view.tool.name.isPlain_text.oneLine
  have hplain := Name.isPlain_of_isIdentifier hconfig.isIdentifier_localBinVar
  have hstamp := view.tool.name.isPlain_text.stampIdentifier
  have hslash : OneLine "/" := by decide
  have hat : OneLine "@" := by decide
  have hdir : OneLine " -p $(dir $@)" := by decide
  have hforce : OneLine " -f " := by decide
  have hstamps : OneLine "@*.stamp" := by decide
  have htarget : OneLine " $@" := by decide
  simp only [stampLines, List.mem_append, List.mem_cons, List.not_mem_nil, or_false] at hline
  rcases hline with ((rfl | rfl | rfl | rfl | rfl | rfl | rfl | rfl | rfl) | hinstall) | rfl
  · exact ⟨isVariable_identifier hview,
      OneLine.append_iff.mpr ⟨OneLine.append_iff.mpr ⟨oneLine_localBin hconfig, hslash⟩, hname⟩⟩
  · exact ⟨isVariable_ended hview (by decide), oneLine_stampPath hconfig hview⟩
  · trivial
  · exact hname
  · exact ⟨isVariable_name view, List.forall_mem_singleton.mpr (isWord_reference hstamp), by simp⟩
  · trivial
  · refine ⟨isVariable_reference hstamp, ?_, ?_⟩
    · simp only [List.forall_mem_map]
      exact fun name hname =>
        isWord_reference (hview.isPlain_prerequisites name hname).stampIdentifier
    · exact List.forall_mem_singleton.mpr (isWord_reference hplain.1)
  · simp only [Line.Sound, OneLine.append_iff]
    exact ⟨⟨hat, hconfig.mkdir⟩, hdir⟩
  · simp only [Line.Sound, OneLine.append_iff]
    exact ⟨⟨⟨⟨hat, hconfig.rm⟩, hforce⟩, oneLine_madePath hconfig hname⟩, hstamps⟩
  · exact sound_of_mem_installLines hinstall
  · simp only [Line.Sound, OneLine.append_iff]
    exact ⟨⟨hat, hconfig.touch⟩, htarget⟩

theorem sound_of_mem_toolLines (hconfig : config.OneLined) (hview : view.OneLined)
    (hurl : ∀ source, view.tool.installer.fetch? = some source →
      OneLine (view.tool.filled .makefile config (depth + 6) source.url))
    {line : Line} (hline : line ∈ toolLines config view) : line.Sound := by
  have hname : OneLine view.name := view.tool.name.isPlain_text.oneLine
  have hne : ∀ key ∈ view.tool.vars.keys, view.name ≠ "" ∨ Name.identifier key ≠ "" :=
    fun _ _ => Or.inl view.tool.name.text_ne_empty
  rw [toolLines, List.mem_append, List.mem_cons] at hline
  rcases hline with (rfl | hvar) | hown
  · have hopen : OneLine " (" := by decide
    have hclose : OneLine ")" := by decide
    simp only [Line.Sound, OneLine.append_iff]
    exact ⟨⟨⟨hname, hopen⟩, view.tool.installer.isPlain_kind.oneLine⟩, hclose⟩
  · exact sound_of_mem_varLines view.tool.name.isPlain_text hview.isPlain_vars hne hview.values hvar
  · split at hown
    · next default hdefault =>
        simp only [List.mem_append, List.mem_cons, List.not_mem_nil, or_false] at hown
        rcases hown with (rfl | rfl | rfl | rfl | rfl) | hinstall
        · exact ⟨isVariable_identifier hview, oneLine_makeText (hview.default default hdefault)⟩
        · exact isVariable_ended hview (by decide)
        · trivial
        · exact hname
        · exact ⟨isVariable_name view, by simp, by simp⟩
        · exact sound_of_mem_installLines hinstall
    · rcases List.mem_append.mp hown with hfetched | hstamp
      · cases hfetch : view.tool.installer.fetch? with
        | none =>
            rw [hfetch] at hfetched
            exact absurd hfetched List.not_mem_nil
        | some source =>
            rw [hfetch] at hfetched
            exact sound_of_mem_fetchLines hconfig hview (hurl source hfetch) hfetched
      · exact sound_of_mem_stampLines hconfig hview hstamp

end Plan

/-! ### The names of a plan -/

section Names

variable {config : Config} {view : ToolView}

theorem filterMap_assigned?_varLines (owner : String) (vars : Dict String) :
    (varLines owner vars).filterMap Line.assigned? =
      vars.keys.map (Name.scopedIdentifier owner) := by
  rw [varLines, List.filterMap_map, Dict.keys, List.map_map, ← List.filterMap_eq_map]
  rfl

theorem filterMap_assigned?_installLines (config : Config) (view : ToolView) :
    (installLines config view).filterMap Line.assigned? = [] := by
  rw [installLines, List.filterMap_map]
  exact List.filterMap_none _

theorem filterMap_assigned?_fetched (config : Config) (view : ToolView) :
    ((view.tool.installer.fetch?.map (fetchLines config view)).getD []).filterMap
        Line.assigned? = view.tool.fetchedNames := by
  unfold Tool.fetchedNames Installer.hasUrl Installer.hasArchive
  cases hfetch : view.tool.installer.fetch? with
  | none => rfl
  | some source =>
      cases harchive : source.archive <;>
        simp [fetchLines, harchive, Line.assigned?, ToolView.name]

theorem filterMap_assigned?_stampLines (config : Config) (view : ToolView) :
    (stampLines config view).filterMap Line.assigned? =
      [Name.identifier view.name, Name.stampIdentifier view.name] := by
  rw [stampLines, List.filterMap_append, List.filterMap_append,
    filterMap_assigned?_installLines]
  rfl

/-- A tool's lines assign its identifiers, each of them once. -/
theorem filterMap_assigned?_toolLines (config : Config) (view : ToolView) :
    ((toolLines config view).filterMap Line.assigned?).Perm
      ((Check.toolIdentifiers view.tool).map Prod.fst) := by
  have hnames :
      (toolLines config view).filterMap Line.assigned? =
        view.tool.varNames ++ (view.tool.fetchedNames ++
          [Name.identifier view.name, Name.stampIdentifier view.name]) := by
    cases hprovided : view.tool.installer.isProvided with
    | true =>
        obtain ⟨default, hdefault⟩ := Installer.exists_of_isProvided hprovided
        have hfetched : view.tool.fetchedNames = [] := by
          simp [Tool.fetchedNames, hdefault, Installer.hasUrl, Installer.hasArchive,
            Installer.fetch?]
        rw [toolLines, hdefault, hfetched]
        simp only [List.cons_append, List.filterMap_append, List.nil_append,
          filterMap_assigned?_varLines, filterMap_assigned?_installLines, List.filterMap_cons]
        rfl
    | false =>
        rw [toolLines_of_isProvided_eq_false hprovided, List.filterMap_cons]
        simp only [List.filterMap_append, filterMap_assigned?_varLines,
          filterMap_assigned?_fetched, filterMap_assigned?_stampLines]
        rfl
  rw [hnames, Tool.map_fst_toolIdentifiers]
  exact List.perm_append_comm.trans (List.perm_append_comm.append_right _)

end Names

/-! ### The text of a plan -/

section Text

variable {draft : Draft} {config : Config} {provenance : Provenance} {plan : Plan}

theorem sound_of_mem_setLines {name : String} {set : ToolSet} (hname : set.name.text = name)
    {line : Line} (hline : line ∈ setLines name set) : line.Sound := by
  have hplain := set.name.isPlain_text
  rw [hname] at hplain
  have hne : name ≠ "" := hname ▸ set.name.text_ne_empty
  simp only [setLines, List.mem_cons, List.not_mem_nil, or_false] at hline
  rcases hline with rfl | rfl | rfl
  · trivial
  · exact hplain.oneLine
  · refine ⟨isVariable_of_isPlain hplain hne, ?_, by simp⟩
    simp only [List.forall_mem_map]
    exact fun member _ => isWord_of_isPlain member.isPlain_text

theorem sound_of_mem_lines (h : Accepted draft config)
    (hplan : Plan.ofConfig config provenance = .ok plan)
    (hlines : ∀ s ∈ config.toJson.texts, OneLine s) (hpath : OneLine plan.provenance.path)
    (hdigest : OneLine plan.provenance.digest) {outPath : String} (hout : OneLine outPath)
    (htemplates : ∀ tool ∈ config.tools.values, ∀ source ∈ tool.installer.templates,
      tool.IsTemplated config source) {line : Line} (hline : line ∈ lines plan outPath) :
    line.Sound := by
  have hconfig := h.oneLined hlines
  have hplain := (Name.isPlain_of_isIdentifier hconfig.isIdentifier_localBinVar).1
  obtain rfl := Plan.config_of_ofConfig hplan
  simp only [lines, List.mem_append, List.mem_cons, List.not_mem_nil, or_false,
    List.mem_flatMap] at hline
  rcases hline with (((rfl | rfl | rfl | rfl | rfl | rfl | rfl) | hshared) | htool) | hset
  · have hversion : OneLine ("Code generated by make-env " ++ version ++ ". DO NOT EDIT.") := by
      decide
    exact hversion
  · have hsource : OneLine "Source: " := by decide
    have hopen : OneLine " (sha256:" := by decide
    have hclose : OneLine ")" := by decide
    simp only [Line.Sound, OneLine.append_iff]
    exact ⟨⟨⟨⟨hsource, hpath⟩, hopen⟩, hdigest⟩, hclose⟩
  · have houtput : OneLine "Output: " := by decide
    exact OneLine.append_iff.mpr ⟨houtput, hout⟩
  · trivial
  · exact ⟨isVariable_of_isPlain hplain (Name.isPlain_of_isIdentifier
      hconfig.isIdentifier_localBinVar).2, by decide⟩
  · exact ⟨isVariable_reference hplain, by simp, by simp⟩
  · have htarget : OneLine " -p $@" := by decide
    exact OneLine.append_iff.mpr ⟨hconfig.mkdir, htarget⟩
  · unfold sharedLines at hshared
    split at hshared
    · exact absurd hshared List.not_mem_nil
    · rcases List.mem_cons.mp hshared with rfl | hvar
      · trivial
      · have hempty : Name.IsPlain "" := by decide
        exact sound_of_mem_varLines hempty hconfig.isPlain_vars
          (fun key hkey => Or.inr (hconfig.identifier_ne_empty key hkey)) hconfig.values hvar
  · obtain ⟨view, hview, hmem⟩ := htool
    obtain ⟨tool, htool, rfl⟩ := Plan.exists_tool_of_mem_tools hplan hview
    rcases hmem with rfl | hmem
    · trivial
    · refine sound_of_mem_toolLines hconfig (h.oneLined_view hlines htool) ?_ hmem
      intro source hsource
      have hurl := (h.oneLined_view hlines htool).url source hsource
      have htemplate := htemplates tool htool _ (Installer.url_mem_templates hsource)
      exact Tool.oneLine_filled htemplate hurl (depth + 4)
  · obtain ⟨entry, hentry, hmem⟩ := hset
    exact sound_of_mem_setLines (h.text_toolSet (Dict.get?_eq_some_iff.mpr hentry)) hmem

/-- The lines of a Makefile assign the identifiers that the check claims, each of them once. -/
theorem filterMap_assigned?_lines (hplan : Plan.ofConfig config provenance = .ok plan)
    (outPath : String) :
    ((lines plan outPath).filterMap Line.assigned?).Perm
      ((Check.identifiers config).map Prod.fst) := by
  have hshared : (sharedLines config.vars).filterMap Line.assigned? =
      config.vars.keys.map (Name.scopedIdentifier "") := by
    unfold sharedLines
    split
    · next hnil => simp [Dict.keys, hnil]
    · exact filterMap_assigned?_varLines "" config.vars
  have hsets : (config.toolSets.entries.flatMap (fun entry => setLines entry.1 entry.2)).filterMap
      Line.assigned? = [] := by
    rw [List.filterMap_flatMap]
    exact List.flatMap_eq_nil_iff.mpr (fun entry _ => rfl)
  obtain rfl := Plan.config_of_ofConfig hplan
  rw [Config.map_fst_identifiers, lines]
  simp only [List.filterMap_append, hshared, hsets, List.append_nil]
  refine List.Perm.cons _ (List.Perm.append_left _ ?_)
  rw [List.filterMap_flatMap]
  have htools := (Plan.tools_perm hplan).flatMap
    (fun view _ => filterMap_assigned?_toolLines plan.config view)
  rw [List.flatMap_map] at htools
  exact htools

/-- A Makefile assigns the identifiers that the check claims, each of them once. -/
theorem assignedNames_text (h : Accepted draft config)
    (hplan : Plan.ofConfig config provenance = .ok plan)
    (hlines : ∀ s ∈ config.toJson.texts, OneLine s) (hpath : OneLine plan.provenance.path)
    (hdigest : OneLine plan.provenance.digest) {outPath : String} (hout : OneLine outPath)
    (htemplates : ∀ tool ∈ config.tools.values, ∀ source ∈ tool.installer.templates,
      tool.IsTemplated config source) :
    (assignedNames (text plan outPath)).Perm ((Check.identifiers config).map Prod.fst) := by
  have hsound : ∀ line ∈ lines plan outPath, line.Sound :=
    fun line hline => sound_of_mem_lines h hplan hlines hpath hdigest hout htemplates hline
  rw [text, assignedNames_unlines hsound]
  exact filterMap_assigned?_lines hplan outPath

end Text

end Makefile

/-! ## Dockerfiles -/

namespace Dockerfile

section Tool

variable {config : Config} {view : ToolView}

theorem filterMap_defaulted?_varLines (owner : String) (vars : Dict String) :
    (varLines owner vars).filterMap Line.defaulted? =
      vars.keys.map (Name.scopedIdentifier owner) := by
  rw [varLines, List.filterMap_map, Dict.keys, List.map_map, ← List.filterMap_eq_map]
  rfl

theorem filterMap_defaulted?_fetched (config : Config) (view : ToolView) :
    ((view.tool.installer.fetch?.map (fetchLines config view)).getD []).filterMap
        Line.defaulted? = view.tool.fetchedNames := by
  unfold Tool.fetchedNames Installer.hasUrl Installer.hasArchive
  cases hfetch : view.tool.installer.fetch? with
  | none => rfl
  | some source =>
      cases harchive : source.archive <;>
        simp [fetchLines, harchive, Line.defaulted?, ToolView.name]

/-- The build arguments of a tool are its identifiers without the stamp. -/
theorem filterMap_defaulted?_argumentLines (config : Config) (view : ToolView) :
    ((argumentLines config view).filterMap Line.defaulted? ++
        [Name.stampIdentifier view.name]).Perm
      ((Check.toolIdentifiers view.tool).map Prod.fst) := by
  have hnames :
      (argumentLines config view).filterMap Line.defaulted? =
        view.tool.varNames ++ ([Name.identifier view.name] ++ view.tool.fetchedNames) := by
    cases hprovided : view.tool.installer.isProvided with
    | true =>
        obtain ⟨default, hdefault⟩ := Installer.exists_of_isProvided hprovided
        have hfetched : view.tool.fetchedNames = [] := by
          simp [Tool.fetchedNames, hdefault, Installer.hasUrl, Installer.hasArchive,
            Installer.fetch?]
        rw [argumentLines, hdefault, hfetched]
        simp only [List.filterMap_append, filterMap_defaulted?_varLines]
        rfl
    | false =>
        rw [argumentLines_of_isProvided_eq_false hprovided]
        simp only [List.filterMap_append, List.filterMap_cons, filterMap_defaulted?_varLines,
          filterMap_defaulted?_fetched]
        rfl
  rw [hnames, Tool.map_fst_toolIdentifiers]
  -- The stamp moves over what the tool is fetched with, and the variables over both.
  have hstamp : ([Name.identifier view.name] ++ view.tool.fetchedNames ++
      [Name.stampIdentifier view.name]).Perm
        ([Name.identifier view.name, Name.stampIdentifier view.name] ++ view.tool.fetchedNames) :=
    (List.perm_append_comm.cons _)
  rw [List.append_assoc]
  exact List.perm_append_comm.trans (hstamp.append_right _)

theorem sound_argument {name value : String} (hname : Name.IsPlain name) (hvalue : OneLine value) :
    (Line.argument name (some value)).Sound := by
  refine ⟨hname, ?_⟩
  rintro text htext
  obtain rfl := Option.some.inj htext
  exact hvalue

theorem sound_of_mem_varLines {owner : String} {vars : Dict String} {line : Line}
    (howner : Name.IsPlain owner) (hkeys : ∀ key ∈ vars.keys, Name.IsPlain key)
    (hline : line ∈ varLines owner vars) : line.Sound := by
  obtain ⟨⟨key, value⟩, hentry, rfl⟩ := List.mem_map.mp hline
  exact sound_argument (howner.scopedIdentifier (hkeys key (List.mem_map_of_mem hentry)))
    (oneLine_argText value)

theorem oneLine_localBin (hconfig : config.OneLined) : OneLine (localBin config) :=
  oneLine_reference (Name.isPlain_of_isIdentifier hconfig.isIdentifier_localBinVar).1

theorem sound_of_mem_argumentLines (hconfig : config.OneLined) (hview : view.OneLined) {line : Line}
    (hline : line ∈ argumentLines config view) : line.Sound := by
  have hplain : Name.IsPlain view.name := view.tool.name.isPlain_text
  have hlocal := oneLine_localBin hconfig
  have hname := hplain.oneLine
  have hslash : OneLine "/" := by decide
  have hdir : OneLine "/.make-env/" := by decide
  have hpoint : OneLine "." := by decide
  rcases List.mem_append.mp hline with hvar | hown
  · exact sound_of_mem_varLines hplain hview.isPlain_vars hvar
  · split at hown
    · next default _ =>
        obtain rfl := List.mem_singleton.mp hown
        exact sound_argument hplain.identifier (oneLine_argText default)
    · rcases List.mem_cons.mp hown with rfl | hfetched
      · apply sound_argument hplain.identifier
        simp only [OneLine.append_iff]
        exact ⟨⟨hlocal, hslash⟩, hname⟩
      · cases hfetch : view.tool.installer.fetch? with
        | none =>
            rw [hfetch] at hfetched
            exact absurd hfetched List.not_mem_nil
        | some source =>
            rw [hfetch] at hfetched
            rcases List.mem_cons.mp hfetched with rfl | harchived
            · exact sound_argument hplain.urlIdentifier (oneLine_argText _)
            · obtain ⟨archive, -, rfl⟩ := Option.map_eq_some_iff.mp (Option.mem_toList.mp harchived)
              apply sound_argument hplain.archiveIdentifier
              simp only [OneLine.append_iff]
              exact ⟨⟨⟨⟨hlocal, hdir⟩, hname⟩, hpoint⟩, archive.isPlain_kind.oneLine⟩

theorem stage?_of_mem_argumentLines {line : Line} (hline : line ∈ argumentLines config view) :
    line.stage? = none := by
  obtain ⟨name, value, rfl, -⟩ := exists_of_mem_argumentLines hline
  rfl

end Tool

section Text

variable {draft : Draft} {config : Config} {provenance : Provenance} {plan : Plan}

theorem stage?_of_mem_prologue {outPath : String} {line : Line}
    (hline : line ∈ prologue plan outPath) : line.stage? = none := by
  simp only [prologue, List.mem_append, List.mem_cons, List.not_mem_nil, or_false,
    List.mem_flatMap] at hline
  rcases hline with ((rfl | rfl | rfl | rfl | rfl | rfl) | hshared) | ⟨view, -, hmem⟩
  · rfl
  · rfl
  · rfl
  · rfl
  · rfl
  · rfl
  · obtain ⟨entry, -, rfl⟩ := List.mem_map.mp hshared
    rfl
  · exact stage?_of_mem_argumentLines hmem

theorem sound_of_mem_prologue (h : Accepted draft config)
    (hplan : Plan.ofConfig config provenance = .ok plan)
    (hlines : ∀ s ∈ config.toJson.texts, OneLine s) (hpath : OneLine plan.provenance.path)
    (hdigest : OneLine plan.provenance.digest) {outPath : String} (hout : OneLine outPath)
    {line : Line} (hline : line ∈ prologue plan outPath) : line.Sound := by
  have hconfig := h.oneLined hlines
  have hplain := (Name.isPlain_of_isIdentifier hconfig.isIdentifier_localBinVar).1
  obtain rfl := Plan.config_of_ofConfig hplan
  simp only [prologue, List.mem_append, List.mem_cons, List.not_mem_nil, or_false,
    List.mem_flatMap] at hline
  rcases hline with ((rfl | rfl | rfl | rfl | rfl | rfl) | hshared) | ⟨view, hview, hmem⟩
  · have hdirective : OneLine "syntax=docker/dockerfile:1" := by decide
    exact hdirective
  · have hversion : OneLine ("Code generated by make-env " ++ version ++ ". DO NOT EDIT.") := by
      decide
    exact hversion
  · have hsource : OneLine "Source: " := by decide
    have hopen : OneLine " (sha256:" := by decide
    have hclose : OneLine ")" := by decide
    simp only [Line.Sound, OneLine.append_iff]
    exact ⟨⟨⟨⟨hsource, hpath⟩, hopen⟩, hdigest⟩, hclose⟩
  · have houtput : OneLine "Output: " := by decide
    exact OneLine.append_iff.mpr ⟨houtput, hout⟩
  · trivial
  · exact sound_argument hplain (oneLine_argText _)
  · have hempty : Name.IsPlain "" := by decide
    exact sound_of_mem_varLines hempty hconfig.isPlain_vars hshared
  · obtain ⟨tool, htool, rfl⟩ := Plan.exists_tool_of_mem_tools hplan hview
    exact sound_of_mem_argumentLines hconfig (h.oneLined_view hlines htool) hmem

/-- Behind the build arguments there is a stage. -/
theorem exists_stage (plan : Plan) :
    ∃ image name rest, partLines plan ++ finalLines plan = .blank :: .stage image name :: rest := by
  unfold partLines
  cases installed plan with
  | cons view others => exact ⟨_, _, _, rfl⟩
  | nil =>
      cases plan.config.toolSets.entries with
      | cons entry others => exact ⟨_, _, _, rfl⟩
      | nil => exact ⟨_, _, _, rfl⟩

theorem filterMap_defaulted?_prologue_eq (plan : Plan) (outPath : String) :
    (prologue plan outPath).filterMap Line.defaulted? =
      plan.config.localBinVar :: (plan.config.vars.keys.map (Name.scopedIdentifier "") ++
        plan.tools.flatMap (fun view =>
          (argumentLines plan.config view).filterMap Line.defaulted?)) := by
  simp only [prologue, List.filterMap_append, filterMap_defaulted?_varLines,
    List.filterMap_flatMap]
  rfl

/-- The lines before the first stage declare the identifiers that the check claims, each of them
once, without the stamps. -/
theorem filterMap_defaulted?_prologue (hplan : Plan.ofConfig config provenance = .ok plan)
    (outPath : String) :
    ((prologue plan outPath).filterMap Line.defaulted? ++
        config.tools.values.map (fun tool => Name.stampIdentifier tool.name.text)).Perm
      ((Check.identifiers config).map Prod.fst) := by
  obtain rfl := Plan.config_of_ofConfig hplan
  rw [filterMap_defaulted?_prologue_eq, Config.map_fst_identifiers]
  have hperm := Plan.tools_perm hplan
  have hstamps := hperm.map (fun view => Name.stampIdentifier view.name)
  have hviews := hperm.flatMap
    (fun view _ => filterMap_defaulted?_argumentLines plan.config view)
  rw [List.map_map] at hstamps
  rw [List.flatMap_map] at hviews
  have htools :
      (plan.tools.flatMap (fun view => (argumentLines plan.config view).filterMap
            Line.defaulted?) ++
          plan.config.tools.values.map (fun tool => Name.stampIdentifier tool.name.text)).Perm
        (plan.config.tools.values.flatMap
          (fun tool => (Check.toolIdentifiers tool).map Prod.fst)) := by
    refine (hstamps.symm.append_left _).trans (List.Perm.trans ?_ hviews)
    rw [List.map_eq_flatMap]
    exact List.flatMap_append_perm _ _ _
  rw [List.cons_append, List.append_assoc]
  exact (htools.append_left _).cons _

/-- A Dockerfile declares the identifiers that the check claims, each of them once, without the
stamps. -/
theorem declaredNames_text (h : Accepted draft config)
    (hplan : Plan.ofConfig config provenance = .ok plan)
    (hlines : ∀ s ∈ config.toJson.texts, OneLine s) (hpath : OneLine plan.provenance.path)
    (hdigest : OneLine plan.provenance.digest) {outPath : String} (hout : OneLine outPath) :
    (declaredNames (text plan outPath) ++
        config.tools.values.map (fun tool => Name.stampIdentifier tool.name.text)).Perm
      ((Check.identifiers config).map Prod.fst) := by
  have hprologue : ∀ line ∈ prologue plan outPath, line.Sound ∧ line.stage? = none :=
    fun line hline => ⟨sound_of_mem_prologue h hplan hlines hpath hdigest hout hline,
      stage?_of_mem_prologue hline⟩
  obtain ⟨image, name, rest, hrest⟩ := exists_stage plan
  have hsplit : lines plan outPath =
      (prologue plan outPath ++ [.blank]) ++ .stage image name :: rest := by
    rw [lines, List.append_assoc, hrest, List.append_assoc]
    rfl
  have hbefore : ∀ line ∈ prologue plan outPath ++ [.blank], line.Sound ∧ line.stage? = none := by
    intro line hline
    rcases List.mem_append.mp hline with hfront | hblank
    · exact hprologue line hfront
    · obtain rfl := List.mem_singleton.mp hblank
      exact ⟨trivial, rfl⟩
  have hblank : [Line.blank].filterMap Line.defaulted? = [] := rfl
  rw [text, hsplit, declaredNames_unlines (fun line hline => (hbefore line hline).1)
    (fun line hline => (hbefore line hline).2), List.filterMap_append, hblank, List.append_nil]
  exact filterMap_defaulted?_prologue hplan outPath

end Text

end Dockerfile

/-- Where every text keeps to one line, a Makefile assigns exactly the identifiers that the check of
the manifest claims and a Dockerfile declares the same ones before its first stage, apart from the
stamps.  Neither defines one of them twice. -/
theorem definitions_of_check {draft : Draft} {config : Config} {provenance : Provenance}
    (hok : draft.check = .ok config) (hlines : ∀ s ∈ config.toJson.texts, OneLine s)
    (hpath : OneLine provenance.path) (hdigest : OneLine provenance.digest)
    {makefilePath dockerfilePath : String} (hmakefile : OneLine makefilePath)
    (hdockerfile : OneLine dockerfilePath)
    (htemplates : ∀ tool ∈ config.tools.values, ∀ source ∈ tool.installer.templates,
      tool.IsTemplated config source) :
    ∃ plan makefile dockerfile, Plan.ofConfig config provenance = .ok plan ∧
      plan.emit ArtifactKind.makefile.fragments .makefile makefilePath = .ok makefile ∧
      plan.emit ArtifactKind.dockerfile.fragments .dockerfile dockerfilePath = .ok dockerfile ∧
      (Makefile.assignedNames makefile).Nodup ∧
      (Dockerfile.declaredNames dockerfile).Nodup ∧
      (∀ name, name ∈ Makefile.assignedNames makefile ↔
        name ∈ (Check.identifiers config).map Prod.fst) ∧
      ∀ name, name ∈ Dockerfile.declaredNames dockerfile ↔
        name ∈ Makefile.assignedNames makefile ∧
          ∀ tool ∈ config.tools.values, name ≠ Name.stampIdentifier tool.name.text := by
  have h := Draft.check_eq_ok_iff.mp hok
  obtain ⟨plan, hplan⟩ := h.exists_plan provenance
  have hprovenance := Plan.provenance_of_ofConfig hplan
  rw [← hprovenance] at hpath hdigest
  have hassigned :=
    Makefile.assignedNames_text h hplan hlines hpath hdigest hmakefile htemplates
  have hdeclared := Dockerfile.declaredNames_text h hplan hlines hpath hdigest hdockerfile
  obtain ⟨hnodup, -, hdisjoint⟩ :=
    List.nodup_append.mp (hdeclared.nodup_iff.mpr h.identifiers_nodup)
  refine ⟨plan, _, _, hplan, h.emit_eq_text hplan htemplates .makefile makefilePath,
    h.emit_eq_text hplan htemplates .dockerfile dockerfilePath,
    hassigned.nodup_iff.mpr h.identifiers_nodup, hnodup, fun name => hassigned.mem_iff, ?_⟩
  intro name
  have hname := (hassigned.trans hdeclared.symm).mem_iff (a := name)
  rw [List.mem_append, List.mem_map] at hname
  constructor
  · intro hmem
    refine ⟨hname.mpr (Or.inl hmem), ?_⟩
    rintro tool htool rfl
    exact hdisjoint _ hmem _ (List.mem_map_of_mem htool) rfl
  · rintro ⟨hmem, hstamps⟩
    rcases hname.mp hmem with hmem | ⟨tool, htool, heq⟩
    · exact hmem
    · exact absurd heq.symm (hstamps tool htool)

theorem definitions_packed :
    ∃ plan makefile dockerfile, Plan.ofConfig Config.packed ⟨"provision.yaml", "00"⟩ = .ok plan ∧
      plan.emit ArtifactKind.makefile.fragments .makefile "Makefile" = .ok makefile ∧
      plan.emit ArtifactKind.dockerfile.fragments .dockerfile "Dockerfile" = .ok dockerfile ∧
      (Makefile.assignedNames makefile).Nodup ∧ (Dockerfile.declaredNames dockerfile).Nodup ∧
      (∀ name, name ∈ Makefile.assignedNames makefile ↔
        name ∈ (Check.identifiers Config.packed).map Prod.fst) ∧
      ∀ name, name ∈ Dockerfile.declaredNames dockerfile ↔
        name ∈ Makefile.assignedNames makefile ∧
          ∀ tool ∈ Config.packed.tools.values, name ≠ Name.stampIdentifier tool.name.text := by
  have hlines : ∀ s ∈ Config.packed.toJson.texts, OneLine s :=
    fun s hs => (Config.texts_packed s hs).1
  exact definitions_of_check Config.check_packed hlines (by decide) (by decide) (by decide)
    (by decide) Config.isTemplated_packed

end Provision
