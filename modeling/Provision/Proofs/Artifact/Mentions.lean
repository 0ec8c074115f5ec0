import Provision.Proofs.Artifact.Definitions
import Provision.Proofs.Artifact.Mirror

/-!
# References in Makefiles

Where dollar signs stand in references alone, the references in a Makefile are those that its lines
are made with: to the identifiers that the check of the manifest claims, and to the directory that
make runs in.  All of the identifiers are assigned in the Makefile.
-/

namespace Provision

/-- A text keeps to one line and has no references in it. -/
def Flat (s : String) : Prop :=
  OneLine s ∧ '$' ∉ s.toList

instance : DecidablePred Flat :=
  fun s => inferInstanceAs (Decidable (OneLine s ∧ '$' ∉ s.toList))

/-! ## Literal values -/

theorem Mirrored.refers_makeText {kind : ArtifactKind} {names : String → Prop}
    {text : ArtifactKind → String} (h : Mirrored names text) :
    Refers kind names (makeText (text kind)) := by
  apply h.refers_flatMap
  · intro c hc
    rw [if_neg]
    rintro rfl
    exact absurd hc (by decide)
  · cases kind <;> decide
  · intro c hc
    split at hc
    · exact absurd hc (by decide)
    · exact (List.mem_singleton.mp hc).symm

theorem Json.escape_of_isNameChar {c : Char} (h : Name.isNameChar true c = true) :
    escape c = [c] := by
  refine Name.of_isNameChar (P := fun c => escape c = [c]) ?_ h
  decide

theorem Mirrored.refers_argText {kind : ArtifactKind} {names : String → Prop}
    {text : ArtifactKind → String} (h : Mirrored names text) :
    Refers kind names (argText (text kind)) := by
  unfold argText argValue
  split
  · have hquoted : String.ofList (Json.quoted (text kind).toList) =
        "\"" ++ String.ofList ((text kind).toList.flatMap Json.escape) ++ "\"" := by
      apply String.toList_inj.mp
      simp [Json.quoted]
    rw [hquoted]
    refine ((Refers.literal (by decide)).append (h.refers_flatMap ?_ ?_ ?_)).append
      (.literal (by decide))
    · exact fun c hc => Json.escape_of_isNameChar hc
    · cases kind <;> decide
    · intro c hc
      rcases Json.mem_escape hc with ⟨rfl, -⟩ | hletter | hslash | hquote
      · rfl
      · exact absurd hletter (by decide)
      · exact absurd hslash (by decide)
      · exact absurd hquote (by decide)
  · rw [String.ofList_toList]
    exact h.refers

theorem Refers.argText {kind : ArtifactKind} {names : String → Prop} {s : String}
    (h : '$' ∉ s.toList) : Refers kind names (Provision.argText s) :=
  (Mirrored.literal h).refers_argText

theorem Refers.makeText {kind : ArtifactKind} {names : String → Prop} {s : String}
    (h : '$' ∉ s.toList) : Refers kind names (Provision.makeText s) :=
  (Mirrored.literal h).refers_makeText

theorem Name.IsPlain.refers {kind : ArtifactKind} {names : String → Prop} {name : String}
    (h : Name.IsPlain name) : Refers kind names name :=
  .literal h.dollar_notMem

namespace Makefile

/-- The target of a rule is not a variable. -/
theorem refers_target {names : String → Prop} : Refers .makefile names "$@" := by
  have htarget : ∀ rest, "$@".toList ++ rest = '$' :: (['@'] ++ rest) := fun _ => rfl
  intro rest hrest
  rw [htarget]
  refine .cons ?_ (hrest.literal_append (by decide))
  intro name _ hfront
  simp [ArtifactKind.toList_reference, ArtifactKind.opening] at hfront

/-- The call of a function is not a reference to a variable. -/
theorem refers_call {names : String → Prop} {function : String} (h : Name.IsPlain function) :
    Refers .makefile names ("$(" ++ function ++ " ") := by
  have hdollar : '$' ∉ ('(' :: function.toList ++ [' ']) := by
    simp [h.dollar_notMem]
  have hcall : ∀ rest, ("$(" ++ function ++ " ").toList ++ rest =
      '$' :: (('(' :: function.toList ++ [' ']) ++ rest) := by
    intro rest
    simp
  intro rest hrest
  rw [hcall]
  refine .cons ?_ (hrest.literal_append hdollar)
  intro name hname hfront
  -- Both names end at the first character that no name has.
  obtain ⟨more, hmore⟩ := hfront
  simp only [ArtifactKind.toList_reference, ArtifactKind.opening, ArtifactKind.closing,
    List.cons_append, List.append_assoc, List.cons.injEq, true_and, List.nil_append] at hmore
  have hread : ∀ (cs after : List Char) (last : Char),
      (∀ c ∈ cs, Name.isNameChar true c = true) → Name.isNameChar true last = false →
      (cs ++ last :: after).dropWhile (Name.isNameChar true) = last :: after := by
    intro cs after last hcs hlast
    rw [List.dropWhile_append_of_pos hcs, List.dropWhile_cons_of_neg (by simp [hlast])]
  have hbehind := congrArg (List.dropWhile (Name.isNameChar true)) hmore
  rw [hread _ _ _ hname (by decide), hread _ _ _ h (by decide)] at hbehind
  exact absurd (List.cons.inj hbehind).1 (by decide)

section Lines

variable {names : String → Prop}

theorem refers_default {name value : String} (hname : Name.IsPlain name)
    (hvalue : Refers .makefile names value) :
    Refers .makefile names (Line.default name value).text :=
  (hname.refers.append (.literal (by decide))).append hvalue

theorem refers_clear {name : String} (hname : Name.IsPlain name) :
    Refers .makefile names (Line.clear name).text :=
  hname.refers.append (.literal (by decide))

theorem refers_phony {name : String} (hname : Name.IsPlain name) :
    Refers .makefile names (Line.phony name).text :=
  (Refers.literal (by decide)).append hname.refers

theorem refers_rule {target : String} {prerequisites orderOnly : List String}
    (htarget : Refers .makefile names target)
    (hprerequisites : ∀ name ∈ prerequisites, Refers .makefile names name)
    (horder : ∀ name ∈ orderOnly, Refers .makefile names name) :
    Refers .makefile names (Line.rule target prerequisites orderOnly).text := by
  have hjoin : ∀ texts : List String, (∀ name ∈ texts, Refers .makefile names name) →
      Refers .makefile names (String.join (texts.map (" " ++ ·))) := by
    intro texts htexts
    apply Refers.join
    intro text htext
    obtain ⟨name, hname, rfl⟩ := List.mem_map.mp htext
    exact (Refers.literal (by decide)).append (htexts name hname)
  refine ((htarget.append (.literal (by decide))).append (hjoin _ hprerequisites)).append ?_
  split
  · exact .literal (by decide)
  · exact (Refers.literal (by decide)).append (hjoin _ horder)

theorem mentions_recipe {command : String} (h : Refers .makefile names command) :
    Mentions .makefile names (Line.recipe command).text.toList :=
  h.mentions.indented

end Lines

/-- The references in the lines of a tool are to certain names. -/
structure Resolved (config : Config) (names : String → Prop) (view : ToolView) : Prop where
  legible : Legible config view.tool view.runner
  recipe : ∀ name ∈ Recipe.names config view.tool view.runner, names name
  stamp : names (Name.stampIdentifier view.name)
  prerequisites : ∀ name ∈ view.prerequisites,
    Name.IsPlain name ∧ names (Name.stampIdentifier name)
  values : ∀ value ∈ view.tool.vars.values, '$' ∉ value.toList

section Tool

variable {config : Config} {names : String → Prop} {view : ToolView}

theorem mentions_of_mem_varLines {owner : String} {vars : Dict String} {line : Line}
    (howner : Name.IsPlain owner) (hkeys : ∀ key ∈ vars.keys, Name.IsPlain key)
    (hvalues : ∀ value ∈ vars.values, '$' ∉ value.toList) (hline : line ∈ varLines owner vars) :
    Mentions .makefile names line.text.toList := by
  obtain ⟨⟨key, value⟩, hentry, rfl⟩ := List.mem_map.mp hline
  exact (refers_default (howner.scopedIdentifier (hkeys key (List.mem_map_of_mem hentry)))
    (.makeText (hvalues value (List.mem_map_of_mem hentry)))).mentions

theorem refers_madePath (hlocal : Refers .makefile names (localBin config)) {name : String}
    (hname : Refers .makefile names name) : Refers .makefile names (madePath config name) :=
  (hlocal.append (.literal (by decide))).append hname

/-- A stamp refers to the directory of the binaries and to the variables of its tool. -/
theorem refers_stampPath (hlocal : Refers .makefile names (localBin config))
    (hplain : ∀ key ∈ view.tool.vars.keys, Name.IsPlain key)
    (hnames : ∀ name ∈ view.tool.varNames, names name) :
    Refers .makefile names (stampPath config view) := by
  have hname : Refers .makefile names view.name := view.tool.name.isPlain_text.refers
  have hsubst : "@$(subst /,_," = "@" ++ ("$(" ++ "subst" ++ " ") ++ "/,_," := by decide
  refine ((((refers_madePath hlocal hname).append (.literal (by decide))).append
    view.tool.installer.isPlain_digest.refers).append (.join ?_)).append (.literal (by decide))
  intro text htext
  obtain ⟨key, hkey, rfl⟩ := List.mem_map.mp htext
  rw [hsubst]
  exact ((((Refers.literal (by decide)).append (refers_call (by decide))).append
    (.literal (by decide))).append (.reference
      (view.tool.name.isPlain_text.scopedIdentifier (hplain key hkey))
      (hnames _ (List.mem_map_of_mem hkey)))).append (.literal (by decide))

variable (h : Resolved config names view)

include h

theorem refers_localBin : Refers .makefile names (localBin config) :=
  .reference (Name.isPlain_of_isIdentifier h.legible.isIdentifier_localBinVar).1
    (h.recipe _ (by simp [Recipe.names]))

theorem mentions_of_mem_installLines {line : Line} (hline : line ∈ installLines config view) :
    Mentions .makefile names line.text.toList := by
  obtain ⟨command, hcommand, rfl⟩ := List.mem_map.mp hline
  have hrecipe := (Recipe.mirrored_lines h.legible depth).mono h.recipe
  exact (hrecipe.refers.mentions.of_mem_splits hcommand).indented

theorem mentions_of_mem_fetchLines {source : Fetch}
    (hfetch : view.tool.installer.fetch? = some source) {line : Line}
    (hline : line ∈ fetchLines config view source) :
    Mentions .makefile names line.text.toList := by
  have hplain := view.tool.name.isPlain_text
  rcases List.mem_cons.mp hline with rfl | harchive
  · have hrendered : source.url ∈ view.tool.installer.rendered := by
      rw [Installer.rendered_of_fetch? hfetch]
      exact List.mem_cons_self
    have hfilled := (Recipe.mirrored_filled h.legible hrendered (depth + 4)).mono h.recipe
    exact (refers_default hplain.urlIdentifier hfilled.refers_makeText).mentions
  · obtain ⟨archive, -, rfl⟩ := Option.map_eq_some_iff.mp (Option.mem_toList.mp harchive)
    exact (refers_default hplain.archiveIdentifier
      (((refers_madePath (refers_localBin h) hplain.refers).append (.literal (by decide))).append
        archive.isPlain_kind.refers)).mentions

theorem mentions_of_mem_stampLines {line : Line} (hline : line ∈ stampLines config view) :
    Mentions .makefile names line.text.toList := by
  have hplain : Name.IsPlain view.name := view.tool.name.isPlain_text
  have hlocal := refers_localBin h
  have hstamp : Refers .makefile names (reference (Name.stampIdentifier view.name)) :=
    .reference hplain.stampIdentifier h.stamp
  have hmkdir := h.legible.commands ("mkdir", config.commands.mkdir) (by simp [Commands.fields])
  have hrm := h.legible.commands ("rm", config.commands.rm) (by simp [Commands.fields])
  have htouch := h.legible.commands ("touch", config.commands.touch) (by simp [Commands.fields])
  have hquiet : Refers .makefile names "@" := .literal (by decide)
  simp only [stampLines, List.mem_append, List.mem_cons, List.not_mem_nil, or_false] at hline
  rcases hline with ((rfl | rfl | rfl | rfl | rfl | rfl | rfl | rfl | rfl) | hinstall) | rfl
  · exact (refers_default hplain.identifier
      ((hlocal.append (.literal (by decide))).append hplain.refers)).mentions
  · have hvars : ∀ name ∈ view.tool.varNames, names name :=
      fun name hname => h.recipe name (by simp [Recipe.names, Recipe.templateNames, hname])
    exact (refers_default hplain.stampIdentifier
      (refers_stampPath hlocal h.legible.isPlain_vars hvars)).mentions
  · exact .nil
  · exact (refers_phony hplain).mentions
  · exact (refers_rule hplain.refers (List.forall_mem_singleton.mpr hstamp) (by simp)).mentions
  · exact .nil
  · refine (refers_rule hstamp ?_ (List.forall_mem_singleton.mpr hlocal)).mentions
    simp only [List.forall_mem_map]
    intro name hname
    obtain ⟨hprerequisite, hknown⟩ := h.prerequisites name hname
    exact .reference hprerequisite.stampIdentifier hknown
  · have hdir : " -p $(dir $@)" = " -p " ++ ("$(" ++ "dir" ++ " ") ++ "$@" ++ ")" := by decide
    rw [hdir]
    exact mentions_recipe ((hquiet.append (.literal hmkdir)).append
      ((((Refers.literal (by decide)).append (refers_call (by decide))).append
        refers_target).append (.literal (by decide))))
  · exact mentions_recipe ((((hquiet.append (.literal hrm)).append (.literal (by decide))).append
      (refers_madePath hlocal hplain.refers)).append (.literal (by decide)))
  · exact mentions_of_mem_installLines h hinstall
  · have htarget : " $@" = " " ++ "$@" := by decide
    rw [htarget]
    exact mentions_recipe ((hquiet.append (.literal htouch)).append
      ((Refers.literal (by decide)).append refers_target))

theorem mentions_of_mem_toolLines {line : Line} (hline : line ∈ toolLines config view) :
    Mentions .makefile names line.text.toList := by
  have hplain : Name.IsPlain view.name := view.tool.name.isPlain_text
  have hkind := view.tool.installer.isPlain_kind
  rw [toolLines, List.mem_append, List.mem_cons] at hline
  rcases hline with (rfl | hvar) | hown
  · have htitle : Refers .makefile names (view.name ++ " (" ++ view.tool.installer.kind ++ ")") :=
      ((hplain.refers.append (.literal (by decide))).append hkind.refers).append
        (.literal (by decide))
    exact ((Refers.literal (by decide)).append htitle).mentions
  · exact mentions_of_mem_varLines hplain h.legible.isPlain_vars h.values hvar
  · split at hown
    · next default hdefault =>
        have hvalue : '$' ∉ default.toList := by
          apply h.legible.settings
          rw [hdefault]
          exact Installer.mem_texts_of_mem_settings _ List.mem_cons_self
        simp only [List.mem_append, List.mem_cons, List.not_mem_nil, or_false] at hown
        rcases hown with (rfl | rfl | rfl | rfl | rfl) | hinstall
        · exact (refers_default hplain.identifier (.makeText hvalue)).mentions
        · exact (refers_clear hplain.stampIdentifier).mentions
        · exact .nil
        · exact (refers_phony hplain).mentions
        · exact (refers_rule hplain.refers (by simp) (by simp)).mentions
        · exact mentions_of_mem_installLines h hinstall
    · rcases List.mem_append.mp hown with hfetched | hstamp
      · cases hfetch : view.tool.installer.fetch? with
        | none =>
            rw [hfetch] at hfetched
            exact absurd hfetched List.not_mem_nil
        | some source =>
            rw [hfetch] at hfetched
            exact mentions_of_mem_fetchLines h hfetch hfetched
      · exact mentions_of_mem_stampLines h hstamp

end Tool

section Plan

variable {draft : Draft} {config : Config} {provenance : Provenance} {plan : Plan}

theorem mem_identifiers_tool {tool : Tool} (htool : tool ∈ config.tools.values) {name : String}
    (hname : name ∈ (Check.toolIdentifiers tool).map Prod.fst) :
    name ∈ (Check.identifiers config).map Prod.fst := by
  rw [Config.map_fst_identifiers]
  exact List.mem_cons_of_mem _ (List.mem_append_right _ (List.mem_flatMap.mpr ⟨tool, htool, hname⟩))

theorem legible_ofTool (h : Accepted draft config)
    (hdollar : ∀ s ∈ config.toJson.texts, '$' ∉ s.toList) {tool : Tool}
    (htool : tool ∈ config.tools.values)
    (htemplates : ∀ source ∈ tool.installer.templates, tool.IsTemplated config source) :
    Legible config tool (ToolView.ofTool config tool).runner := by
  apply h.legible hdollar htool htemplates
  intro name hname
  obtain ⟨other, hother⟩ := Dict.exists_get?_of_mem_keys (ToolView.contains_of_runner hname)
  refine ⟨(ToolView.isPlain_of_runner hname).1, ?_⟩
  rw [← h.text_name hother]
  exact h.identifier_tool_ne_empty (Dict.mem_values_iff.mpr ⟨name, hother⟩)

/-- What the lines of a tool refer to is claimed by the check. -/
theorem resolved_of_accepted (h : Accepted draft config)
    (hdollar : ∀ s ∈ config.toJson.texts, '$' ∉ s.toList) {tool : Tool}
    (htool : tool ∈ config.tools.values)
    (htemplates : ∀ source ∈ tool.installer.templates, tool.IsTemplated config source)
    {names : String → Prop}
    (hnames : ∀ name, name ∈ (Check.identifiers config).map Prod.fst → names name) :
    Resolved config names (ToolView.ofTool config tool) := by
  have hown : ∀ name ∈ (Check.toolIdentifiers tool).map Prod.fst, names name :=
    fun name hname => hnames name (mem_identifiers_tool htool hname)
  rw [Tool.map_fst_toolIdentifiers] at hown
  have hdeclared : ∀ name ∈ config.tools.keys,
      names (Name.identifier name) ∧ names (Name.stampIdentifier name) := by
    intro name hname
    obtain ⟨other, hother⟩ := Dict.exists_get?_of_mem_keys hname
    have htext := h.text_name hother
    have hvalue : other ∈ config.tools.values := Dict.mem_values_iff.mpr ⟨name, hother⟩
    constructor <;> apply hnames <;> apply mem_identifiers_tool hvalue <;>
      simp [Tool.map_fst_toolIdentifiers, htext]
  constructor
  · exact legible_ofTool h hdollar htool htemplates
  · intro name hname
    simp only [Recipe.names, Recipe.templateNames, List.cons_append, List.mem_cons,
      List.mem_append, Option.mem_toList, Option.map_eq_some_iff] at hname
    rcases hname with rfl | ((hshared | hvar) | rfl | hfetched) | ⟨runner, hrunner, rfl⟩
    · exact hnames _ (by simp [Config.map_fst_identifiers])
    · exact hnames _ (by simp [Config.map_fst_identifiers, hshared])
    · exact hown _ (List.mem_append_right _ hvar)
    · exact hown _ (by simp [ToolView.ofTool])
    · exact hown _ (List.mem_append_left _ (List.mem_append_right _ hfetched))
    · exact (hdeclared runner (ToolView.contains_of_runner hrunner)).1
  · exact hown _ (by simp [ToolView.name, ToolView.ofTool])
  · intro name hname
    refine ⟨ToolView.isPlain_of_mem_prerequisites hname, ?_⟩
    rcases ToolView.mem_prerequisites_iff.mp hname with hdependency | hrunner
    · exact (hdeclared name (h.closed tool htool name hdependency)).2
    · exact (hdeclared name (ToolView.contains_of_runner hrunner)).2
  · intro value hvalue
    exact hdollar value (Config.texts_tool_subset htool
      (tool.texts_vars_subset (Dict.mem_texts_of_mem_values hvalue)))

theorem mentions_of_mem_setLines {names : String → Prop} {name : String} {set : ToolSet}
    (hname : set.name.text = name) {line : Line} (hline : line ∈ setLines name set) :
    Mentions .makefile names line.text.toList := by
  have hplain := set.name.isPlain_text
  rw [hname] at hplain
  simp only [setLines, List.mem_cons, List.not_mem_nil, or_false] at hline
  rcases hline with rfl | rfl | rfl
  · exact .nil
  · exact (refers_phony hplain).mentions
  · refine (refers_rule hplain.refers ?_ (by simp)).mentions
    simp only [List.forall_mem_map]
    exact fun member _ => member.isPlain_text.refers

/-- The references in a Makefile are to the identifiers that the check claims and to the current
directory. -/
theorem mentions_text (h : Accepted draft config)
    (hplan : Plan.ofConfig config provenance = .ok plan)
    (hdollar : ∀ s ∈ config.toJson.texts, '$' ∉ s.toList)
    (hpath : '$' ∉ plan.provenance.path.toList) (hdigest : '$' ∉ plan.provenance.digest.toList)
    {outPath : String} (hout : '$' ∉ outPath.toList)
    (htemplates : ∀ tool ∈ config.tools.values, ∀ source ∈ tool.installer.templates,
      tool.IsTemplated config source) :
    Mentions .makefile
      (fun name => name = "CURDIR" ∨ name ∈ (Check.identifiers config).map Prod.fst)
      (text plan outPath).toList := by
  have hlocal : Name.IsPlain config.localBinVar :=
    (Name.isPlain_of_isIdentifier h.isIdentifier_localBinVar).1
  have hmkdir : '$' ∉ config.commands.mkdir.toList :=
    hdollar _ (Config.command_mem_texts ("mkdir", _) (by simp [Commands.fields]))
  obtain rfl := Plan.config_of_ofConfig hplan
  apply Mentions.unlines
  simp only [List.forall_mem_map]
  intro line hline
  simp only [lines, List.mem_append, List.mem_cons, List.not_mem_nil, or_false,
    List.mem_flatMap] at hline
  rcases hline with (((rfl | rfl | rfl | rfl | rfl | rfl | rfl) | hshared) | htool) | hset
  · have hversion : '$' ∉ (Line.comment ("Code generated by make-env " ++ version ++
        ". DO NOT EDIT.")).text.toList := by decide
    exact (Refers.literal hversion).mentions
  · refine (Refers.literal ?_).mentions
    simp [Line.text, hpath, hdigest]
  · refine (Refers.literal ?_).mentions
    simp [Line.text, hout]
  · exact .nil
  · have hcurrent : "$(CURDIR)/bin" = ArtifactKind.makefile.reference "CURDIR" ++ "/bin" := by
      decide
    rw [hcurrent]
    exact (refers_default hlocal ((Refers.reference (by decide) (Or.inl rfl)).append
      (.literal (by decide)))).mentions
  · refine (refers_rule (.reference hlocal (Or.inr ?_)) (by simp) (by simp)).mentions
    simp [Config.map_fst_identifiers]
  · have htarget : " -p $@" = " -p " ++ "$@" := by decide
    rw [htarget]
    exact mentions_recipe ((Refers.literal hmkdir).append
      ((Refers.literal (by decide)).append refers_target))
  · unfold sharedLines at hshared
    split at hshared
    · exact absurd hshared List.not_mem_nil
    · rcases List.mem_cons.mp hshared with rfl | hvar
      · exact .nil
      · refine mentions_of_mem_varLines (by decide) (fun key hkey => (h.isPlain_sharedVar hkey).1)
          (fun value hvalue => ?_) hvar
        exact hdollar value (plan.config.texts_vars_subset (Dict.mem_texts_of_mem_values hvalue))
  · obtain ⟨view, hview, hmem⟩ := htool
    obtain ⟨tool, htool, rfl⟩ := Plan.exists_tool_of_mem_tools hplan hview
    rcases hmem with rfl | hmem
    · exact .nil
    · exact mentions_of_mem_toolLines (resolved_of_accepted h hdollar htool
        (htemplates tool htool) (fun _ hname => Or.inr hname)) hmem
  · obtain ⟨entry, hentry, hmem⟩ := hset
    exact mentions_of_mem_setLines (h.text_toolSet (Dict.get?_eq_some_iff.mpr hentry)) hmem

/-- Every variable that is referred to is assigned somewhere, apart from the directory that make
runs in. -/
def SelfContained (text : String) : Prop :=
  ∀ name, Name.IsPlain name → (reference name).toList <:+: text.toList →
    name = "CURDIR" ∨ name ∈ assignedNames text

theorem selfContained_text (h : Accepted draft config)
    (hplan : Plan.ofConfig config provenance = .ok plan)
    (hflat : ∀ s ∈ config.toJson.texts, Flat s) (hpath : Flat plan.provenance.path)
    (hdigest : Flat plan.provenance.digest) {outPath : String} (hout : Flat outPath)
    (htemplates : ∀ tool ∈ config.tools.values, ∀ source ∈ tool.installer.templates,
      tool.IsTemplated config source) :
    SelfContained (text plan outPath) := by
  have hlines : ∀ s ∈ config.toJson.texts, OneLine s := fun s hs => (hflat s hs).1
  have hdollar : ∀ s ∈ config.toJson.texts, '$' ∉ s.toList := fun s hs => (hflat s hs).2
  have hassigned := assignedNames_text h hplan hlines hpath.1 hdigest.1 hout.1 htemplates
  have hmentions := mentions_text h hplan hdollar hpath.2 hdigest.2 hout.2 htemplates
  intro name hplain hoccurs
  exact (hmentions name hplain hoccurs).imp id hassigned.mem_iff.mpr

end Plan

end Makefile

end Provision
