import Provision.Proofs.Artifact.Places
import Provision.Proofs.Artifact.Stamp
import Provision.Proofs.Text.Pattern

/-!
# Which stamps a rule deletes

The rule of a stamp starts with deleting the stamps that its tool had before, by a pattern that
leaves open all that stands between the name of the tool and the ending.  Names of tools have no at
sign, so the first one in the name of a stamp ends the name of its tool: the pattern matches all
stamps that the tool can have and none of another tool, even where one name starts with the other.
-/

namespace Provision

namespace Makefile

/-! ## Names of stamps and their pattern -/

/-- The file name of a stamp of a tool, for a digest and the values of variables. -/
def stampFile (tool digest : String) (texts : List String) : String :=
  tool ++ "@" ++ digest ++ String.join (texts.map (fun text => "@" ++ flattened text)) ++ ".stamp"

/-- What the stamp of a tool can be called, whatever its settings and its variables are. -/
def IsStampFile (tool file : String) : Prop :=
  ∃ digest texts, '/' ∉ digest.toList ∧ file = stampFile tool digest texts

/-- The pattern by which a rule deletes the stamps of a tool. -/
def stampPattern (tool : String) : String :=
  tool ++ "@*.stamp"

theorem slash_notMem_flattened (text : String) : '/' ∉ (flattened text).toList := by
  rw [flattened, String.toList_ofList]
  intro hmem
  obtain ⟨c, -, hc⟩ := List.mem_map.mp hmem
  split at hc
  · exact absurd hc (by decide)
  · next hne => exact hne hc

theorem slash_notMem_join {texts : List String} (h : ∀ text ∈ texts, '/' ∉ text.toList) :
    '/' ∉ (String.join texts).toList := by
  induction texts with
  | nil => simp
  | cons text others ih =>
      obtain ⟨htext, hothers⟩ := List.forall_mem_cons.mp h
      rw [String.join_cons, String.toList_append, List.mem_append, not_or]
      exact ⟨htext, ih hothers⟩

/-- A pattern matches what the stamp of a tool can be called exactly if it is the pattern of that
tool. -/
theorem matchesPattern_stampPattern_iff {tool other : String} (h : Name.IsPlain tool)
    (hother : Name.IsPlain other) {file : String} (hfile : IsStampFile other file) :
    Text.matchesPattern (stampPattern tool).toList file.toList = true ↔ other = tool := by
  have hat : ∀ {name : String}, Name.IsPlain name → '@' ∉ name.toList :=
    fun hname hmem => absurd (hname '@' hmem) (by decide)
  have hstar : '*' ∉ tool.toList ++ ['@'] := by
    rw [List.mem_append, not_or]
    exact ⟨fun hmem => absurd (h '*' hmem) (by decide), by decide⟩
  have hpattern : (stampPattern tool).toList =
      (tool.toList ++ ['@']) ++ '*' :: ".stamp".toList := by
    simp [stampPattern]
  obtain ⟨digest, texts, hdigest, rfl⟩ := hfile
  obtain ⟨values, hvalues⟩ : ∃ values, values =
      String.join (texts.map (fun text => "@" ++ flattened text)) := ⟨_, rfl⟩
  have hname : (stampFile other digest texts).toList =
      other.toList ++ '@' :: ((digest.toList ++ values.toList) ++ ".stamp".toList) := by
    simp [stampFile, hvalues]
  rw [hpattern, Text.matchesPattern_append_star_iff hstar (by decide), hname]
  constructor
  · rintro ⟨passed, -, heq⟩
    simp only [List.append_assoc, List.singleton_append] at heq
    have hpieces := congrArg (Text.pieces '@') heq
    rw [Text.pieces_append_cons (hat hother), Text.pieces_append_cons (hat h)] at hpieces
    exact String.toList_inj.mp (List.cons.inj hpieces).1
  · rintro rfl
    refine ⟨digest.toList ++ values.toList, ?_, by simp⟩
    rw [List.mem_append, not_or, hvalues]
    refine ⟨hdigest, slash_notMem_join ?_⟩
    rw [List.forall_mem_map]
    intro text _
    rw [String.toList_append, List.mem_append, not_or]
    exact ⟨by decide, slash_notMem_flattened text⟩

/-! ## Rules of stamps -/

section Rules

variable {config : Config} {view : ToolView}

/-- How the rule of a stamp starts: with the directory of stamps and without the stamps that there
were before. -/
def stampRule (config : Config) (view : ToolView) : List Line :=
  [.rule (reference (Name.stampIdentifier view.name))
      (view.prerequisites.map (fun name => reference (Name.stampIdentifier name)))
      [localBin config],
    .recipe ("@" ++ config.commands.mkdir ++ " -p $(dir $@)"),
    .recipe ("@" ++ config.commands.rm ++ " -f " ++ madePath config (stampPattern view.name))]

theorem stampRule_isInfix_stampLines (config : Config) (view : ToolView) :
    stampRule config view <:+: stampLines config view := by
  have hcommand : "@" ++ config.commands.rm ++ " -f " ++ madePath config (stampPattern view.name) =
      "@" ++ config.commands.rm ++ " -f " ++ madePath config view.name ++ "@*.stamp" := by
    simp only [madePath, stampPattern, String.append_assoc]
  rw [stampRule, hcommand, stampLines]
  simp only [List.cons_append, List.nil_append]
  iterate 6 refine List.infix_cons ?_
  refine List.IsPrefix.isInfix ?_
  simp only [List.cons_prefix_cons, List.nil_prefix, and_self]

theorem default_stamp_mem_stampLines (config : Config) (view : ToolView) :
    .default (Name.stampIdentifier view.name) (stampPath config view) ∈ stampLines config view :=
  List.mem_append_left _ (List.mem_append_left _ (List.mem_cons_of_mem _ List.mem_cons_self))

/-- The pattern names files in the directory in which the stamp is, whatever that is. -/
theorem expanded_madePath_stampPattern (hlocal : Name.isIdentifier config.localBinVar = true)
    (view : ToolView) (values : String → String) :
    expanded values (madePath config (stampPattern view.name)) =
      values config.localBinVar ++ "/.make-env/" ++ stampPattern view.name := by
  obtain ⟨hplain, hne⟩ := Name.isPlain_of_isIdentifier hlocal
  have hname : '$' ∉ view.name.toList := view.tool.name.isPlain_text.dollar_notMem
  exact (((Expands.reference hplain hne).append (.literal (by decide))).append
    ((Expands.literal hname).append (.literal (by decide)))).expanded_eq

theorem exists_isStampFile_stampName (hlocal : Name.isIdentifier config.localBinVar = true)
    (hplain : ∀ key ∈ view.tool.vars.keys, Name.IsPlain key) (values : String → String) :
    ∃ file, IsStampFile view.name file ∧
      stampName config view values = values config.localBinVar ++ "/.make-env/" ++ file := by
  have hslash : '/' ∉ view.tool.installer.digest.toList :=
    fun hmem => absurd (view.tool.installer.isPlain_digest '/' hmem) (by decide)
  refine ⟨_, ⟨view.tool.installer.digest, view.tool.varNames.map values, hslash, rfl⟩, ?_⟩
  rw [stampName_eq hlocal hplain, stampFile, stampValues, List.map_map]
  simp only [String.append_assoc]
  rfl

end Rules

end Makefile

/-! ## Stamps of a configuration -/

variable {draft : Draft} {config : Config}

/-- Tools are known by their names. -/
theorem Accepted.eq_of_text_eq (h : Accepted draft config) {tool other : Tool}
    (htool : tool ∈ config.tools.values) (hother : other ∈ config.tools.values)
    (heq : other.name.text = tool.name.text) : other = tool := by
  obtain ⟨name, hname⟩ := Dict.mem_values_iff.mp htool
  obtain ⟨second, hsecond⟩ := Dict.mem_values_iff.mp hother
  rw [h.text_name hname, h.text_name hsecond] at heq
  rw [heq, hname] at hsecond
  exact (Option.some.inj hsecond).symm

/-- In the Makefile of an accepted draft the rule of every stamp deletes files by a pattern, in the
directory of the stamp.  Of all that the stamps of the tools can be called, whatever the digests and
the values of variables, the pattern matches what the stamp of its own tool can be called. -/
theorem matchesPattern_iff_of_check (hok : draft.check = .ok config) (provenance : Provenance) :
    ∃ plan, Plan.ofConfig config provenance = .ok plan ∧
      (∀ outPath text,
        plan.emit ArtifactKind.makefile.fragments .makefile outPath = .ok text →
          text = plan.text .makefile outPath) ∧
      ∀ tool ∈ config.installedTools,
        (∀ outPath,
          Makefile.stampRule config (.ofTool config tool) <:+: Makefile.lines plan outPath ∧
            .default (Name.stampIdentifier tool.name.text)
              (Makefile.stampPath config (.ofTool config tool)) ∈ Makefile.lines plan outPath) ∧
        (∀ values,
          Makefile.expanded values
                (Makefile.madePath config (Makefile.stampPattern tool.name.text)) =
              values config.localBinVar ++ "/.make-env/" ++
                Makefile.stampPattern tool.name.text ∧
            ∃ file, Makefile.IsStampFile tool.name.text file ∧
              Makefile.expanded values (Makefile.stampPath config (.ofTool config tool)) =
                values config.localBinVar ++ "/.make-env/" ++ file) ∧
        ∀ other ∈ config.tools.values, ∀ file, Makefile.IsStampFile other.name.text file →
          (Text.matchesPattern (Makefile.stampPattern tool.name.text).toList file.toList = true ↔
            other = tool) := by
  have h := Draft.check_eq_ok_iff.mp hok
  have hlocal := h.isIdentifier_localBinVar
  obtain ⟨plan, hplan⟩ := h.exists_plan provenance
  refine ⟨plan, hplan, fun outPath text hemit => h.eq_text_of_emit hplan hemit, ?_⟩
  intro tool htool
  obtain ⟨hvalue, hfilter⟩ := List.mem_filter.mp htool
  have hinstalled : tool.installer.isProvided = false := by simpa using hfilter
  have hview : ToolView.ofTool config tool ∈ plan.tools :=
    (Plan.tools_perm hplan).mem_iff.mpr (List.mem_map_of_mem hvalue)
  refine ⟨?_, ?_, ?_⟩
  · intro outPath
    have hlines := Plan.stampLines_isInfix_lines hview hinstalled outPath
    rw [Plan.config_of_ofConfig hplan] at hlines
    have hstamp := Makefile.default_stamp_mem_stampLines config (.ofTool config tool)
    exact ⟨(Makefile.stampRule_isInfix_stampLines config _).trans hlines, hlines.subset hstamp⟩
  · intro values
    have hkeys : ∀ key ∈ (ToolView.ofTool config tool).tool.vars.keys, Name.IsPlain key :=
      fun key hkey => h.isPlain_toolVar hvalue hkey
    exact ⟨Makefile.expanded_madePath_stampPattern hlocal (.ofTool config tool) values,
      Makefile.exists_isStampFile_stampName hlocal hkeys values⟩
  · intro other hother file hfile
    rw [Makefile.matchesPattern_stampPattern_iff tool.name.isPlain_text other.name.isPlain_text
      hfile]
    exact ⟨h.eq_of_text_eq hvalue hother, fun heq => heq ▸ rfl⟩

/-- Two tools of which one has a name that starts with the name of the other. -/
theorem matchesPattern_iff_renaming :
    (Draft.renaming "fmt-dev").check = .ok (Config.renaming ⟨"fmt-dev", by decide⟩) ∧
      ∃ tool ∈ (Config.renaming ⟨"fmt-dev", by decide⟩).installedTools,
        ∃ other ∈ (Config.renaming ⟨"fmt-dev", by decide⟩).tools.values,
          tool.name.text = "fmt" ∧ other.name.text = "fmt-dev" ∧
          Makefile.IsStampFile "fmt" "fmt@0a@1_7.stamp" ∧
          Makefile.IsStampFile "fmt-dev" "fmt-dev@0a@fmt@.stamp" ∧
          Text.matchesPattern (Makefile.stampPattern "fmt").toList
            "fmt@0a@1_7.stamp".toList = true ∧
          ¬ Text.matchesPattern (Makefile.stampPattern "fmt").toList
            "fmt-dev@0a@fmt@.stamp".toList = true := by
  have hok : (Draft.renaming "fmt-dev").check.toOption =
      some (Config.renaming ⟨"fmt-dev", by decide⟩) := by decide +kernel
  have hcheck := Engine.exists_eq_ok_of_toOption hok
  have hshort : ∃ tool ∈ (Config.renaming ⟨"fmt-dev", by decide⟩).installedTools,
      tool.name.text = "fmt" := by decide +kernel
  have hlong : ∃ tool ∈ (Config.renaming ⟨"fmt-dev", by decide⟩).tools.values,
      tool.name.text = "fmt-dev" := by decide +kernel
  have hfile : Makefile.IsStampFile "fmt" "fmt@0a@1_7.stamp" :=
    ⟨"0a", ["1/7"], by decide, by decide +kernel⟩
  have hotherFile : Makefile.IsStampFile "fmt-dev" "fmt-dev@0a@fmt@.stamp" :=
    ⟨"0a", ["fmt@"], by decide, by decide +kernel⟩
  obtain ⟨tool, htool, hname⟩ := hshort
  obtain ⟨other, hother, hotherName⟩ := hlong
  obtain ⟨_, -, -, htools⟩ := matchesPattern_iff_of_check hcheck ⟨"provision.yaml", "00"⟩
  obtain ⟨-, -, hmatches⟩ := htools tool htool
  rw [hname] at hmatches
  refine ⟨hcheck, tool, htool, other, hother, hname, hotherName, hfile, hotherFile, ?_, ?_⟩
  · exact (hmatches tool (List.mem_filter.mp htool).1 _ (hname ▸ hfile)).mpr rfl
  · intro hmatch
    have hsame := (hmatches other hother _ (hotherName ▸ hotherFile)).mp hmatch
    rw [hsame, hname] at hotherName
    exact absurd hotherName (by decide)

end Provision
