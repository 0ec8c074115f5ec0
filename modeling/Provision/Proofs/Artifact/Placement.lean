import Provision.Proofs.Artifact.Emitted
import Provision.Proofs.Text.Nesting

/-!
# Where recipes stand in artifacts

Both artifacts hold the recipe of every tool that they install, nested by one level: a Makefile in
the rule of its stamp, and a Dockerfile at the end of the script of its stage.
-/

namespace Provision

namespace Text

/-- What stands at the end of a trimmed text is not blank. -/
theorem endsSolid_trimmed {s : String} (h : ∃ c ∈ s.toList, isBlank c = false) :
    EndsSolid (trimmed s) := by
  have hend : ∀ cs : List Char, trimEnd cs ≠ [] →
      ∃ front c, trimEnd cs = front ++ [c] ∧ isBlank c = false := by
    intro cs
    induction cs with
    | nil => exact fun hne => absurd rfl hne
    | cons c rest ih =>
        rw [trimEnd]
        split
        · split
          · exact fun hne => absurd rfl hne
          · next hc => exact fun _ => ⟨[], c, rfl, by simpa using hc⟩
        · next hkept =>
            obtain ⟨front, last, hlast, hsolid⟩ := ih hkept
            exact fun _ => ⟨c :: front, last, by rw [hlast]; rfl, hsolid⟩
  obtain ⟨c, hmem, hc⟩ := h
  have hkept : trimEnd (trimStart s.toList) ≠ [] := by
    rw [ne_eq, trimEnd_eq_nil_iff, List.all_eq_true]
    intro hall
    have hsplit := List.takeWhile_append_dropWhile (p := isBlank) (l := s.toList)
    rw [← hsplit, List.mem_append] at hmem
    rcases hmem with hfront | hrest
    · rw [List.mem_takeWhile_imp hfront] at hc
      contradiction
    · rw [hall c hrest] at hc
      contradiction
  obtain ⟨front, last, hlast, hsolid⟩ := hend _ hkept
  exact ⟨front, last, by rw [trimmed, String.toList_ofList, trim, hlast], hsolid⟩

/-- Lines in a row stay in a row in the text. -/
theorem unlines_isInfix {part lines : List String} (h : part <:+: lines) :
    (unlines part).toList <:+: (unlines lines).toList := by
  obtain ⟨before, after, rfl⟩ := h
  simp only [unlines_append, String.toList_append]
  exact List.infix_append _ _ _

/-- A text that is nested below a line stands in the text of the lines. -/
theorem nested_isInfix_unlines (line s : String) :
    (nested (trimmed s)).toList <:+:
      (unlines (line :: (splits (trimmed s)).map indented)).toList := by
  refine ⟨line.toList, ['\n'], ?_⟩
  rw [List.append_assoc, nested_trimmed_append s [], toList_unlines_cons, List.append_nil]

/-- Text at the end of a trimmed text that lies on lines of its own is nested with it. -/
theorem nested_isSuffix_nested {front s : String} (hfront : front ≠ "")
    (hs : s.toList.head? ≠ some '\n') :
    (nested s).toList <:+ (nested (front ++ "\n" ++ s)).toList := by
  have hne : front.toList ≠ [] := fun hnil => hfront (String.toList_inj.mp hnil)
  have hcut : (front ++ "\n" ++ s).toList = front.toList ++ '\n' :: s.toList := by simp
  rw [nested, nested, String.toList_ofList, String.toList_ofList, hcut,
    indentWrap_append_cons Nat.one_ne_zero hne hs]
  exact List.suffix_append _ _

end Text

/-- Every recipe says something. -/
theorem Recipe.exists_solid (kind : ArtifactKind) (config : Config) (depth : Nat) (tool : Tool)
    (runner : Option String) :
    ∃ c ∈ (Text.unlines (lines kind config depth tool runner)).toList, Text.isBlank c = false := by
  unfold lines
  cases tool.installer with
  | provided default => exact ⟨'c', by simp, by decide⟩
  | http source =>
      refine ⟨'-', ?_, by decide⟩
      cases harchive : source.archive <;> simp [fetch, harchive]
  | objectStore source =>
      refine ⟨'-', ?_, by decide⟩
      cases harchive : source.archive <;> simp [fetch, harchive]
  | pythonApp app => exact ⟨'P', by simp [pythonApp], by decide⟩
  | goModule m => exact ⟨'G', by simp [goModule], by decide⟩
  | maven coordinate =>
      refine ⟨'-', ?_, by decide⟩
      simp only [maven, Text.toList_unlines_cons]
      exact List.mem_append_left _ (by simp)

/-- How deep renderings may nest inside of what unpacks an archive, in each kind of artifact. -/
def ArtifactKind.recipeDepth : ArtifactKind → Nat
  | makefile => Makefile.depth
  | dockerfile => Dockerfile.depth

/-- The declared tool that runs the installer of a tool in an artifact: none in a Dockerfile. -/
def ToolView.runnerIn (view : ToolView) : ArtifactKind → Option String
  | .makefile => view.runner
  | .dockerfile => none

namespace Plan

/-- The recipe of a tool in an artifact. -/
def recipe (plan : Plan) (view : ToolView) (kind : ArtifactKind) : List String :=
  Recipe.lines kind plan.config kind.recipeDepth view.tool (view.runnerIn kind)

/-- The recipe of a tool as an artifact nests it. -/
def nestedRecipe (plan : Plan) (view : ToolView) (kind : ArtifactKind) : String :=
  Text.nested (Text.trimmed (Text.unlines (plan.recipe view kind)))

variable {plan : Plan} {view : ToolView}

theorem toolLines_isInfix_lines (hview : view ∈ plan.tools) (outPath : String) :
    Makefile.toolLines plan.config view <:+: Makefile.lines plan outPath := by
  have htools : .blank :: Makefile.toolLines plan.config view <:+:
      plan.tools.flatMap (fun view => .blank :: Makefile.toolLines plan.config view) :=
    List.infix_of_mem_flatten (List.mem_map_of_mem hview)
  refine (List.suffix_cons _ _).isInfix.trans (htools.trans ?_)
  exact List.infix_append _ _ _

theorem stampLines_isInfix_lines (hview : view ∈ plan.tools)
    (hinstalled : view.tool.installer.isProvided = false) (outPath : String) :
    Makefile.stampLines plan.config view <:+: Makefile.lines plan outPath := by
  have htool : Makefile.stampLines plan.config view <:+ Makefile.toolLines plan.config view := by
    rw [Makefile.toolLines_of_isProvided_eq_false hinstalled, ← List.append_assoc]
    exact (List.suffix_append _ _).trans (List.suffix_cons _ _)
  exact htool.isInfix.trans (toolLines_isInfix_lines hview outPath)

theorem exists_isInfix_makefile (hview : view ∈ plan.tools)
    (hinstalled : view.tool.installer.isProvided = false) (outPath : String) :
    ∃ line, line :: Makefile.installLines plan.config view <:+: Makefile.lines plan outPath := by
  refine ⟨.recipe ("@" ++ plan.config.commands.rm ++ " -f " ++
    Makefile.madePath plan.config view.name ++ "@*.stamp"), ?_⟩
  refine List.IsInfix.trans ?_ (stampLines_isInfix_lines hview hinstalled outPath)
  rw [Makefile.stampLines]
  simp only [List.cons_append, List.nil_append]
  iterate 8 refine List.infix_cons ?_
  rw [← List.cons_append]
  exact (List.prefix_append _ _).isInfix

theorem exists_isInfix_dockerfile (hview : view ∈ plan.tools)
    (hinstalled : view.tool.installer.isProvided = false) (outPath : String) :
    ∃ line, line :: (Text.splits (Text.trimmed (Dockerfile.scriptText plan.config view))).map
      .script <:+: Dockerfile.lines plan outPath := by
  refine ⟨.run "<<EOF", ?_⟩
  have hstage : .run "<<EOF" ::
      (Text.splits (Text.trimmed (Dockerfile.scriptText plan.config view))).map .script <:+:
        Dockerfile.stageLines plan.config view := by
    unfold Dockerfile.stageLines
    exact List.infix_append _ _ _
  have hmem : view ∈ Dockerfile.installed plan := by
    simp [Dockerfile.installed, hview, hinstalled]
  have hstages : .blank :: Dockerfile.stageLines plan.config view <:+:
      (Dockerfile.installed plan).flatMap
        (fun view => .blank :: Dockerfile.stageLines plan.config view) :=
    List.infix_of_mem_flatten (List.mem_map_of_mem hmem)
  refine hstage.trans ((List.suffix_cons _ _).isInfix.trans (hstages.trans ?_))
  rw [Dockerfile.lines, Dockerfile.partLines]
  exact (List.prefix_append _ _).isInfix.trans (List.infix_append _ _ _)

/-- A script ends in the recipe. -/
theorem nestedRecipe_isSuffix_script (plan : Plan) (view : ToolView) :
    (plan.nestedRecipe view .dockerfile).toList <:+
      (Text.nested (Text.trimmed (Dockerfile.scriptText plan.config view))).toList := by
  set recipe := Text.unlines (plan.recipe view .dockerfile) with hrecipe
  set front := "set -eu\n" ++ plan.config.commands.mkdir ++ " -p " ++
    Dockerfile.localBin plan.config ++ "/.make-env" with hfront
  have hscript : Dockerfile.scriptText plan.config view =
      front ++ "\n" ++ Text.trimmed recipe ++ "\n" := by
    apply String.toList_inj.mp
    simp [Dockerfile.scriptText, hfront, hrecipe, Plan.recipe, ArtifactKind.recipeDepth,
      ToolView.runnerIn]
  have htrimmed : Text.trimmed (Dockerfile.scriptText plan.config view) =
      front ++ "\n" ++ Text.trimmed recipe := by
    have hsolid : Text.EndsSolid (Text.trimmed recipe) :=
      Text.endsSolid_trimmed (Recipe.exists_solid .dockerfile plan.config Dockerfile.depth view.tool
        none)
    have hstart : (front ++ "\n").toList.dropWhile Text.isBlank = (front ++ "\n").toList := by
      rw [hfront]
      simp only [String.toList_append]
      exact List.dropWhile_cons_of_neg (by decide)
    rw [hscript, Text.trimmed_append ⟨'s', by simp [hfront], by decide⟩ hsolid, hstart,
      String.ofList_toList]
  rw [htrimmed]
  exact Text.nested_isSuffix_nested (by simp [hfront]) (Text.head?_trimmed_ne recipe)

/-- Both artifacts hold the recipe of every tool that they install. -/
theorem nestedRecipe_isInfix (hview : view ∈ plan.tools)
    (hinstalled : view.tool.installer.isProvided = false) (kind : ArtifactKind)
    (outPath : String) :
    (plan.nestedRecipe view kind).toList <:+: (plan.text kind outPath).toList := by
  cases kind with
  | makefile =>
      obtain ⟨line, hlines⟩ := exists_isInfix_makefile hview hinstalled outPath
      have htext := Text.unlines_isInfix (hlines.map Makefile.Line.text)
      rw [List.map_cons, Makefile.installLines, List.map_map] at htext
      exact (Text.nested_isInfix_unlines _ _).trans htext
  | dockerfile =>
      obtain ⟨line, hlines⟩ := exists_isInfix_dockerfile hview hinstalled outPath
      have htext := Text.unlines_isInfix (hlines.map Dockerfile.Line.text)
      rw [List.map_cons, List.map_map] at htext
      exact (nestedRecipe_isSuffix_script plan view).isInfix.trans
        ((Text.nested_isInfix_unlines _ _).trans htext)

end Plan
end Provision
