import Provision.Proofs.Artifact.Placement
import Provision.Proofs.Artifact.Places
import Provision.Proofs.Artifact.References

/-!
# What the recipe of a Go package moves

The binary that a Go package builds is known from the package path as it is written, and the recipe
installs the path as it is rendered.  Placeholders stay inside of the elements of the path and never
make a version of one, so both paths name their binaries by the same element.  The recipe moves what
the package builds exactly if there is no placeholder in that element.
-/

namespace Provision

open Template

/-- Where two texts meet, the last piece of the first and the first one of the second are one. -/
theorem Text.pieces_append_of_eq {cut : Char} {front back last first : List Char}
    {before others : List (List Char)} (hfront : pieces cut front = before ++ [last])
    (hback : pieces cut back = first :: others) :
    pieces cut (front ++ back) = before ++ (last ++ first) :: others := by
  induction front generalizing before last with
  | nil =>
      obtain ⟨rfl, hlast⟩ := List.append_eq_singleton_iff.mp hfront.symm |>.resolve_right (by simp)
      obtain rfl := (List.cons.inj hlast).1
      exact hback
  | cons c rest ih =>
      rw [pieces] at hfront
      rw [List.cons_append, pieces]
      split at hfront
      · next hc =>
          rw [if_pos hc]
          cases before with
          | nil => exact absurd (List.cons.inj hfront).2 (pieces_ne_nil cut rest)
          | cons piece more =>
              obtain ⟨rfl, hmore⟩ := List.cons.inj hfront
              rw [ih hmore]
              rfl
      · next hc =>
          obtain ⟨piece, more, hrest⟩ := List.exists_cons_of_ne_nil (pieces_ne_nil cut rest)
          rw [if_neg hc]
          rw [hrest] at hfront
          cases before with
          | nil =>
              obtain ⟨rfl, rfl⟩ := List.cons.inj hfront
              rw [@ih _ [] hrest]
              rfl
          | cons other between =>
              obtain ⟨rfl, rfl⟩ := List.cons.inj hfront
              rw [@ih _ (piece :: between) hrest]
              rfl

theorem GoPackage.isMajorVersion_eq_false {cs : List Char} {c : Char} (hmem : c ∈ cs)
    (hletter : c ≠ 'v') (hdigit : c.isDigit = false) :
    GoPackage.isMajorVersion cs = false := by
  unfold GoPackage.isMajorVersion
  split
  · next digits =>
      rcases List.mem_cons.mp hmem with rfl | hc
      · exact absurd rfl hletter
      · have hall : digits.all Char.isDigit = false :=
          List.all_eq_false.mpr ⟨c, hc, by simp [hdigit]⟩
        rw [hall, Bool.and_false]
  · rfl

namespace Template

/-- Reading a text as a template finds no tag in it. -/
def IsUntagged (cs : List Char) : Prop :=
  (splitTag cs).2 = none

theorem IsUntagged.append_of_notMem {cs rest : List Char} (h : IsUntagged rest)
    (hcs : '\x7b' ∉ cs) : IsUntagged (cs ++ rest) := by
  induction cs with
  | nil => exact h
  | cons c more ih =>
      have hc : c ≠ '\x7b' := fun heq => hcs (heq ▸ List.mem_cons_self)
      have hmore := ih (fun hmem => hcs (List.mem_cons_of_mem c hmem))
      rw [List.cons_append, IsUntagged]
      cases hbehind : more ++ rest with
      | nil => rfl
      | cons d others =>
          rw [hbehind, IsUntagged] at hmore
          simp [splitTag, hc, hmore]

/-- References are no tags. -/
theorem IsUntagged.reference_append {rest : List Char} (h : IsUntagged rest) (kind : ArtifactKind)
    {name : String} (hname : Name.IsPlain name) :
    IsUntagged ((kind.reference name).toList ++ rest) := by
  have hbrace : '\x7b' ∉ name.toList := fun hmem => absurd (hname _ hmem) (by decide)
  cases kind with
  | makefile => exact h.append_of_notMem (by simp [ArtifactKind.reference, hbrace])
  | dockerfile =>
      have htag : ∀ d, Name.isNameChar true d = true ∨ d = '\x7d' → tagOf? d = none := by
        rintro d (hd | rfl)
        · exact Name.of_isNameChar (P := fun d => tagOf? d = none) (by decide) hd
        · rfl
      have hbehind : IsUntagged ((name.toList ++ ['\x7d']) ++ rest) :=
        h.append_of_notMem (by simp [hbrace])
      obtain ⟨d, more, hmore⟩ : ∃ d more, name.toList ++ ['\x7d'] = d :: more :=
        List.exists_cons_of_ne_nil (by simp)
      have hd : Name.isNameChar true d = true ∨ d = '\x7d' := by
        have hmem : d ∈ name.toList ++ ['\x7d'] := hmore ▸ List.mem_cons_self
        rcases List.mem_append.mp hmem with hletter | hclosing
        · exact Or.inl (hname d hletter)
        · exact Or.inr (List.mem_singleton.mp hclosing)
      have htext : (ArtifactKind.dockerfile.reference name).toList ++ rest =
          '$' :: '\x7b' :: (d :: more ++ rest) := by
        rw [← hmore]
        simp [ArtifactKind.reference]
      rw [hmore] at hbehind
      rw [htext, IsUntagged]
      rw [IsUntagged, List.cons_append] at hbehind
      simp [splitTag, htag d hd, hbehind]

namespace InlineText

variable {declared : Scope → List String} {t : InlineText}

/-- The elements of a path are texts with placeholders. -/
theorem exists_filledIn_pieces (h : t.Fits declared) :
    ∃ us : List InlineText, (∀ u ∈ us, u.Fits declared) ∧ ∀ value, StaysInElements value →
      Text.pieces '/' (t.filledIn value).toList = us.map (fun u => (u.filledIn value).toList) := by
  induction t with
  | text cs =>
      refine ⟨(Text.pieces '/' cs).map text, ?_, fun value _ => ?_⟩
      · rw [List.forall_mem_map]
        exact fun piece hpiece hmem => h ((Text.isInfix_of_mem_pieces hpiece).subset hmem)
      · simp [filledIn, Function.comp_def]
  | refer cs scope key rest ih =>
      obtain ⟨hcs, hkey, hmem, hrest⟩ := h
      obtain ⟨us, hfits, hpieces⟩ := ih hrest
      obtain ⟨before, last, hfront⟩ :
          ∃ before last, Text.pieces '/' cs = before ++ [last] :=
        ⟨_, _, (List.dropLast_append_getLast (Text.pieces_ne_nil '/' cs)).symm⟩
      have hbraces : ∀ piece ∈ before ++ [last], '\x7b' ∉ piece := by
        intro piece hpiece hbrace
        rw [← hfront] at hpiece
        exact hcs ((Text.isInfix_of_mem_pieces hpiece).subset hbrace)
      obtain ⟨u, others, rfl⟩ : ∃ u others, us = u :: others := by
        apply List.exists_cons_of_ne_nil
        rintro rfl
        exact Text.pieces_ne_nil _ _ (hpieces _ staysInElements_written)
      refine ⟨before.map text ++ refer last scope key u :: others, ?_, ?_⟩
      · intro piece hpiece
        rcases List.mem_append.mp hpiece with htext | hbehind
        · obtain ⟨own, hown, rfl⟩ := List.mem_map.mp htext
          exact hbraces own (List.mem_append_left _ hown)
        · rcases List.mem_cons.mp hbehind with rfl | hother
          · exact ⟨hbraces last (by simp), hkey, hmem, hfits u List.mem_cons_self⟩
          · exact hfits piece (List.mem_cons_of_mem u hother)
      · intro value hvalue
        have hvalued : Text.pieces '/' (value scope key).toList =
            [] ++ [(value scope key).toList] :=
          Text.pieces_of_notMem (hvalue scope key hkey).1
        have hbehind := Text.pieces_append_of_eq hvalued (hpieces value hvalue)
        simp only [filledIn, String.toList_append, String.toList_ofList]
        rw [Text.pieces_append_of_eq hfront hbehind]
        simp [filledIn, Function.comp_def]

/-- Whether an element is a version does not depend on its variables. -/
theorem isMajorVersion_filledIn (h : t.Fits declared) {value other : Scope → String → String}
    (hvalue : StaysInElements value) (hother : StaysInElements other) :
    GoPackage.isMajorVersion (t.filledIn value).toList =
      GoPackage.isMajorVersion (t.filledIn other).toList := by
  cases t with
  | text cs => rfl
  | refer cs scope key rest =>
      have hfalse : ∀ stands, StaysInElements stands →
          GoPackage.isMajorVersion ((refer cs scope key rest).filledIn stands).toList = false := by
        intro stands hstands
        obtain ⟨-, c, hc, hletter, hdigit⟩ := hstands scope key h.2.1
        exact GoPackage.isMajorVersion_eq_false (by simp [filledIn, hc]) hletter hdigit
      rw [hfalse value hvalue, hfalse other hother]

/-- The name of the binary is an element of the path, the same one whatever stands for the
variables. -/
theorem exists_filledIn_binaryName (h : t.Fits declared) :
    ∃ u : InlineText, u.Fits declared ∧ ∀ value, StaysInElements value →
      GoPackage.binaryName (t.filledIn value) = u.filledIn value := by
  obtain ⟨w, hw, htrimmed⟩ := exists_filledIn_trimSlashes h
  obtain ⟨us, hfits, hpieces⟩ := exists_filledIn_pieces hw
  have helements : ∀ value, StaysInElements value →
      GoPackage.elements (t.filledIn value).toList =
        us.reverse.map (fun u => (u.filledIn value).toList) := by
    intro value hvalue
    rw [GoPackage.elements, htrimmed value hvalue, hpieces value hvalue, List.map_reverse]
  have hreversed : ∀ u ∈ us.reverse, u.Fits declared :=
    fun u hu => hfits u (List.mem_reverse.mp hu)
  rcases hus : us.reverse with _ | ⟨last, _ | ⟨previous, more⟩⟩
  · refine ⟨text [], List.not_mem_nil, fun value hvalue => ?_⟩
    rw [GoPackage.binaryName, helements value hvalue, hus]
    rfl
  · refine ⟨last, hreversed last (by simp [hus]), fun value hvalue => ?_⟩
    rw [GoPackage.binaryName, helements value hvalue, hus]
    exact String.ofList_toList
  · have hlast := hreversed last (by simp [hus])
    refine ⟨if GoPackage.isMajorVersion (last.filledIn Scope.written).toList then previous
      else last, ?_, fun value hvalue => ?_⟩
    · split
      · exact hreversed previous (by simp [hus])
      · exact hlast
    · rw [GoPackage.binaryName, helements value hvalue, hus,
        isMajorVersion_filledIn hlast staysInElements_written hvalue]
      simp only [List.map_cons]
      split <;> exact String.ofList_toList

/-- What stands for a variable differs from the placeholder if it starts with another character. -/
theorem filledIn_eq_written_iff (h : t.Fits declared) {value : Scope → String → String}
    (hvalue : ∀ scope key, (value scope key).toList.head? = some '$') :
    t.filledIn value = t.filledIn Scope.written ↔ '\x7b' ∉ t.source := by
  cases t with
  | text cs => exact ⟨fun _ => h, fun _ => rfl⟩
  | refer cs scope key rest =>
      obtain ⟨more, hmore⟩ := List.head?_eq_some_iff.mp (hvalue scope key)
      have hne : (refer cs scope key rest).filledIn value ≠
          (refer cs scope key rest).filledIn Scope.written := by
        intro heq
        have htexts := congrArg String.toList heq
        simp [filledIn, Scope.written, hmore] at htexts
      simp [hne, source]

/-- Reading a text with placeholders as a template finds a tag exactly if there is a brace in it. -/
theorem isUntagged_source_iff (h : t.Fits declared) : IsUntagged t.source ↔ '\x7b' ∉ t.source := by
  cases t with
  | text cs =>
      refine ⟨fun _ => h, fun _ => ?_⟩
      rw [IsUntagged, source, splitTag_of_notMem h]
  | refer cs scope key rest =>
      rw [IsUntagged, source, splitTag_append h.1]
      simp

theorem isUntagged_filledIn (h : t.Fits declared) {value : Scope → String → String}
    (hvalue : ∀ scope key rest, Name.isIdentifier key = true → IsUntagged rest →
      IsUntagged ((value scope key).toList ++ rest)) :
    IsUntagged (t.filledIn value).toList := by
  induction t with
  | text cs =>
      rw [IsUntagged, filledIn, String.toList_ofList, splitTag_of_notMem h]
  | refer cs scope key rest ih =>
      obtain ⟨hcs, hkey, -, hrest⟩ := h
      simp only [filledIn, String.toList_append, String.toList_ofList]
      exact (hvalue scope key _ hkey (ih hrest)).append_of_notMem hcs

end InlineText
end Template

namespace Tool

variable {config : Config} {tool : Tool} {source : String}

theorem exists_placeholder (kind : ArtifactKind) (tool : Tool) (scope : Scope) {key : String}
    (hkey : Name.isIdentifier key = true) :
    ∃ name, Name.IsPlain name ∧ tool.placeholder kind scope key = kind.reference name := by
  have hplain := (Name.isPlain_of_isIdentifier hkey).1
  cases scope with
  | own => exact ⟨_, tool.name.isPlain_text.scopedIdentifier hplain, rfl⟩
  | shared => exact ⟨_, Name.IsPlain.scopedIdentifier (by decide) hplain, rfl⟩

theorem staysInElements_placeholder (kind : ArtifactKind) (tool : Tool) :
    StaysInElements (tool.placeholder kind) := by
  intro scope key hkey
  obtain ⟨name, hname, hreference⟩ := exists_placeholder kind tool scope hkey
  have hslash : '/' ∉ name.toList := fun hmem => absurd (hname '/' hmem) (by decide)
  rw [hreference, kind.toList_reference]
  refine ⟨?_, '$', List.mem_cons_self, by decide, by decide⟩
  cases kind <;> simp [ArtifactKind.opening, ArtifactKind.closing, hslash]

theorem isUntagged_filled (h : tool.IsTemplated config source) (kind : ArtifactKind)
    (depth : Nat) : IsUntagged (tool.filled kind config (depth + 2) source).toList := by
  obtain ⟨t, hsource, hfits⟩ := h
  rw [filled_eq_filledIn hfits hsource]
  refine InlineText.isUntagged_filledIn hfits (fun scope key rest hkey hrest => ?_)
  obtain ⟨name, hname, hreference⟩ := exists_placeholder kind tool scope hkey
  rw [hreference]
  exact hrest.reference_append kind hname

/-- A package has the same binary as it is written and as it is rendered exactly if there is no
placeholder in its name. -/
theorem binaryName_filled_eq_iff (h : tool.IsTemplated config source) (kind : ArtifactKind)
    (depth : Nat) :
    (GoPackage.binaryName (tool.filled kind config (depth + 2) source) =
        GoPackage.binaryName source ↔ '\x7b' ∉ (GoPackage.binaryName source).toList) ∧
      (IsUntagged (GoPackage.binaryName source).toList ↔
        '\x7b' ∉ (GoPackage.binaryName source).toList) := by
  obtain ⟨t, hsource, hfits⟩ := h
  obtain ⟨u, hu, hbinary⟩ := InlineText.exists_filledIn_binaryName hfits
  have hwritten : GoPackage.binaryName source = u.filledIn Scope.written := by
    rw [← hbinary _ staysInElements_written]
    congr 1
    apply String.toList_inj.mp
    rw [InlineText.toList_filledIn_written, hsource]
  have hreference : ∀ scope key,
      (tool.placeholder kind scope key).toList.head? = some '$' := by
    intro scope key
    cases scope <;> exact congrArg List.head? (kind.toList_reference _)
  rw [filled_eq_filledIn hfits hsource, hbinary _ (staysInElements_placeholder kind tool), hwritten,
    InlineText.toList_filledIn_written]
  exact ⟨InlineText.filledIn_eq_written_iff hu hreference, InlineText.isUntagged_source_iff hu⟩

end Tool

/-! ## Recipes of Go packages -/

namespace Recipe

/-- The steps that install a Go package which builds a binary of a given name. -/
def goSteps (tool : Tool) (m : GoModule) (built : String) : List Step :=
  .build m :: (if built = tool.name.text then [] else [.move (.built built) .binary])

theorem steps_eq_goSteps {tool : Tool} {m : GoModule} (h : tool.installer = .goModule m) :
    steps tool = goSteps tool m m.binary := by
  rw [steps, h]
  rfl

/-- The lines of a recipe tell what it moves. -/
theorem map_text_goSteps_eq_iff {kind : ArtifactKind} {config : Config} {depth : Nat} {tool : Tool}
    {runner : Option String} {m : GoModule} {built other : String} :
    (goSteps tool m built).map (Step.text kind config depth tool runner) =
        (goSteps tool m other).map (Step.text kind config depth tool runner) ↔
      built = other := by
  refine ⟨fun heq => ?_, fun heq => by rw [heq]⟩
  have hline : ∀ name, Step.text kind config depth tool runner (.move (.built name) .binary) =
      config.commands.mv ++ " -f " ++ (localBin kind config ++ "/" ++ name) ++ " " ++
        binary kind tool := fun _ => rfl
  simp only [goSteps, List.map_cons, List.cons.injEq, true_and] at heq
  by_cases hbuilt : built = tool.name.text <;> by_cases hother : other = tool.name.text
  · rw [hbuilt, hother]
  · simp [hbuilt, hother] at heq
  · simp [hbuilt, hother] at heq
  · simpa only [if_neg hbuilt, if_neg hother, List.map_cons, List.map_nil, List.cons.injEq,
      and_true, hline, String.append_left_inj, String.append_right_inj] using heq

end Recipe

namespace Plan

/-- The path of a Go package as an artifact renders it. -/
def package (plan : Plan) (view : ToolView) (m : GoModule) (kind : ArtifactKind) : String :=
  view.tool.filled kind plan.config (kind.recipeDepth + 4) m.package

/-- The lines that install a Go package which builds a binary of a given name. -/
def goRecipe (plan : Plan) (view : ToolView) (m : GoModule) (kind : ArtifactKind)
    (built : String) : List String :=
  (Recipe.goSteps view.tool m built).map
    (Recipe.Step.text kind plan.config kind.recipeDepth view.tool (view.runnerIn kind))

/-- The recipe of a Go package agrees with the package: it moves what the package builds as it is
rendered, unless that has the name of the tool, and no tag of a template is left. -/
structure Agrees (plan : Plan) (view : ToolView) (m : GoModule) (kind : ArtifactKind) :
    Prop where
  moves : plan.recipe view kind =
    plan.goRecipe view m kind (GoPackage.binaryName (plan.package view m kind))
  package : IsUntagged (plan.package view m kind).toList
  binary : IsUntagged m.binary.toList

variable {plan : Plan} {view : ToolView} {m : GoModule}

/-- A recipe moves the binary that its installer names. -/
theorem recipe_eq_goRecipe (hinstaller : view.tool.installer = .goModule m)
    (kind : ArtifactKind) : plan.recipe view kind = plan.goRecipe view m kind m.binary := by
  rw [recipe, Recipe.lines_eq_map_text, Recipe.steps_eq_goSteps hinstaller, goRecipe]

theorem agrees_iff (hinstaller : view.tool.installer = .goModule m)
    (hpackage : view.tool.IsTemplated plan.config m.package)
    (hbinary : m.binary = GoPackage.binaryName m.package) (kind : ArtifactKind) :
    plan.Agrees view m kind ↔ '\x7b' ∉ (GoPackage.binaryName m.package).toList := by
  obtain ⟨hsame, huntagged⟩ := Tool.binaryName_filled_eq_iff hpackage kind (kind.recipeDepth + 2)
  have hmoves : plan.recipe view kind =
      plan.goRecipe view m kind (GoPackage.binaryName (plan.package view m kind)) ↔
        '\x7b' ∉ (GoPackage.binaryName m.package).toList := by
    rw [recipe_eq_goRecipe hinstaller, goRecipe, goRecipe, Recipe.map_text_goSteps_eq_iff, hbinary,
      eq_comm]
    exact hsame
  constructor
  · exact fun h => hmoves.mp h.moves
  · intro hbrace
    refine ⟨hmoves.mpr hbrace, Tool.isUntagged_filled hpackage kind (kind.recipeDepth + 2), ?_⟩
    rw [hbinary]
    exact huntagged.mpr hbrace

end Plan

/-- The recipe of a Go package stands in every artifact, and moves the binary that the package path
names as it is written.  It agrees with the package as it is rendered exactly if there is no
placeholder in the name of the binary. -/
theorem agrees_of_check_iff {draft : Draft} {config : Config} (hok : draft.check = .ok config)
    (provenance : Provenance) :
    ∃ plan, Plan.ofConfig config provenance = .ok plan ∧
      ∀ view ∈ plan.tools, ∀ m, view.tool.installer = .goModule m →
        view.tool.IsTemplated config m.modulePath →
        (∀ sub ∈ m.subPath, view.tool.IsTemplated config sub) →
        ∀ kind,
          (∀ outPath text, plan.emit kind.fragments kind outPath = .ok text →
            (plan.nestedRecipe view kind).toList <:+: text.toList) ∧
          plan.recipe view kind =
            plan.goRecipe view m kind (GoPackage.binaryName m.package) ∧
          (plan.Agrees view m kind ↔ '\x7b' ∉ (GoPackage.binaryName m.package).toList) := by
  have h := Draft.check_eq_ok_iff.mp hok
  obtain ⟨plan, hplan⟩ := h.exists_plan provenance
  refine ⟨plan, hplan, ?_⟩
  intro view hview m hinstaller hmodule hsub kind
  obtain ⟨tool, htool, hsame⟩ := Plan.exists_tool_of_mem_tools hplan hview
  have hbinary : m.binary = GoPackage.binaryName m.package := by
    rw [hsame] at hinstaller
    exact h.binary_eq htool hinstaller
  have hpackage : view.tool.IsTemplated plan.config m.package := by
    rw [Plan.config_of_ofConfig hplan]
    exact Tool.isTemplated_path hmodule hsub
  refine ⟨?_, ?_, Plan.agrees_iff hinstaller hpackage hbinary kind⟩
  · intro outPath text hemit
    rw [h.eq_text_of_emit hplan hemit]
    exact Plan.nestedRecipe_isInfix hview (by rw [hinstaller]; rfl) kind outPath
  · rw [← hbinary]
    exact Plan.recipe_eq_goRecipe hinstaller kind

/-- A tool out of a Go package, with a variable that the package path can refer to. -/
def Draft.packaged (modulePath : String) : Draft :=
  { tools := .ofList
      [("vet",
        { go := some { modulePath := some modulePath, version := some "v1" }
          vars := .ofList [("part", "govet")] })] }

namespace Config

def packagedTool (modulePath binary : String) : Tool :=
  { name := ⟨"vet", by decide⟩
    installer := .goModule
      { modulePath, subPath := none, version := "v1", env := .empty, flags := [], binary }
    vars := .ofList [("part", "govet")]
    dependsOn := [] }

/-- What the check makes of `Draft.packaged`, given the binary of the package. -/
def packaged (modulePath binary : String) : Config :=
  { vars := .empty
    localBinVar := "LOCALBIN"
    tools := .ofList [("vet", packagedTool modulePath binary)]
    toolSets := .empty
    commands := {}
    dockerfile := {} }

theorem isTemplated_packagedTool (modulePath binary before after : String)
    (hbefore : '\x7b' ∉ before.toList) (hafter : '\x7b' ∉ after.toList)
    (hpath : modulePath = before ++ "\x7b\x7b vars.part \x7d\x7d" ++ after) :
    (packagedTool modulePath binary).IsTemplated (packaged modulePath binary) modulePath := by
  refine ⟨.refer before.toList .own "part" (.text after.toList), ?_, hbefore, by decide, ?_, hafter⟩
  · rw [hpath]
    simp [InlineText.source, placeholderInside, Scope.word]
  · change "part" ∈ (Dict.ofList [("part", "govet")]).keys
    decide

theorem exists_view_packaged {modulePath binary : String} {provenance : Provenance} {plan : Plan}
    (hplan : Plan.ofConfig (packaged modulePath binary) provenance = .ok plan) :
    ∃ view ∈ plan.tools, view.tool = packagedTool modulePath binary := by
  refine ⟨ToolView.ofTool (packaged modulePath binary) (packagedTool modulePath binary), ?_, rfl⟩
  exact (Plan.tools_perm hplan).mem_iff.mpr (List.mem_map_of_mem List.mem_cons_self)

end Config

/-- The binary is moved if the placeholder stands in another element of the path. -/
theorem agrees_packaged :
    let path := "example.org/\x7b\x7b vars.part \x7d\x7d/tool/v2"
    (Draft.packaged path).check = .ok (Config.packaged path "tool") ∧
      ∃ plan, Plan.ofConfig (Config.packaged path "tool") ⟨"provision.yaml", "00"⟩ = .ok plan ∧
        ∃ view ∈ plan.tools, ∃ m, view.tool.installer = .goModule m ∧
          ∀ kind, plan.Agrees view m kind := by
  intro path
  have hok : (Draft.packaged path).check.toOption = some (Config.packaged path "tool") := by
    decide +kernel
  have hcheck := Engine.exists_eq_ok_of_toOption hok
  obtain ⟨plan, hplan, hviews⟩ := agrees_of_check_iff hcheck ⟨"provision.yaml", "00"⟩
  obtain ⟨view, hview, htool⟩ := Config.exists_view_packaged hplan
  refine ⟨hcheck, plan, hplan, view, hview, _, by rw [htool]; rfl, fun kind => ?_⟩
  have hmodule : view.tool.IsTemplated (Config.packaged path "tool") path := by
    rw [htool]
    exact Config.isTemplated_packagedTool path "tool" "example.org/" "/tool/v2" (by decide)
      (by decide) (by decide)
  have hagrees := hviews view hview _ (by rw [htool]; rfl) hmodule (by simp) kind
  exact hagrees.2.2.mpr (by decide)

/-- A package whose binary has a placeholder in its name passes the check, and in both artifacts its
recipe does not agree with it. -/
theorem not_agrees_packaged :
    let path := "example.org/\x7b\x7b vars.part \x7d\x7d"
    let binary := "\x7b\x7b vars.part \x7d\x7d"
    (Draft.packaged path).check = .ok (Config.packaged path binary) ∧
      ∃ plan, Plan.ofConfig (Config.packaged path binary) ⟨"provision.yaml", "00"⟩ = .ok plan ∧
        ∃ view ∈ plan.tools, ∃ m, view.tool.installer = .goModule m ∧
          view.tool.IsTemplated (Config.packaged path binary) m.modulePath ∧ m.subPath = none ∧
          ∀ kind, ∃ text, plan.emit kind.fragments kind "out" = .ok text ∧
            (plan.nestedRecipe view kind).toList <:+: text.toList ∧
            ¬ plan.Agrees view m kind := by
  intro path binary
  have hok : (Draft.packaged path).check.toOption = some (Config.packaged path binary) := by
    decide +kernel
  have hcheck := Engine.exists_eq_ok_of_toOption hok
  have h := Draft.check_eq_ok_iff.mp hcheck
  obtain ⟨plan, hplan⟩ := h.exists_plan ⟨"provision.yaml", "00"⟩
  obtain ⟨view, hview, htool⟩ := Config.exists_view_packaged hplan
  have htemplated : (Config.packagedTool path binary).IsTemplated (Config.packaged path binary)
      path :=
    Config.isTemplated_packagedTool path binary "example.org/" "" (by decide) (by decide)
      (by decide)
  have hversion : (Config.packagedTool path binary).IsTemplated (Config.packaged path binary)
      "v1" :=
    Tool.isTemplated_of_notMem (by decide)
  have htemplates : ∀ tool ∈ (Config.packaged path binary).tools.values,
      ∀ source ∈ tool.installer.templates,
        tool.IsTemplated (Config.packaged path binary) source := by
    have hvalues : (Config.packaged path binary).tools.values =
        [Config.packagedTool path binary] := rfl
    have hwritten : (Config.packagedTool path binary).installer.templates = [path, "v1"] := rfl
    rw [hvalues, List.forall_mem_singleton, hwritten, List.forall_mem_cons,
      List.forall_mem_singleton]
    exact ⟨htemplated, hversion⟩
  have hinstaller : view.tool.installer = .goModule ⟨path, none, "v1", .empty, [], binary⟩ := by
    rw [htool]
    rfl
  refine ⟨hcheck, plan, hplan, view, hview, _, hinstaller, htool ▸ htemplated, rfl, fun kind => ?_⟩
  refine ⟨_, h.emit_eq_text hplan htemplates kind "out", Plan.nestedRecipe_isInfix hview
    (by rw [hinstaller]; rfl) kind "out", ?_⟩
  have hpackage : view.tool.IsTemplated plan.config path := by
    rw [htool, Plan.config_of_ofConfig hplan]
    exact htemplated
  rw [Plan.agrees_iff hinstaller hpackage (by decide)]
  decide

end Provision
