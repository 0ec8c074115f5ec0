import Mathlib.Data.List.Nodup
import Mathlib.Tactic.Common
import Provision.Manifest.Check
import Provision.Proofs.Dict
import Provision.Proofs.Graph.Acyclic

/-!
# What each check establishes

One equivalence for each check: it passes exactly when a condition on its input holds, and then its
answer is determined.  The last lemma puts them in sequence, so that nothing about an accepted
draft is read off the order of the checks again.
-/

namespace Provision

open Name

/-- Something was written, and not only blanks. -/
def IsWritten (value : Option String) : Prop :=
  ∃ text, value = some text ∧ Text.isBlankText text = false

namespace ToolName

theorem ofText?_eq_some_iff {text : String} {name : ToolName} :
    ofText? text = some name ↔ name.text = text := by
  constructor
  · exact text_of_ofText?
  · rintro rfl
    exact ofText?_text name

theorem ofText?_eq_none_iff {text : String} :
    ofText? text = none ↔ isName true text = false := by
  rw [ofText?, dite_eq_right_iff, Bool.eq_false_iff]
  simp

theorem exists_text_eq_iff {text : String} :
    (∃ name : ToolName, name.text = text) ↔ isName true text = true := by
  constructor
  · rintro ⟨name, rfl⟩
    exact name.isName_text
  · intro hname
    exact ⟨⟨text, hname⟩, rfl⟩

theorem text_injective : Function.Injective text := fun _ _ h => ext h

end ToolName

namespace Check

section Sequence

variable {α β ε δ : Type}

theorem bind_eq_ok_iff {first : Except ε α} {next : α → Except ε β} {result : β} :
    first >>= next = .ok result ↔ ∃ value, first = .ok value ∧ next value = .ok result := by
  cases first <;> simp [bind, Except.bind]

theorem map_eq_ok_iff {first : Except ε α} {f : α → β} {result : β} :
    first.map f = .ok result ↔ ∃ value, first = .ok value ∧ f value = result := by
  cases first <;> simp [Except.map]

theorem map_eq_error_iff {first : Except ε α} {f : α → β} {err : ε} :
    first.map f = .error err ↔ first = .error err := by
  cases first <;> simp [Except.map]

theorem mapError_eq_ok_iff {first : Except ε α} {f : ε → δ} {result : α} :
    first.mapError f = .ok result ↔ first = .ok result := by
  cases first <;> simp [Except.mapError]

theorem exists_eq_ok_of_isOk {result : Except ε α} (h : result.isOk = true) :
    ∃ value, result = .ok value := by
  cases result with
  | error err => simp [Except.isOk, Except.toBool] at h
  | ok value => exact ⟨value, rfl⟩

theorem require_eq_ok_iff {condition : Bool} {flaw : Flaw} {done : Unit} :
    require condition flaw = .ok done ↔ condition = true := by
  cases condition <;> simp [require]

theorem refuse_eq_ok_iff {found : Option Flaw} {done : Unit} :
    refuse found = .ok done ↔ found = none := by
  cases found <;> simp [refuse]

theorem bind_eq_error_iff {first : Except ε α} {next : α → Except ε β} {err : ε} :
    first >>= next = .error err ↔
      first = .error err ∨ ∃ value, first = .ok value ∧ next value = .error err := by
  cases first <;> simp [bind, Except.bind]

theorem mapError_eq_error_iff {first : Except ε α} {f : ε → δ} {err : δ} :
    first.mapError f = .error err ↔ ∃ cause, first = .error cause ∧ f cause = err := by
  cases first <;> simp [Except.mapError]

theorem require_eq_error_iff {condition : Bool} {flaw found : Flaw} :
    require condition flaw = .error found ↔ condition = false ∧ flaw = found := by
  cases condition <;> simp [require]

theorem refuse_eq_error_iff {found : Option Flaw} {flaw : Flaw} :
    refuse found = .error flaw ↔ found = some flaw := by
  cases found <;> simp [refuse]

end Sequence

theorem varKeys_eq_ok_iff {owner : VarOwner} {vars : Dict String} {done : Unit} :
    varKeys owner vars = .ok done ↔ ∀ key ∈ vars.keys, isName true key = true := by
  simp [varKeys, refuse_eq_ok_iff, List.find?_eq_none]

/-! ## Installers -/

theorem required_eq_ok_iff {tool field text : String} {value : Option String} :
    required tool value field = .ok text ↔
      value = some text ∧ Text.isBlankText text = false := by
  cases value with
  | none => simp [required]
  | some found =>
      simp only [required, Option.some.injEq]
      split
      · next hblank =>
          simp only [reduceCtorEq, false_iff, not_and]
          rintro rfl
          simp [hblank]
      · next hwritten =>
          simp only [Except.ok.injEq]
          constructor
          · rintro rfl
            exact ⟨rfl, Bool.eq_false_iff.mpr hwritten⟩
          · exact fun h => h.1

theorem archive_eq_ok_iff {tool : String} {draft : Draft.Fetch} {found : Option Archive} :
    archive tool draft = .ok found ↔
      (draft.zip = none ∨ draft.tar = none) ∧
        found =
          (draft.zip.map (fun zip => .zip ((nonEmpty? zip.path).getD tool))).or
            (draft.tar.map (fun tar => .tar tar.compression ((nonEmpty? tar.path).getD tool))) := by
  obtain ⟨_, zip, tar⟩ := draft
  cases zip <;> cases tar <;> simp [archive, eq_comm]

theorem fetch_eq_ok_iff {tool field : String} {draft : Draft.Fetch} {source : Fetch} :
    fetch tool draft field = .ok source ↔
      draft.url = some source.url ∧ Text.isBlankText source.url = false ∧
        archive tool draft = .ok source.archive := by
  simp only [fetch]
  split
  · next flaw hurl =>
      simp only [reduceCtorEq, false_iff]
      rintro ⟨hsome, hwritten, -⟩
      rw [required_eq_ok_iff.mpr ⟨hsome, hwritten⟩] at hurl
      contradiction
  · next url hurl =>
      obtain ⟨hsome, hwritten⟩ := required_eq_ok_iff.mp hurl
      simp only [map_eq_ok_iff, hsome, Option.some.injEq]
      constructor
      · rintro ⟨found, hfound, rfl⟩
        exact ⟨rfl, hwritten, hfound⟩
      · rintro ⟨rfl, -, hfound⟩
        exact ⟨source.archive, hfound, rfl⟩

theorem goModule_eq_ok_iff {tool : String} {draft : Draft.Go} {m : GoModule} :
    goModule tool draft = .ok m ↔
      (draft.modulePath = some m.modulePath ∧ Text.isBlankText m.modulePath = false) ∧
        (draft.version = some m.version ∧ Text.isBlankText m.version = false) ∧
          m.subPath = nonEmpty? draft.subPath ∧ m.env = draft.env ∧ m.flags = draft.flags ∧
            m.binary = GoPackage.binaryName m.package := by
  simp only [goModule, GoModule.package]
  split
  · next flaw hpath =>
      simp only [reduceCtorEq, false_iff]
      rintro ⟨hwritten, -⟩
      rw [required_eq_ok_iff.mpr hwritten] at hpath
      contradiction
  · next path hpath =>
      obtain ⟨hsome, hwritten⟩ := required_eq_ok_iff.mp hpath
      simp only [map_eq_ok_iff, hsome, Option.some.injEq]
      constructor
      · rintro ⟨version, hversion, rfl⟩
        exact ⟨⟨rfl, hwritten⟩, required_eq_ok_iff.mp hversion, rfl, rfl, rfl, rfl⟩
      · rintro ⟨⟨rfl, -⟩, hversion, hsub, henv, hflags, hbinary⟩
        refine ⟨m.version, required_eq_ok_iff.mpr hversion, ?_⟩
        cases m
        simp_all

/-- How the one section of a tool makes its installer. -/
inductive Installs (tool : String) (draft : Draft.Tool) : Installer → Prop where
  | provided {provided : Draft.Provided} (hsection : draft.provided = some provided) :
      Installs tool draft (.provided (provided.default.getD tool))
  | http {written : Draft.Fetch} {source : Fetch} (hsection : draft.http = some written)
      (hsource : fetch tool written "http.url" = .ok source) : Installs tool draft (.http source)
  | objectStore {written : Draft.Fetch} {source : Fetch} (hsection : draft.s3 = some written)
      (hsource : fetch tool written "s3.url" = .ok source) :
      Installs tool draft (.objectStore source)
  | pythonApp {written : Draft.Pipx} (hsection : draft.pipx = some written) :
      Installs tool draft (.pythonApp (pythonApp tool written))
  | goModule {written : Draft.Go} {m : GoModule} (hsection : draft.go = some written)
      (hmodule : goModule tool written = .ok m) : Installs tool draft (.goModule m)
  | maven {written : Draft.Maven} {artifact : String} (hsection : draft.maven = some written)
      (hartifact : required tool written.artifact "maven.artifact" = .ok artifact) :
      Installs tool draft (.maven artifact)

theorem installer_eq_ok_iff {tool : String} {draft : Draft.Tool} {made : Installer} :
    installer tool draft = .ok made ↔
      draft.installerSections.length = 1 ∧ Installs tool draft made := by
  obtain ⟨provided, http, s3, pipx, go, maven, vars, dependsOn⟩ := draft
  constructor
  · intro hok
    simp only [installer] at hok
    split at hok
    · cases hok
      exact ⟨rfl, .provided rfl⟩
    · obtain ⟨source, hsource, rfl⟩ := map_eq_ok_iff.mp hok
      exact ⟨rfl, .http rfl hsource⟩
    · obtain ⟨source, hsource, rfl⟩ := map_eq_ok_iff.mp hok
      exact ⟨rfl, .objectStore rfl hsource⟩
    · cases hok
      exact ⟨rfl, .pythonApp rfl⟩
    · obtain ⟨m, hmodule, rfl⟩ := map_eq_ok_iff.mp hok
      exact ⟨rfl, .goModule rfl hmodule⟩
    · obtain ⟨artifact, hartifact, rfl⟩ := map_eq_ok_iff.mp hok
      exact ⟨rfl, .maven rfl hartifact⟩
    · contradiction
  · rintro ⟨hsingle, hinstalls⟩
    cases hinstalls with
    | provided hsection =>
        cases hsection
        cases http <;> cases s3 <;> cases pipx <;> cases go <;>
          cases maven <;> simp [Draft.Tool.installerSections] at hsingle
        rfl
    | http hsection hsource =>
        cases hsection
        cases provided <;> cases s3 <;> cases pipx <;> cases go <;>
          cases maven <;> simp [Draft.Tool.installerSections] at hsingle
        exact map_eq_ok_iff.mpr ⟨_, hsource, rfl⟩
    | objectStore hsection hsource =>
        cases hsection
        cases provided <;> cases http <;> cases pipx <;> cases go <;>
          cases maven <;> simp [Draft.Tool.installerSections] at hsingle
        exact map_eq_ok_iff.mpr ⟨_, hsource, rfl⟩
    | pythonApp hsection =>
        cases hsection
        cases provided <;> cases http <;> cases s3 <;> cases go <;>
          cases maven <;> simp [Draft.Tool.installerSections] at hsingle
        rfl
    | goModule hsection hmodule =>
        cases hsection
        cases provided <;> cases http <;> cases s3 <;> cases pipx <;>
          cases maven <;> simp [Draft.Tool.installerSections] at hsingle
        exact map_eq_ok_iff.mpr ⟨_, hmodule, rfl⟩
    | maven hsection hartifact =>
        cases hsection
        cases provided <;> cases http <;> cases s3 <;> cases pipx <;>
          cases go <;> simp [Draft.Tool.installerSections] at hsingle
        exact map_eq_ok_iff.mpr ⟨_, hartifact, rfl⟩

/-! ## References -/

/-- The names that are read behind those already seen are the listed ones, in their order. -/
theorem dependencies_eq_ok_iff {tool : String} {seen names : List ToolName}
    {texts : List String} :
    dependencies tool seen texts = .ok names ↔
      ∃ found, names = seen.reverse ++ found ∧ found.map ToolName.text = texts ∧
        found.Nodup ∧ ∀ name ∈ found, name ∉ seen := by
  induction texts generalizing seen with
  | nil =>
      simp only [dependencies, Except.ok.injEq, List.map_eq_nil_iff]
      constructor
      · rintro rfl
        exact ⟨[], by simp⟩
      · rintro ⟨found, rfl, rfl, -⟩
        simp
  | cons text rest ih =>
      simp only [dependencies]
      split
      · next hname =>
          simp only [reduceCtorEq, false_iff]
          rintro ⟨found, -, htexts, -⟩
          obtain ⟨name, others, rfl, hfirst, -⟩ := List.map_eq_cons_iff.mp htexts
          rw [ToolName.ofText?_eq_some_iff.mpr hfirst] at hname
          contradiction
      · next name hname =>
          rw [ToolName.ofText?_eq_some_iff] at hname
          subst hname
          split
          · next hseen =>
              simp only [reduceCtorEq, false_iff]
              rintro ⟨found, -, htexts, -, hfresh⟩
              obtain ⟨first, others, rfl, hfirst, -⟩ := List.map_eq_cons_iff.mp htexts
              rw [ToolName.text_injective hfirst] at hfresh
              exact hfresh name List.mem_cons_self hseen
          · next hfresh =>
              rw [ih]
              constructor
              · rintro ⟨found, rfl, rfl, hnodup, hothers⟩
                refine ⟨name :: found, by simp, by simp, ?_, ?_⟩
                · refine List.nodup_cons.mpr ⟨fun hmem => ?_, hnodup⟩
                  exact hothers name hmem List.mem_cons_self
                · intro other hother
                  rcases List.mem_cons.mp hother with rfl | hrest
                  · exact hfresh
                  · exact fun hseen => hothers other hrest (List.mem_cons_of_mem _ hseen)
              · rintro ⟨found, rfl, htexts, hnodup, hothers⟩
                obtain ⟨first, others, rfl, hfirst, rfl⟩ := List.map_eq_cons_iff.mp htexts
                obtain rfl := ToolName.text_injective hfirst
                obtain ⟨hfirstFresh, hrest⟩ := List.nodup_cons.mp hnodup
                refine ⟨others, by simp, rfl, hrest, ?_⟩
                intro other hother hmem
                rcases List.mem_cons.mp hmem with rfl | hseen
                · exact hfirstFresh hother
                · exact hothers other (List.mem_cons_of_mem _ hother) hseen

theorem dependencies_nil_eq_ok_iff {tool : String} {names : List ToolName}
    {texts : List String} :
    dependencies tool [] texts = .ok names ↔
      names.map ToolName.text = texts ∧ texts.Nodup := by
  rw [dependencies_eq_ok_iff]
  constructor
  · rintro ⟨found, rfl, rfl, hnodup, -⟩
    exact ⟨rfl, hnodup.map ToolName.text_injective⟩
  · rintro ⟨rfl, hnodup⟩
    exact ⟨names, rfl, rfl, hnodup.of_map _, by simp⟩

theorem tool_eq_ok_iff {text : String} {draft : Draft.Tool} {made : Tool} :
    tool text draft = .ok made ↔
      made.name.text = text ∧ (∀ key ∈ draft.vars.keys, isName true key = true) ∧
        installer text draft = .ok made.installer ∧ made.vars = draft.vars ∧
          made.dependencyNames = draft.dependsOn ∧ draft.dependsOn.Nodup := by
  simp only [tool, Tool.dependencyNames]
  split
  · next hname =>
      simp only [reduceCtorEq, false_iff]
      rintro ⟨rfl, -⟩
      simp at hname
  · next name hname =>
      rw [ToolName.ofText?_eq_some_iff] at hname
      subst hname
      simp only [bind_eq_ok_iff, varKeys_eq_ok_iff, dependencies_nil_eq_ok_iff, pure,
        Except.pure, Except.ok.injEq]
      constructor
      · rintro ⟨-, hvars, made, hmade, names, ⟨hnames, hnodup⟩, rfl⟩
        exact ⟨rfl, hvars, hmade, rfl, hnames, hnodup⟩
      · rintro ⟨hname, hvars, hmade, hsame, hnames, hnodup⟩
        refine ⟨(), hvars, made.installer, hmade, made.dependsOn, ⟨hnames, hnodup⟩, ?_⟩
        obtain rfl := ToolName.text_injective hname
        cases made
        simp_all

theorem danglingDependency?_eq_none_iff {tools : Dict Tool} {listed : List Tool} :
    danglingDependency? tools listed = none ↔
      ∀ tool ∈ listed, ∀ name ∈ tool.dependencyNames, name ∈ tools.keys := by
  induction listed with
  | nil => simp [danglingDependency?]
  | cons tool rest ih =>
      simp only [danglingDependency?, List.forall_mem_cons]
      split
      · next missing hmissing =>
          simp only [reduceCtorEq, false_iff, not_and]
          intro hall
          have hnone := List.find?_some hmissing
          simp [Dict.contains_iff.mpr (hall missing (List.mem_of_find?_eq_some hmissing))] at hnone
      · next hall =>
          rw [ih]
          have hfirst : ∀ name ∈ tool.dependencyNames, name ∈ tools.keys := by
            intro name hname
            simpa [Dict.contains_iff] using List.find?_eq_none.mp hall name hname
          exact (and_iff_right hfirst).symm

theorem exists_members_iff {tools : Dict Tool} (set : String) (found : List ToolName)
    {texts : List String} :
    (∃ names, members tools set found texts = .ok names) ↔ ∀ text ∈ texts, text ∈ tools.keys := by
  induction texts generalizing found with
  | nil => simp [members]
  | cons text rest ih =>
      simp only [members, List.forall_mem_cons]
      split
      · next hnone =>
          have habsent := Dict.get?_eq_none_iff.mp hnone
          simp [habsent]
      · next tool htool =>
          rw [ih]
          exact (and_iff_right (Dict.mem_keys_of_get? htool)).symm

/-- The members of a set are tools. -/
theorem exists_get?_of_mem_members {tools : Dict Tool} {set : String} {found names : List ToolName}
    {texts : List String}
    (hfound : ∀ member ∈ found, ∃ text tool, tools.get? text = some tool ∧ tool.name = member)
    (hnames : members tools set found texts = .ok names) :
    ∀ member ∈ names, ∃ text tool, tools.get? text = some tool ∧ tool.name = member := by
  induction texts generalizing found with
  | nil =>
      cases hnames
      simpa using hfound
  | cons text rest ih =>
      rw [members] at hnames
      split at hnames
      · contradiction
      · next tool htool =>
          refine ih ?_ hnames
          split
          · exact hfound
          · exact List.forall_mem_cons.mpr ⟨⟨text, tool, htool, rfl⟩, hfound⟩

theorem toolSet_eq_ok_iff {tools : Dict Tool} {text : String} {listed : List String}
    {made : ToolSet} :
    toolSet tools text listed = .ok made ↔
      made.name.text = text ∧ text ∉ tools.keys ∧
        members tools text [] listed = .ok made.tools := by
  simp only [toolSet]
  split
  · next hname =>
      simp only [reduceCtorEq, false_iff]
      rintro ⟨rfl, -⟩
      simp at hname
  · next name hname =>
      rw [ToolName.ofText?_eq_some_iff] at hname
      subst hname
      simp only [bind_eq_ok_iff, require_eq_ok_iff, Bool.not_eq_true', ← Bool.not_eq_true,
        Dict.contains_iff, pure, Except.pure, Except.ok.injEq]
      constructor
      · rintro ⟨-, hfresh, found, hfound, rfl⟩
        exact ⟨rfl, hfresh, hfound⟩
      · rintro ⟨hname, hfresh, hfound⟩
        refine ⟨(), hfresh, made.tools, hfound, ?_⟩
        obtain rfl := ToolName.text_injective hname
        rfl

/-! ## Derived names -/

theorem emptyIdentifier?_eq_none_iff {config : Config} :
    emptyIdentifier? config = none ↔ ∀ named ∈ namedOrigins config, identifier named.1 ≠ "" := by
  simp [emptyIdentifier?, List.find?_eq_none]

theorem collision?_eq_none_iff {claimed listed : List (String × Origin)} :
    collision? claimed listed = none ↔
      (listed.map Prod.fst).Nodup ∧
        ∀ name ∈ listed.map Prod.fst, name ∉ claimed.map Prod.fst := by
  induction listed generalizing claimed with
  | nil => simp [collision?]
  | cons entry rest ih =>
      obtain ⟨name, origin⟩ := entry
      simp only [collision?, List.map_cons, List.nodup_cons, List.forall_mem_cons]
      split
      · next first hfirst =>
          have hclaimed : name ∈ claimed.map Prod.fst := by
            by_contra habsent
            rw [List.lookup_eq_none_iff.mpr] at hfirst
            · contradiction
            · intro entry hentry
              simp only [bne_iff_ne, ne_eq]
              rintro rfl
              exact habsent (List.mem_map_of_mem hentry)
          simp [hclaimed]
      · next hnone =>
          have hfresh : name ∉ claimed.map Prod.fst := by
            intro hclaimed
            obtain ⟨entry, hentry, rfl⟩ := List.mem_map.mp hclaimed
            simpa using List.lookup_eq_none_iff.mp hnone entry hentry
          rw [ih]
          constructor
          · rintro ⟨hnodup, hrest⟩
            refine ⟨⟨fun hmem => ?_, hnodup⟩, hfresh, fun other hother hmem => ?_⟩
            · exact hrest name hmem List.mem_cons_self
            · exact hrest other hother (List.mem_cons_of_mem _ hmem)
          · rintro ⟨⟨hname, hnodup⟩, -, hrest⟩
            refine ⟨hnodup, fun other hother hmem => ?_⟩
            rcases List.mem_cons.mp hmem with rfl | hclaimed
            · exact hname hother
            · exact hrest other hother hclaimed

theorem collision?_nil_eq_none_iff {listed : List (String × Origin)} :
    collision? [] listed = none ↔ (listed.map Prod.fst).Nodup := by
  simp [collision?_eq_none_iff]

end Check

/-! ## The checks in sequence -/

/-- What is established about a draft and the configuration that it makes. -/
structure Accepted (draft : Draft) (config : Config) : Prop where
  vars : config.vars = draft.vars
  localBinVar : config.localBinVar = draft.localBinVar.getD "LOCALBIN"
  commands : config.commands = draft.commands
  dockerfile : config.dockerfile = draft.dockerfile
  isIdentifier_localBinVar : isIdentifier config.localBinVar = true
  isName_vars : ∀ key ∈ config.vars.keys, isName true key = true
  tools : draft.tools.traverse Check.tool = .ok config.tools
  toolSets : draft.toolSets.traverse (Check.toolSet config.tools) = .ok config.toolSets
  closed : ∀ tool ∈ config.tools.values, ∀ name ∈ tool.dependencyNames, name ∈ config.tools.keys
  acyclic : config.graph.checkAcyclic = .ok ()
  identifier_ne_empty : ∀ named ∈ Check.namedOrigins config, identifier named.1 ≠ ""
  identifiers_nodup : ((Check.identifiers config).map Prod.fst).Nodup
  stages_nodup : ((Check.stages config).map Prod.fst).Nodup

theorem Draft.check_eq_ok_iff {draft : Draft} {config : Config} :
    draft.check = .ok config ↔ Accepted draft config := by
  simp only [Draft.check, Check.bind_eq_ok_iff, Check.require_eq_ok_iff,
    Check.varKeys_eq_ok_iff, Check.refuse_eq_ok_iff, Check.mapError_eq_ok_iff,
    Check.danglingDependency?_eq_none_iff, Check.emptyIdentifier?_eq_none_iff,
    Check.collision?_nil_eq_none_iff, pure, Except.pure, Except.ok.injEq]
  constructor
  · rintro ⟨-, hlocal, -, hvars, tools, htools, -, hclosed, toolSets, hsets, ⟨⟩, hacyclic, -,
      hnonempty, -, hidentifiers, -, hstages, rfl⟩
    exact ⟨rfl, rfl, rfl, rfl, hlocal, hvars, htools, hsets, hclosed, hacyclic, hnonempty,
      hidentifiers, hstages⟩
  · intro h
    have hconfig : config =
        { vars := draft.vars, localBinVar := draft.localBinVar.getD "LOCALBIN"
          tools := config.tools, toolSets := config.toolSets
          commands := draft.commands, dockerfile := draft.dockerfile } := by
      rw [← h.vars, ← h.localBinVar, ← h.commands, ← h.dockerfile]
    refine ⟨(), h.localBinVar ▸ h.isIdentifier_localBinVar, (), h.vars ▸ h.isName_vars,
      config.tools, h.tools, (), h.closed, config.toolSets, h.toolSets, (), ?_, (), ?_, (), ?_,
      (), ?_, hconfig.symm⟩
    · rw [← hconfig]
      exact h.acyclic
    · rw [← hconfig]
      exact h.identifier_ne_empty
    · rw [← hconfig]
      exact h.identifiers_nodup
    · rw [← hconfig]
      exact h.stages_nodup

namespace Accepted

variable {draft : Draft} {config : Config}

theorem keys_tools (h : Accepted draft config) : config.tools.keys = draft.tools.keys :=
  Dict.keys_of_traverse h.tools

theorem keys_toolSets (h : Accepted draft config) : config.toolSets.keys = draft.toolSets.keys :=
  Dict.keys_of_traverse h.toolSets

/-- Every tool comes from the draft of its name. -/
theorem exists_draft (h : Accepted draft config) {name : String} {tool : Tool}
    (htool : config.tools.get? name = some tool) :
    ∃ written, draft.tools.get? name = some written ∧ Check.tool name written = .ok tool :=
  Dict.get?_of_traverse h.tools htool

/-- Every draft of a tool makes the tool of its name. -/
theorem exists_made (h : Accepted draft config) {name : String} {written : Draft.Tool}
    (hwritten : draft.tools.get? name = some written) :
    ∃ made, config.tools.get? name = some made ∧ Check.tool name written = .ok made :=
  Dict.get?_traverse h.tools hwritten

theorem text_name (h : Accepted draft config) {name : String} {tool : Tool}
    (htool : config.tools.get? name = some tool) : tool.name.text = name := by
  obtain ⟨written, -, hok⟩ := h.exists_draft htool
  exact (Check.tool_eq_ok_iff.mp hok).1

theorem text_toolSet (h : Accepted draft config) {name : String} {set : ToolSet}
    (hset : config.toolSets.get? name = some set) : set.name.text = name := by
  obtain ⟨listed, -, hok⟩ := Dict.get?_of_traverse h.toolSets hset
  exact (Check.toolSet_eq_ok_iff.mp hok).1

theorem member_mem_keys (h : Accepted draft config) {set : ToolSet}
    (hset : set ∈ config.toolSets.values) {member : ToolName} (hmember : member ∈ set.tools) :
    member.text ∈ config.tools.keys := by
  obtain ⟨name, hname⟩ := Dict.mem_values_iff.mp hset
  obtain ⟨listed, -, hok⟩ := Dict.get?_of_traverse h.toolSets hname
  obtain ⟨-, -, hmembers⟩ := Check.toolSet_eq_ok_iff.mp hok
  obtain ⟨text, tool, htool, rfl⟩ :=
    Check.exists_get?_of_mem_members (by simp) hmembers member hmember
  rw [h.text_name htool]
  exact Dict.mem_keys_of_get? htool

theorem closed_graph (h : Accepted draft config) : config.graph.Closed := by
  intro name other hother
  simp only [Graph.DependsOn, Graph.dependencies, Config.graph, Dict.get?_mapValues] at hother
  cases htool : config.tools.get? name with
  | none => simp [htool] at hother
  | some tool =>
      have hnames : other ∈ tool.dependencyNames := by simpa [htool] using hother
      simpa [Graph.nodes, Config.graph] using
        h.closed tool (Dict.mem_values_iff.mpr ⟨name, htool⟩) other hnames

end Accepted
end Provision
