import Provision.Proofs.Artifact.Emitted
import Provision.Proofs.Run.Effect

/-!
# What a report says of the store

A report lists the artifacts in the order in which they were written, and a later one takes the
place of an earlier one at the same path.  So the last artifact of a report always stands, and all
of them stand unless both outputs have one path and the two artifacts differ.  Those of the
fragments that come with the program do.
-/

namespace Provision

namespace Store

variable {store : Store} {artifacts : List Artifact}

theorem putAll_append (store : Store) (artifacts later : List Artifact) :
    store.putAll (artifacts ++ later) = (store.putAll artifacts).putAll later :=
  List.foldl_append

/-- What was put under a path last is what a store has there. -/
theorem get?_putAll_append_cons {artifact : Artifact} {later : List Artifact}
    (h : artifact.path ∉ later.map Artifact.path) (store : Store) (earlier : List Artifact) :
    (store.putAll (earlier ++ artifact :: later)).get? artifact.path = some artifact.content := by
  rw [putAll_append, putAll_cons, get?_putAll_of_notMem h, get?_put, if_pos rfl]

/-- A store has all of the artifacts that were put there exactly if those at one path are the
same. -/
theorem forall_get?_putAll_iff :
    (∀ artifact ∈ artifacts,
        (store.putAll artifacts).get? artifact.path = some artifact.content) ↔
      ∀ first ∈ artifacts, ∀ second ∈ artifacts,
        first.path = second.path → first.content = second.content := by
  constructor
  · intro h first hfirst second hsecond hpath
    have hkept := h first hfirst
    rw [hpath, h second hsecond] at hkept
    exact (Option.some.inj hkept).symm
  · intro h
    induction artifacts generalizing store with
    | nil => simp
    | cons first rest ih =>
        have hrest : ∀ artifact ∈ rest, ((store.put first.path first.content).putAll rest).get?
            artifact.path = some artifact.content :=
          ih fun one hone other hother => h one (by simp [hone]) other (by simp [hother])
        refine List.forall_mem_cons.mpr ⟨?_, hrest⟩
        by_cases hlater : first.path ∈ rest.map Artifact.path
        · obtain ⟨later, hmem, hpath⟩ := List.mem_map.mp hlater
          have hsame := h first List.mem_cons_self later (List.mem_cons_of_mem _ hmem) hpath.symm
          have hkept := hrest later hmem
          rwa [hpath, ← hsame] at hkept
        · exact get?_putAll_append_cons hlater store []

end Store

/-! ## Reports -/

/-- A store has the text of a reported artifact under its path, and that text has the reported
size. -/
def Written.Stands (catalog : Catalog) (plan : Plan) (store : Store) (written : Written) : Prop :=
  ∃ text, plan.emit (catalog written.kind) written.kind written.path = .ok text ∧
    store.get? written.path = some text ∧ written.bytes = text.utf8ByteSize

theorem Artifact.stands_written_iff {catalog : Catalog} {plan : Plan} {store : Store}
    {artifact : Artifact}
    (hemit : plan.emit (catalog artifact.kind) artifact.kind artifact.path =
      .ok artifact.content) :
    artifact.written.Stands catalog plan store ↔
      store.get? artifact.path = some artifact.content := by
  simp [Written.Stands, Artifact.written, hemit]

section Outputs

variable {catalog : Catalog} {options : Options} {plan : Plan} {artifacts : List Artifact}

theorem Options.mem_outputs_iff {kind : ArtifactKind} {path : String} :
    (kind, path) ∈ options.outputs ↔
      path ≠ "" ∧ (kind = .makefile ∧ path = options.makefilePath ∨
        kind = .dockerfile ∧ path = options.dockerfilePath) := by
  simp [outputs, List.mem_filter, and_comm]

/-- The two kinds come to the same where both are made at one path. -/
def Options.AgreeWhereShared (options : Options) (catalog : Catalog) (plan : Plan) : Prop :=
  options.makefilePath = options.dockerfilePath → options.dockerfilePath ≠ "" →
    plan.emit (catalog .makefile) .makefile options.makefilePath =
      plan.emit (catalog .dockerfile) .dockerfile options.dockerfilePath

theorem Options.AgreeWhereShared.emit_eq (h : options.AgreeWhereShared catalog plan)
    {kind other : ArtifactKind} {path : String} (hkind : (kind, path) ∈ options.outputs)
    (hother : (other, path) ∈ options.outputs) :
    plan.emit (catalog kind) kind path = plan.emit (catalog other) other path := by
  obtain ⟨hnonempty, hkind⟩ := mem_outputs_iff.mp hkind
  obtain ⟨-, hother⟩ := mem_outputs_iff.mp hother
  rcases hkind with ⟨rfl, hpath⟩ | ⟨rfl, hpath⟩ <;> rcases hother with ⟨rfl, hagain⟩ | ⟨rfl, hagain⟩
  · rfl
  · have hboth := h (hpath.symm.trans hagain) (hagain ▸ hnonempty)
    rwa [← hpath, ← hagain] at hboth
  · have hboth := h (hagain.symm.trans hpath) (hpath ▸ hnonempty)
    rwa [← hpath, ← hagain, eq_comm] at hboth
  · rfl

/-- Artifacts at one path are the same exactly if the two kinds are where both are made there. -/
theorem forall_content_eq_iff (houtputs : artifacts.map Artifact.output = options.outputs)
    (hemit : ∀ artifact ∈ artifacts,
      plan.emit (catalog artifact.kind) artifact.kind artifact.path = .ok artifact.content) :
    (∀ first ∈ artifacts, ∀ second ∈ artifacts,
        first.path = second.path → first.content = second.content) ↔
      options.AgreeWhereShared catalog plan := by
  have hmade : ∀ output ∈ options.outputs, ∃ artifact ∈ artifacts, artifact.output = output := by
    intro output houtput
    rw [← houtputs] at houtput
    exact List.mem_map.mp houtput
  constructor
  · intro h hsame hnonempty
    obtain ⟨⟨_, _, text⟩, hfirst, ⟨⟩⟩ := hmade (.makefile, options.makefilePath)
      (Options.mem_outputs_iff.mpr ⟨hsame ▸ hnonempty, .inl ⟨rfl, rfl⟩⟩)
    obtain ⟨⟨_, _, other⟩, hsecond, ⟨⟩⟩ := hmade (.dockerfile, options.dockerfilePath)
      (Options.mem_outputs_iff.mpr ⟨hnonempty, .inr ⟨rfl, rfl⟩⟩)
    have htext : text = other := h _ hfirst _ hsecond hsame
    rw [hemit _ hfirst, hemit _ hsecond, htext]
  · intro h first hfirst second hsecond hpath
    have hhere : first.output ∈ options.outputs := houtputs ▸ List.mem_map_of_mem hfirst
    have hthere : second.output ∈ options.outputs := houtputs ▸ List.mem_map_of_mem hsecond
    rw [Artifact.output, ← hpath] at hthere
    have hboth := h.emit_eq hhere hthere
    rw [hemit first hfirst, hpath, hemit second hsecond] at hboth
    exact Except.ok.inj hboth

end Outputs

/-! ## The fragments that come with the program -/

/-- The two artifacts of a plan differ in their first lines. -/
theorem Plan.text_makefile_ne (plan : Plan) (path other : String) :
    plan.text .makefile path ≠ plan.text .dockerfile other := by
  intro h
  have hthird := congrArg (fun text => text.toList[2]?) h
  simp [Plan.text, Makefile.text, Makefile.lines, Makefile.Line.text, Dockerfile.text,
    Dockerfile.lines, Dockerfile.prologue, Dockerfile.Line.text] at hthird

theorem exists_check_of_load {store : Store} {path : String} {loaded : Loaded}
    (h : load store path = .ok loaded) : ∃ draft : Draft, draft.check = .ok loaded.config := by
  unfold load Loaded.ofText at h
  split at h
  · contradiction
  · split at h
    · contradiction
    · next draft _ =>
        split at h
        · contradiction
        · next config hcheck =>
            cases h
            exact ⟨draft, hcheck⟩

/-- Artifacts of the fragments that come with the program are known line by line. -/
theorem emit_eq_text_of_mem_outputs {draft : Draft} {config : Config} {provenance : Provenance}
    {plan : Plan} {options : Options} {artifacts : List Artifact} (hcheck : draft.check = .ok config)
    (hplan : Plan.ofConfig config provenance = .ok plan)
    (houtputs : artifacts.map Artifact.output = options.outputs)
    (hemit : ∀ artifact ∈ artifacts,
      plan.emit (Catalog.builtIn artifact.kind) artifact.kind artifact.path =
        .ok artifact.content) {kind : ArtifactKind} {path : String}
    (houtput : (kind, path) ∈ options.outputs) :
    plan.emit (Catalog.builtIn kind) kind path = .ok (plan.text kind path) := by
  rw [← houtputs] at houtput
  obtain ⟨artifact, hmem, hsame⟩ := List.mem_map.mp houtput
  obtain ⟨rfl, rfl⟩ : artifact.kind = kind ∧ artifact.path = path := Prod.mk.inj hsame
  have hok := hemit artifact hmem
  rw [hok, (Draft.check_eq_ok_iff.mp hcheck).eq_text_of_emit hplan hok]

/-- With the fragments that come with the program the two kinds never come to the same. -/
theorem agreeWhereShared_builtIn_iff {plan : Plan} {options : Options}
    (hemit : ∀ {kind path}, (kind, path) ∈ options.outputs →
      plan.emit (Catalog.builtIn kind) kind path = .ok (plan.text kind path)) :
    options.AgreeWhereShared .builtIn plan ↔
      (options.makefilePath = options.dockerfilePath → options.dockerfilePath = "") := by
  constructor
  · intro hagree hsame
    by_contra hnonempty
    have hboth := hagree hsame hnonempty
    rw [hemit (Options.mem_outputs_iff.mpr ⟨hsame ▸ hnonempty, .inl ⟨rfl, rfl⟩⟩),
      hemit (Options.mem_outputs_iff.mpr ⟨hnonempty, .inr ⟨rfl, rfl⟩⟩)] at hboth
    exact plan.text_makefile_ne _ _ (Except.ok.inj hboth)
  · intro hempty hsame hnonempty
    exact absurd (hempty hsame) hnonempty

theorem generate_of_renders {catalog : Catalog} {options : Options} {store : Store} {tools : Nat}
    {artifacts : List Artifact} (hrenders : store.Renders catalog options tools artifacts)
    (hfree : ∀ artifact ∈ artifacts, artifact.path ∉ store.locked) :
    (generate catalog options store).1 = store.putAll artifacts ∧
      (generate catalog options store).2.outcome =
        .ok ⟨tools, artifacts.map Artifact.written⟩ := by
  obtain ⟨loaded, plan, hload, htools, hplan, hartifacts⟩ := hrenders
  have hprepared := outcome_prepare_eq_ok_iff.mpr ⟨htools, plan, hplan, hartifacts⟩
  obtain ⟨hstore, houtcome⟩ := writeAll_of_free hfree
  simp [generate, hload, hprepared, hstore, houtcome, Except.map]

/-- The artifacts that a run reports stand afterwards unless both have one path and differ, and with
the fragments that come with the program unless both have one path.  Whatever the paths, each of
them was emitted with the reported size, and the last one stands. -/
theorem stands_iff_of_generate {catalog : Catalog} {options : Options} {store : Store}
    {report : Report} (h : (generate catalog options store).2.outcome = .ok report) :
    ∃ loaded plan, load store options.configPath = .ok loaded ∧
      Plan.ofConfig loaded.config ⟨options.configPath, loaded.digest⟩ = .ok plan ∧
      report.artifacts.map (fun written => (written.kind, written.path)) = options.outputs ∧
      (∀ written ∈ report.artifacts, ∃ text,
        plan.emit (catalog written.kind) written.kind written.path = .ok text ∧
          written.bytes = text.utf8ByteSize) ∧
      (∀ written ∈ report.artifacts.getLast?,
        written.Stands catalog plan (generate catalog options store).1) ∧
      ((∀ written ∈ report.artifacts,
          written.Stands catalog plan (generate catalog options store).1) ↔
        options.AgreeWhereShared catalog plan) ∧
      (catalog = .builtIn →
        ((∀ written ∈ report.artifacts,
            written.Stands catalog plan (generate catalog options store).1) ↔
          (options.makefilePath = options.dockerfilePath → options.dockerfilePath = ""))) := by
  have heffect := effect_generate catalog options store
  rw [h] at heffect
  generalize (generate catalog options store).1 = after at heffect ⊢
  cases heffect with
  | @finished tools artifacts hrenders hfree =>
      obtain ⟨loaded, plan, hload, -, hplan, houtputs, hemit⟩ := hrenders
      obtain ⟨draft, hcheck⟩ := exists_check_of_load hload
      have hstands : (∀ written ∈ artifacts.map Artifact.written,
          written.Stands catalog plan (store.putAll artifacts)) ↔
            options.AgreeWhereShared catalog plan := by
        rw [← forall_content_eq_iff houtputs hemit, ← Store.forall_get?_putAll_iff,
          List.forall_mem_map]
        exact forall₂_congr fun artifact hmem => Artifact.stands_written_iff (hemit artifact hmem)
      refine ⟨loaded, plan, hload, hplan, ?_, ?_, ?_, hstands, ?_⟩
      · rw [List.map_map]
        exact houtputs
      · refine List.forall_mem_map.mpr fun artifact hmem => ?_
        exact ⟨artifact.content, hemit artifact hmem, rfl⟩
      · intro written hlast
        rw [List.getLast?_map] at hlast
        obtain ⟨artifact, hfinal, rfl⟩ := Option.map_eq_some_iff.mp hlast
        obtain ⟨earlier, rfl⟩ := List.getLast?_eq_some_iff.mp hfinal
        rw [Artifact.stands_written_iff (hemit artifact (by simp))]
        exact Store.get?_putAll_append_cons (by simp) store earlier
      · rintro rfl
        rw [hstands]
        exact agreeWhereShared_builtIn_iff
          (emit_eq_text_of_mem_outputs hcheck hplan houtputs hemit)

/-- A manifest without tools. -/
def Store.bare : Store := ⟨.ofList [("make-env.yaml", "")], []⟩

/-- What the check makes of a manifest without tools. -/
def Config.bare : Config :=
  { vars := .empty, localBinVar := "LOCALBIN", tools := .empty, toolSets := .empty
    commands := {}, dockerfile := {} }

theorem check_bare : ({} : Draft).check = .ok Config.bare := by
  have hok : ({} : Draft).check.toOption = some Config.bare := by decide +kernel
  exact Engine.exists_eq_ok_of_toOption hok

theorem load_bare : load Store.bare "make-env.yaml" = .ok ⟨Config.bare, (Digest.ofText "")⟩ := by
  have hload : (load Store.bare "make-env.yaml").toOption =
      some ⟨Config.bare, (Digest.ofText "")⟩ := by decide +kernel
  exact Engine.exists_eq_ok_of_toOption hload

/-- The artifacts that the fragments of the program make of a plan. -/
def Plan.artifacts (plan : Plan) (options : Options) : List Artifact :=
  options.outputs.map (fun output => ⟨output.1, output.2, plan.text output.1 output.2⟩)

/-- Without tools there is nothing to render that could fail. -/
theorem exists_generate_bare (makefilePath dockerfilePath : String) :
    ∃ plan, Plan.ofConfig Config.bare ⟨"make-env.yaml", Digest.ofText ""⟩ = .ok plan ∧
      (generate Catalog.builtIn ⟨"make-env.yaml", makefilePath, dockerfilePath⟩ Store.bare).1 =
        Store.bare.putAll (plan.artifacts ⟨"make-env.yaml", makefilePath, dockerfilePath⟩) ∧
      (generate Catalog.builtIn ⟨"make-env.yaml", makefilePath, dockerfilePath⟩
          Store.bare).2.outcome =
        .ok ⟨0, (plan.artifacts ⟨"make-env.yaml", makefilePath, dockerfilePath⟩).map
          Artifact.written⟩ := by
  obtain ⟨plan, hplan⟩ := (Draft.check_eq_ok_iff.mp check_bare).exists_plan
    ⟨"make-env.yaml", Digest.ofText ""⟩
  have htools : ∀ tool ∈ Config.bare.tools.values, ∀ source ∈ tool.installer.templates,
      tool.IsTemplated Config.bare source := by
    intro tool htool
    exact absurd htool (by simp [Config.bare, Dict.empty, Dict.values])
  refine ⟨plan, hplan, generate_of_renders ⟨_, plan, load_bare, rfl, hplan, ?_, ?_⟩ ?_⟩
  · simp [Plan.artifacts, Artifact.output, Function.comp_def]
  · refine List.forall_mem_map.mpr fun output _ => ?_
    exact (Draft.check_eq_ok_iff.mp check_bare).emit_eq_text hplan htools output.1 output.2
  · simp [Store.bare]

theorem stands_of_generate_bare :
    ∃ report plan, (generate Catalog.builtIn {} Store.bare).2.outcome = .ok report ∧
      Plan.ofConfig Config.bare ⟨"make-env.yaml", Digest.ofText ""⟩ = .ok plan ∧
      report.artifacts.length = 2 ∧
      ∀ written ∈ report.artifacts,
        written.Stands Catalog.builtIn plan (generate Catalog.builtIn {} Store.bare).1 := by
  obtain ⟨plan, hplan, -, houtcome⟩ :=
    exists_generate_bare "make-env.Makefile" "make-env.Dockerfile"
  obtain ⟨loaded, found, hload, hfound, -, -, -, -, hstands⟩ := stands_iff_of_generate houtcome
  obtain rfl := Except.ok.inj (load_bare.symm.trans hload)
  obtain rfl := Except.ok.inj (hplan.symm.trans hfound)
  exact ⟨_, plan, houtcome, hplan, rfl, (hstands rfl).mpr (by decide)⟩

/-- A run with one path for both artifacts reports both of them and leaves the second one only. -/
theorem not_stands_of_generate_bare :
    ∃ plan makefile dockerfile,
      Plan.ofConfig Config.bare ⟨"make-env.yaml", Digest.ofText ""⟩ = .ok plan ∧
      (generate Catalog.builtIn ⟨"make-env.yaml", "out", "out"⟩ Store.bare).2.outcome =
        .ok ⟨0, [makefile, dockerfile]⟩ ∧
      makefile.path = "out" ∧ dockerfile.path = "out" ∧
      ¬ makefile.Stands Catalog.builtIn plan
        (generate Catalog.builtIn ⟨"make-env.yaml", "out", "out"⟩ Store.bare).1 := by
  obtain ⟨plan, hplan, hstore, houtcome⟩ := exists_generate_bare "out" "out"
  have hartifacts : plan.artifacts ⟨"make-env.yaml", "out", "out"⟩ =
      [⟨.makefile, "out", plan.text .makefile "out"⟩,
        ⟨.dockerfile, "out", plan.text .dockerfile "out"⟩] := rfl
  rw [hartifacts] at hstore houtcome
  refine ⟨plan, _, _, hplan, houtcome, rfl, rfl, ?_⟩
  rintro ⟨text, hemit, hkept, -⟩
  have hmakefile : text = plan.text .makefile "out" :=
    (Draft.check_eq_ok_iff.mp check_bare).eq_text_of_emit hplan hemit
  have hdockerfile : some (plan.text .dockerfile "out") = some text := by
    rw [← hkept, hstore]
    simp [Artifact.written]
  exact plan.text_makefile_ne "out" "out" (hmakefile.symm.trans (Option.some.inj hdockerfile).symm)

end Provision
