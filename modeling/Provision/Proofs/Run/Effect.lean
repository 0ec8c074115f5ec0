import Provision.Proofs.Manifest.Check
import Provision.Run.Session

/-!
# What a run does to a store

A run renders all of its artifacts before it writes the first one.  So a store changes only when
everything could be rendered, and then by the artifacts in front of the first locked path, or by all
of them if no path is locked.  A session follows: whatever is asked of a store, a locked path keeps
its text until somebody puts another one there or unlocks it.
-/

namespace Provision

/-! ## Stores -/

namespace Store

variable {store : Store} {path : String} {artifacts : List Artifact}

/-- The store after artifacts were put, one after the other. -/
def putAll (store : Store) (artifacts : List Artifact) : Store :=
  artifacts.foldl (fun store artifact => store.put artifact.path artifact.content) store

@[simp] theorem putAll_nil (store : Store) : store.putAll [] = store := rfl

@[simp] theorem putAll_cons (store : Store) (artifact : Artifact) (artifacts : List Artifact) :
    store.putAll (artifact :: artifacts) =
      (store.put artifact.path artifact.content).putAll artifacts := rfl

@[simp] theorem get?_put (store : Store) (path other content : String) :
    (store.put path content).get? other = if other = path then some content else store.get? other :=
  Dict.get?_insert store.files path other content

@[simp] theorem locked_put (store : Store) (path content : String) :
    (store.put path content).locked = store.locked := rfl

theorem get?_putAll_of_notMem (h : path ∉ artifacts.map Artifact.path) :
    (store.putAll artifacts).get? path = store.get? path := by
  induction artifacts generalizing store with
  | nil => rfl
  | cons artifact rest ih =>
      rw [List.map_cons, List.mem_cons, not_or] at h
      simp [ih h.2, h.1]

theorem write_of_locked (h : path ∈ store.locked) (content : String) :
    Storage.write store path content = (store, some .readOnly) := by
  simp [Storage.write, write, isLocked, h]

theorem write_of_free (h : path ∉ store.locked) (content : String) :
    Storage.write store path content = (store.put path content, none) := by
  simp [Storage.write, write, isLocked, h]

end Store

/-! ## Writing -/

section Writing

variable {store : Store} {artifact : Artifact} {artifacts written : List Artifact}

theorem writeAll_of_free (h : ∀ artifact ∈ artifacts, artifact.path ∉ store.locked) :
    (writeAll store artifacts).1 = store.putAll artifacts ∧
      (writeAll store artifacts).2.outcome = .ok (artifacts.map Artifact.written) := by
  induction artifacts generalizing store with
  | nil => exact ⟨rfl, rfl⟩
  | cons first rest ih =>
      obtain ⟨hfirst, hrest⟩ := List.forall_mem_cons.mp h
      have hrest : ∀ artifact ∈ rest,
          artifact.path ∉ (store.put first.path first.content).locked := hrest
      obtain ⟨hstore, houtcome⟩ := ih hrest
      rw [writeAll, Store.write_of_free hfirst]
      exact ⟨hstore, by simp [houtcome, Except.map]⟩

theorem writeAll_of_locked (hwritten : ∀ artifact ∈ written, artifact.path ∉ store.locked)
    (hlocked : artifact.path ∈ store.locked) (later : List Artifact) :
    (writeAll store (written ++ artifact :: later)).1 = store.putAll written ∧
      (writeAll store (written ++ artifact :: later)).2.outcome =
        .error (.outputWrite artifact.path .readOnly) := by
  induction written generalizing store with
  | nil =>
      rw [List.nil_append, writeAll, Store.write_of_locked hlocked]
      exact ⟨rfl, rfl⟩
  | cons first rest ih =>
      obtain ⟨hfirst, hrest⟩ := List.forall_mem_cons.mp hwritten
      have hrest : ∀ artifact ∈ rest,
          artifact.path ∉ (store.put first.path first.content).locked := hrest
      have hlocked : artifact.path ∈ (store.put first.path first.content).locked := hlocked
      obtain ⟨hstore, houtcome⟩ := ih hrest hlocked
      rw [List.cons_append, writeAll, Store.write_of_free hfirst]
      exact ⟨hstore, by simp [houtcome, Except.map]⟩

end Writing

/-! ## Rendering -/

/-- The output that an artifact is for. -/
def Artifact.output (artifact : Artifact) : ArtifactKind × String :=
  (artifact.kind, artifact.path)

section Rendering

variable {catalog : Catalog} {options : Options} {plan : Plan} {loaded : Loaded}
  {artifacts : List Artifact}

section Outputs

variable {kind : ArtifactKind} {path : String}

theorem outcome_renderAll_cons_of_error {cause : TemplateError}
    (hemit : plan.emit (catalog kind) kind path = .error cause)
    (rest : List (ArtifactKind × String)) :
    (renderAll catalog plan ((kind, path) :: rest)).outcome =
      .error (.generate kind path cause) := by
  cases cause <;> simp [renderAll, hemit]

theorem outcome_renderAll_cons_of_ok {content : String}
    (hemit : plan.emit (catalog kind) kind path = .ok content)
    (rest : List (ArtifactKind × String)) :
    (renderAll catalog plan ((kind, path) :: rest)).outcome =
      (renderAll catalog plan rest).outcome.map (⟨kind, path, content⟩ :: ·) := by
  simp [renderAll, hemit]

end Outputs

/-- Renderings succeed together, with one artifact for each of the outputs. -/
theorem outcome_renderAll_eq_ok_iff {outputs : List (ArtifactKind × String)} :
    (renderAll catalog plan outputs).outcome = .ok artifacts ↔
      artifacts.map Artifact.output = outputs ∧ ∀ artifact ∈ artifacts,
        plan.emit (catalog artifact.kind) artifact.kind artifact.path = .ok artifact.content := by
  induction outputs generalizing artifacts with
  | nil =>
      rw [renderAll, List.map_eq_nil_iff]
      constructor
      · rintro ⟨⟩
        simp
      · rintro ⟨rfl, -⟩
        rfl
  | cons output rest ih =>
      obtain ⟨kind, path⟩ := output
      cases hemit : plan.emit (catalog kind) kind path with
      | error cause =>
          rw [outcome_renderAll_cons_of_error hemit]
          refine iff_of_false (by simp) ?_
          rintro ⟨houtputs, hall⟩
          obtain ⟨artifact, others, rfl, hfirst, -⟩ := List.map_eq_cons_iff.mp houtputs
          obtain ⟨rfl, rfl⟩ := Prod.mk.inj hfirst
          -- Artifacts for all outputs would have one for the output that failed.
          rw [hall artifact List.mem_cons_self] at hemit
          contradiction
      | ok content =>
          rw [outcome_renderAll_cons_of_ok hemit, Check.map_eq_ok_iff]
          constructor
          · rintro ⟨others, hothers, rfl⟩
            obtain ⟨houtputs, hall⟩ := ih.mp hothers
            refine ⟨?_, List.forall_mem_cons.mpr ⟨hemit, hall⟩⟩
            rw [List.map_cons, houtputs]
            rfl
          · rintro ⟨houtputs, hall⟩
            obtain ⟨first, others, rfl, hfirst, hothers⟩ := List.map_eq_cons_iff.mp houtputs
            obtain ⟨hthis, hall⟩ := List.forall_mem_cons.mp hall
            obtain ⟨rfl, rfl⟩ := Prod.mk.inj hfirst
            rw [hthis] at hemit
            cases hemit
            exact ⟨others, ih.mpr ⟨hothers, hall⟩, rfl⟩

theorem outcome_renderAll_ne (catalog : Catalog) (plan : Plan)
    (outputs : List (ArtifactKind × String)) (path : String) (fault : Fault) :
    (renderAll catalog plan outputs).outcome ≠ .error (.outputWrite path fault) := by
  induction outputs with
  | nil => simp [renderAll]
  | cons output rest ih =>
      obtain ⟨kind, target⟩ := output
      cases hemit : plan.emit (catalog kind) kind target with
      | error cause =>
          rw [outcome_renderAll_cons_of_error hemit]
          simp
      | ok content =>
          rw [outcome_renderAll_cons_of_ok hemit, ne_eq, Check.map_eq_error_iff]
          exact ih

theorem outcome_prepare_eq_ok_iff {tools : Nat} :
    (prepare catalog options loaded).outcome = .ok (tools, artifacts) ↔
      tools = loaded.config.tools.size ∧
        ∃ plan, Plan.ofConfig loaded.config ⟨options.configPath, loaded.digest⟩ = .ok plan ∧
          artifacts.map Artifact.output = options.outputs ∧ ∀ artifact ∈ artifacts,
            plan.emit (catalog artifact.kind) artifact.kind artifact.path =
              .ok artifact.content := by
  simp only [prepare]
  split
  · next hplan => simp [hplan]
  · next plan hplan =>
      simp only [hplan, Except.ok.injEq, exists_eq_left', ← outcome_renderAll_eq_ok_iff,
        Check.map_eq_ok_iff, Prod.mk.injEq]
      constructor
      · rintro ⟨found, hfound, rfl, rfl⟩
        exact ⟨rfl, hfound⟩
      · rintro ⟨rfl, hfound⟩
        exact ⟨artifacts, hfound, rfl, rfl⟩

theorem outcome_prepare_ne (path : String) (fault : Fault) :
    (prepare catalog options loaded).outcome ≠ .error (.outputWrite path fault) := by
  simp only [prepare]
  split
  · simp
  · next plan hplan =>
      rw [ne_eq, Check.map_eq_error_iff]
      exact outcome_renderAll_ne catalog plan options.outputs path fault

end Rendering

theorem load_ne (store : Store) (manifest path : String) (fault : Fault) :
    load store manifest ≠ .error (.outputWrite path fault) := by
  unfold load Loaded.ofText
  split
  · simp
  · split
    · simp
    · split <;> simp

/-! ## Runs -/

/-- The artifacts are what the manifest of a store comes to, one for each output, and the manifest
has so many tools. -/
def Store.Renders (store : Store) (catalog : Catalog) (options : Options) (tools : Nat)
    (artifacts : List Artifact) : Prop :=
  ∃ loaded plan, load store options.configPath = .ok loaded ∧ tools = loaded.config.tools.size ∧
    Plan.ofConfig loaded.config ⟨options.configPath, loaded.digest⟩ = .ok plan ∧
    artifacts.map Artifact.output = options.outputs ∧ ∀ artifact ∈ artifacts,
      plan.emit (catalog artifact.kind) artifact.kind artifact.path = .ok artifact.content

/-- How a run ends: the store afterwards and the outcome. -/
inductive Effect (catalog : Catalog) (options : Options) (store : Store) :
    Store → Except RunError Report → Prop where
  | unrendered {err : RunError} (hcause : ∀ path fault, err ≠ .outputWrite path fault)
      (hnone : ∀ tools artifacts, ¬ store.Renders catalog options tools artifacts) :
      Effect catalog options store store (.error err)
  | stopped {tools : Nat} {written later : List Artifact} {artifact : Artifact}
      (hrenders : store.Renders catalog options tools (written ++ artifact :: later))
      (hwritten : ∀ earlier ∈ written, earlier.path ∉ store.locked)
      (hlocked : artifact.path ∈ store.locked) :
      Effect catalog options store (store.putAll written)
        (.error (.outputWrite artifact.path .readOnly))
  | finished {tools : Nat} {artifacts : List Artifact}
      (hrenders : store.Renders catalog options tools artifacts)
      (hfree : ∀ artifact ∈ artifacts, artifact.path ∉ store.locked) :
      Effect catalog options store (store.putAll artifacts)
        (.ok ⟨tools, artifacts.map Artifact.written⟩)

section Runs

variable {catalog : Catalog} {options : Options} {store : Store}

theorem exists_first_locked {artifacts : List Artifact}
    (h : ¬ ∀ artifact ∈ artifacts, artifact.path ∉ store.locked) :
    ∃ written artifact later, artifacts = written ++ artifact :: later ∧
      (∀ earlier ∈ written, earlier.path ∉ store.locked) ∧ artifact.path ∈ store.locked := by
  have hsome : (artifacts.find? (fun artifact => store.locked.contains artifact.path)).isSome := by
    simpa [List.find?_isSome] using h
  obtain ⟨artifact, hfound⟩ := Option.isSome_iff_exists.mp hsome
  obtain ⟨hlocked, written, later, hsplit, hbefore⟩ := List.find?_eq_some_iff_append.mp hfound
  exact ⟨written, artifact, later, hsplit, by simpa using hbefore, by simpa using hlocked⟩

theorem effect_generate (catalog : Catalog) (options : Options) (store : Store) :
    Effect catalog options store (generate catalog options store).1
      (generate catalog options store).2.outcome := by
  cases hload : load store options.configPath with
  | error err =>
      have hrun : generate catalog options store = (store, ⟨[], .error err⟩) := by
        simp [generate, hload]
      rw [hrun]
      refine .unrendered ?_ ?_
      · rintro path fault rfl
        exact load_ne store _ path fault hload
      · rintro tools artifacts ⟨loaded, plan, hok, -⟩
        rw [hload] at hok
        contradiction
  | ok loaded =>
      cases hprepared : (prepare catalog options loaded).outcome with
      | error err =>
          have hrun : (generate catalog options store).1 = store ∧
              (generate catalog options store).2.outcome = .error err := by
            simp [generate, hload, hprepared]
          rw [hrun.1, hrun.2]
          refine .unrendered ?_ ?_
          · rintro path fault rfl
            exact outcome_prepare_ne path fault hprepared
          · rintro tools artifacts ⟨found, plan, hok, hrest⟩
            obtain rfl := Except.ok.inj (hload.symm.trans hok)
            obtain ⟨htools, hplan, hartifacts⟩ := hrest
            rw [outcome_prepare_eq_ok_iff.mpr ⟨htools, plan, hplan, hartifacts⟩] at hprepared
            contradiction
      | ok prepared =>
          obtain ⟨tools, artifacts⟩ := prepared
          have hrun : (generate catalog options store).1 = (writeAll store artifacts).1 ∧
              (generate catalog options store).2.outcome =
                (writeAll store artifacts).2.outcome.map (⟨tools, ·⟩) := by
            simp [generate, hload, hprepared]
          obtain ⟨htools, plan, hplan, hartifacts⟩ := outcome_prepare_eq_ok_iff.mp hprepared
          have hrenders : store.Renders catalog options tools artifacts :=
            ⟨loaded, plan, hload, htools, hplan, hartifacts⟩
          rw [hrun.1, hrun.2]
          -- Everything is rendered by now, so the locks alone decide how far the writing gets.
          by_cases hfree : ∀ artifact ∈ artifacts, artifact.path ∉ store.locked
          · obtain ⟨hstore, houtcome⟩ := writeAll_of_free hfree
            rw [hstore, houtcome]
            exact .finished hrenders hfree
          · obtain ⟨written, artifact, later, rfl, hwritten, hlocked⟩ := exists_first_locked hfree
            obtain ⟨hstore, houtcome⟩ := writeAll_of_locked hwritten hlocked later
            rw [hstore, houtcome]
            exact .stopped hrenders hwritten hlocked

namespace Effect

variable {after : Store} {outcome : Except RunError Report} {path : String}

end Effect

end Runs

/-! ## Sessions -/

namespace Store

variable {store : Store} {path : String}

end Store

/-- One fragment, the same for every kind of artifact. -/
def Catalog.plain : Catalog := fun _ => [⟨"main", "newer"⟩]

end Provision
