import Mathlib.Data.List.Forall2
import Mathlib.Data.List.Nodup
import Provision.Json.Document
import Provision.Manifest.Decode
import Provision.Proofs.Dict

/-!
# The schema of manifests

The schema as data: which parts of a manifest are records, under which names they have fields, and
which parts are maps whose keys are names of the manifest's own.  Every record passes over members
that it has no name for, so a manifest with one more such member, wherever a record stands in it,
holds the same draft or none as before.
-/

namespace Provision

open Document

/-- What stands in some part of a manifest. -/
inductive Schema where
  /-- A value that is read as a whole. -/
  | value
  | record (fields : List (String × Schema))
  | map (values : Schema)

namespace Schema

def provided : Schema := .record [("default", .value)]

def zip : Schema := .record [("path", .value)]

def tar : Schema := .record [("compression", .value), ("path", .value)]

def fetch : Schema := .record [("url", .value), ("zip", zip), ("tar", tar)]

def pipx : Schema := .record [("package", .value), ("version", .value), ("app", .value)]

def go : Schema :=
  .record
    [("module", .value), ("subPath", .value), ("version", .value), ("env", .value),
      ("flags", .value)]

def maven : Schema := .record [("artifact", .value)]

def tool : Schema :=
  .record
    [("provided", provided), ("http", fetch), ("s3", fetch), ("pipx", pipx), ("go", go),
      ("maven", maven), ("vars", .value), ("dependsOn", .value)]

def commands : Schema :=
  .record
    [("go", .value), ("curl", .value), ("aws", .value), ("tar", .value), ("unzip", .value),
      ("mkdir", .value), ("chmod", .value), ("rm", .value), ("ln", .value), ("touch", .value),
      ("mv", .value), ("pipx", .value), ("mvn", .value), ("java", .value)]

def dockerfile : Schema :=
  .record
    [("fetchImage", .value), ("goImage", .value), ("pythonImage", .value),
      ("mavenImage", .value), ("s3Image", .value), ("stagePrefix", .value),
      ("finalStage", .value), ("finalImage", .value), ("preCopy", .value), ("postCopy", .value),
      ("installDir", .value)]

def manifest : Schema :=
  .record
    [("vars", .value), ("localBinVar", .value), ("tools", .map tool), ("toolSets", .value),
      ("commands", commands), ("dockerfile", dockerfile)]

end Schema

/-- A value that has one more member than another one, in a record and under a name that the record
does not have. -/
inductive Extended : Schema → Json → Json → Prop where
  | member {fields : List (String × Schema)} {before after : List (String × Json)} {key : String}
      (hkey : key ∉ fields.map Prod.fst) (value : Json) :
      Extended (.record fields) (.obj (before ++ after)) (.obj (before ++ (key, value) :: after))
  | field {fields : List (String × Schema)} {before after : List (String × Json)} {key : String}
      {schema : Schema} {v w : Json} (hfield : (key, schema) ∈ fields)
      (h : Extended schema v w) :
      Extended (.record fields) (.obj (before ++ (key, v) :: after))
        (.obj (before ++ (key, w) :: after))
  /-- A record may be written as an array of its fields. -/
  | item {fields : List (String × Schema)} {before after : List Json} {key : String}
      {schema : Schema} {v w : Json} (hfield : fields[before.length]? = some (key, schema))
      (h : Extended schema v w) :
      Extended (.record fields) (.arr (before ++ v :: after)) (.arr (before ++ w :: after))
  | entry {values : Schema} {before after : List (String × Json)} {key : String} {v w : Json}
      (h : Extended values v w) :
      Extended (.map values) (.obj (before ++ (key, v) :: after))
        (.obj (before ++ (key, w) :: after))

/-- Reading tells no value from one with one more member. -/
def PassesOver {α : Type} (schema : Schema) (read : Json → Option α) : Prop :=
  ∀ v w, Extended schema v w → read v = read w

/-! ## Fields of records -/

/-- Two fields of one name, with the same value or one that has a member more. -/
def SameField (fields : List (String × Schema)) (a b : String × Json) : Prop :=
  a.1 = b.1 ∧ (a.2 = b.2 ∨ ∃ schema, (a.1, schema) ∈ fields ∧ Extended schema a.2 b.2)

/-- What two records have that differ by a member. -/
structure SameFields (fields : List (String × Schema)) (fs gs : List (String × Json)) : Prop where
  nodup : (fields.map Prod.fst).Nodup
  forall₂ : List.Forall₂ (SameField fields) fs gs

section Records

variable {α : Type} {fields : List (String × Schema)} {fs gs : List (String × Json)}

theorem forall₂_sameField_self (fs : List (String × Json)) :
    List.Forall₂ (SameField fields) fs fs :=
  List.forall₂_same.mpr fun _ _ => ⟨rfl, Or.inl rfl⟩

theorem forall₂_sameField_append {before after : List (String × Json)} {a b : String × Json}
    (h : SameField fields a b) :
    List.Forall₂ (SameField fields) (before ++ a :: after) (before ++ b :: after) :=
  List.rel_append (forall₂_sameField_self before) (.cons h (forall₂_sameField_self after))

/-- A field of the schema stands at its own place of an array. -/
theorem zip_fields {before after : List Json} {field : String × Schema}
    (hfield : fields[before.length]? = some field) (value : Json) :
    (fields.map Prod.fst).zip (before ++ value :: after) =
      ((fields.take before.length).map Prod.fst).zip before ++
        (field.1, value) :: ((fields.drop (before.length + 1)).map Prod.fst).zip after := by
  obtain ⟨hlength, rfl⟩ := List.getElem?_eq_some_iff.mp hfield
  have hfront : ((fields.take before.length).map Prod.fst).length = before.length := by
    simp [Nat.le_of_lt hlength]
  have hsplit : fields.map Prod.fst =
      (fields.take before.length).map Prod.fst ++
        fields[before.length].1 :: (fields.drop (before.length + 1)).map Prod.fst := by
    rw [← List.map_cons, ← List.drop_eq_getElem_cons hlength, ← List.map_append,
      List.take_append_drop]
  rw [hsplit, List.zip_append hfront, List.zip_cons_cons]

/-- Records that differ by a member have the same fields, or both of them are none. -/
theorem recordFields?_of_extended {v w : Json} (h : Extended (.record fields) v w) :
    (Json.recordFields? (fields.map Prod.fst) v = none ∧
        Json.recordFields? (fields.map Prod.fst) w = none) ∨
      ∃ fs gs, Json.recordFields? (fields.map Prod.fst) v = some fs ∧
        Json.recordFields? (fields.map Prod.fst) w = some gs ∧
          List.Forall₂ (SameField fields) fs gs := by
  cases h with
  | member hkey value =>
      refine Or.inr ⟨_, _, rfl, rfl, ?_⟩
      rw [List.filter_append, List.filter_append, List.filter_cons_of_neg (by simpa using hkey)]
      exact forall₂_sameField_self _
  | @field _ before after key schema v w hfield h =>
      have hkey : key ∈ fields.map Prod.fst := List.mem_map_of_mem hfield
      refine Or.inr ⟨_, _, rfl, rfl, ?_⟩
      rw [List.filter_append, List.filter_append, List.filter_cons_of_pos (by simpa using hkey),
        List.filter_cons_of_pos (by simpa using hkey)]
      exact forall₂_sameField_append ⟨rfl, Or.inr ⟨schema, hfield, h⟩⟩
  | @item _ before after key schema v w hfield h =>
      simp only [Json.recordFields?, List.length_append, List.length_cons]
      split
      · refine Or.inr ⟨_, _, rfl, rfl, ?_⟩
        rw [zip_fields hfield, zip_fields hfield]
        exact forall₂_sameField_append
          ⟨rfl, Or.inr ⟨schema, List.mem_of_getElem? hfield, h⟩⟩
      · exact Or.inl ⟨rfl, rfl⟩

/-- A field of the schema is read alike from both. -/
theorem SameFields.field_eq (h : SameFields fields fs gs) {schema : Schema} (key : String)
    (hschema : fields.lookup key = some schema) {read : Json → Option α}
    (hread : PassesOver schema read) (default : α) :
    field fs key default read = field gs key default read := by
  obtain ⟨hnodup, hsame⟩ := h
  have hmem := (Dict.lookup_eq_some_iff hnodup).mp hschema
  induction hsame with
  | nil => rfl
  | @cons a b as bs hfirst _ ih =>
      obtain ⟨first, v⟩ := a
      obtain ⟨_, w⟩ := b
      obtain ⟨rfl, hvalue⟩ := hfirst
      rw [field, field] at ih ⊢
      rw [Dict.lookup_cons_eq_ite, Dict.lookup_cons_eq_ite]
      by_cases hkey : key = first
      · subst hkey
        rw [if_pos rfl, if_pos rfl]
        rcases hvalue with heq | ⟨other, hother, hextended⟩
        · exact congrArg read heq
        · have hone := List.inj_on_of_nodup_map hnodup hother hmem rfl
          rw [Prod.mk.injEq] at hone
          exact hread v w (hone.2 ▸ hextended)
      · rw [if_neg hkey, if_neg hkey]
        exact ih

theorem passesOver_value (read : Json → Option α) : PassesOver .value read := by
  intro v w h
  cases h

theorem SameFields.value_eq (h : SameFields fields fs gs) {key : String}
    (hschema : fields.lookup key = some .value) (read : Json → Option α) (default : α) :
    field fs key default read = field gs key default read :=
  h.field_eq key hschema (passesOver_value read) default

theorem PassesOver.record (hnodup : (fields.map Prod.fst).Nodup) {read : Json → Option α}
    {build : List (String × Json) → Option α}
    (hread : ∀ v, read v = (record? (fields.map Prod.fst) v).bind build)
    (hbuild : ∀ fs gs, SameFields fields fs gs → build fs = build gs) :
    PassesOver (.record fields) read := by
  intro v w h
  rw [hread, hread]
  change (Json.recordFields? _ v).bind build = (Json.recordFields? _ w).bind build
  rcases recordFields?_of_extended h with ⟨hv, hw⟩ | ⟨fs, gs, hv, hw, hsame⟩
  · rw [hv, hw]
  · rw [hv, hw, Option.bind_some, Option.bind_some]
    exact hbuild fs gs ⟨hnodup, hsame⟩

end Records

/-! ## Values, optional parts and maps -/

section Parts

variable {α : Type} {schema : Schema} {read : Json → Option α}

/-- What has members is not left open. -/
theorem PassesOver.optionally (h : PassesOver schema read) :
    PassesOver schema (Document.optionally read) := by
  intro v w hextended
  have hread : (read v).map some = (read w).map some := congrArg _ (h v w hextended)
  cases hextended <;> exact hread

theorem PassesOver.dictOf (h : PassesOver schema read) :
    PassesOver (.map schema) (Draft.dictOf read) := by
  intro v w hextended
  cases hextended with
  | @entry _ before after key v w hvalue =>
      have hentries : readEntries read (before ++ (key, v) :: after) =
          readEntries read (before ++ (key, w) :: after) := by
        induction before with
        | nil => simp [readEntries, h v w hvalue]
        | cons entry rest ih => simp [readEntries, ih]
      exact congrArg (fun entries => entries.map Dict.ofList) hentries

end Parts

/-! ## The parts of a manifest -/

theorem passesOver_readProvided : PassesOver .provided Draft.readProvided := by
  refine .record (by decide) (fun v => rfl) fun fs gs h => ?_
  simp (disch := simp [List.lookup_cons]) only [h.value_eq]

theorem passesOver_readZip : PassesOver .zip Draft.readZip := by
  refine .record (by decide) (fun v => rfl) fun fs gs h => ?_
  simp (disch := simp [List.lookup_cons]) only [h.value_eq]

theorem passesOver_readTar : PassesOver .tar Draft.readTar := by
  refine .record (by decide) (fun v => rfl) fun fs gs h => ?_
  simp (disch := simp [List.lookup_cons]) only [h.value_eq]

theorem passesOver_readFetch : PassesOver .fetch Draft.readFetch := by
  refine .record (by decide) (fun v => rfl) fun fs gs h => ?_
  simp (disch := simp [List.lookup_cons]) only [h.value_eq,
    h.field_eq "zip" rfl passesOver_readZip.optionally,
    h.field_eq "tar" rfl passesOver_readTar.optionally]

theorem passesOver_readPipx : PassesOver .pipx Draft.readPipx := by
  refine .record (by decide) (fun v => rfl) fun fs gs h => ?_
  simp (disch := simp [List.lookup_cons]) only [h.value_eq]

theorem passesOver_readGo : PassesOver .go Draft.readGo := by
  refine .record (by decide) (fun v => rfl) fun fs gs h => ?_
  simp (disch := simp [List.lookup_cons]) only [h.value_eq]

theorem passesOver_readMaven : PassesOver .maven Draft.readMaven := by
  refine .record (by decide) (fun v => rfl) fun fs gs h => ?_
  simp (disch := simp [List.lookup_cons]) only [h.value_eq]

theorem passesOver_readTool : PassesOver .tool Draft.readTool := by
  refine .record (by decide) (fun v => rfl) fun fs gs h => ?_
  simp (disch := simp [List.lookup_cons]) only [h.value_eq,
    h.field_eq "provided" rfl passesOver_readProvided.optionally,
    h.field_eq "http" rfl passesOver_readFetch.optionally,
    h.field_eq "s3" rfl passesOver_readFetch.optionally,
    h.field_eq "pipx" rfl passesOver_readPipx.optionally,
    h.field_eq "go" rfl passesOver_readGo.optionally,
    h.field_eq "maven" rfl passesOver_readMaven.optionally]

theorem passesOver_readCommands : PassesOver .commands Draft.readCommands := by
  refine .record (by decide) (fun v => rfl) fun fs gs h => ?_
  simp (disch := simp [List.lookup_cons]) only [h.value_eq]

theorem passesOver_readDockerfile : PassesOver .dockerfile Draft.readDockerfile := by
  refine .record (by decide) (fun v => rfl) fun fs gs h => ?_
  simp (disch := simp [List.lookup_cons]) only [h.value_eq]

/-- One more member in a record of a manifest, under a name that the record does not have, makes no
difference to the draft that the manifest holds. -/
theorem read?_eq_of_extended {manifest wider : Json}
    (h : Extended .manifest manifest wider) : Draft.read? manifest = Draft.read? wider := by
  have hpasses : PassesOver .manifest (Draft.read? : Json → Option Draft) := by
    refine .record (by decide) (fun v => rfl) fun fs gs h => ?_
    simp (disch := simp [List.lookup_cons]) only [h.value_eq,
      h.field_eq "tools" rfl passesOver_readTool.dictOf,
      h.field_eq "commands" rfl passesOver_readCommands,
      h.field_eq "dockerfile" rfl passesOver_readDockerfile]
  exact hpasses manifest wider h

/-- A manifest of one archived tool, with the given members in the section of the archive. -/
def Json.archived (members : List (String × Json)) : Json :=
  .obj [("tools", .obj [("jq", .obj [("http", .obj
    [("url", .str "https://example.org/jq.zip"), ("zip", .obj members)])])])]

/-- The section stands in the fetch of the tool, and the tool in the map of the tools. -/
theorem Extended.archived {members wider : List (String × Json)}
    (h : Extended .zip (.obj members) (.obj wider)) :
    Extended .manifest (Json.archived members) (Json.archived wider) := by
  refine @Extended.field _ [] [] "tools" (.map .tool) _ _ (.tail _ (.tail _ (.head _))) ?_
  refine @Extended.entry .tool [] [] "jq" _ _ ?_
  refine @Extended.field _ [] [] "http" .fetch _ _ (.tail _ (.head _)) ?_
  exact @Extended.field _ [("url", .str "https://example.org/jq.zip")] [] "zip" .zip _ _
    (.tail _ (.head _)) h

theorem read?_eq_of_extended_archived :
    Extended .manifest (Json.archived [("path", .str "bin/jq")])
        (Json.archived [("path", .str "bin/jq"), ("strip", .int 1)]) ∧
      Draft.read? (Json.archived [("path", .str "bin/jq")]) =
        Draft.read? (Json.archived [("path", .str "bin/jq"), ("strip", .int 1)]) ∧
      (Draft.read? (Json.archived [("path", .str "bin/jq")])).isSome = true := by
  have hzip : Extended .zip (.obj [("path", .str "bin/jq")])
      (.obj [("path", .str "bin/jq"), ("strip", .int 1)]) :=
    @Extended.member _ [("path", .str "bin/jq")] [] "strip" (by decide) (.int 1)
  exact ⟨hzip.archived, read?_eq_of_extended hzip.archived, rfl⟩

end Provision
