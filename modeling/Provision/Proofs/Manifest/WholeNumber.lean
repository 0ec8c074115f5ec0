import Provision.Proofs.Decimal.Word
import Provision.Proofs.Manifest.Schema
import Provision.Proofs.Template.Record
import Provision.Toml.Document
import Provision.Yaml.Document

/-!
# Whole numbers in a manifest

A manifest may have a number where a text is asked for, and five parts of it take any single value.
What the draft has there is the text of the value.  For a whole number of the signed range that is
its numeral.  A greater one of the unsigned range is read as a binary fraction first, so it is its
own numeral only if it is the shortest decimal of that fraction.
-/

namespace Provision

open Decimal Document Draft

/-! ## Places of single values -/

def Schema.names : Schema → List String
  | .record fields => fields.map Prod.fst
  | _ => []

namespace Document

variable {ν : Type} [Document ν]

def fieldAt? (schema : Schema) (key : String) (value : ν) : Option ν :=
  (record? schema.names value).bind (·.lookup key)

/-- The entry of a map that holds: the last one of its key. -/
def entryAt? (key : String) (value : ν) : Option ν :=
  (map? value).bind (·.reverse.lookup key)

/-- What stands in an optional part. -/
def present? (value : ν) : Option ν := (optional? value).join

end Document

/-- Where a manifest takes any single value for a text. -/
inductive Place where
  | sharedVar (key : String)
  | toolVar (tool key : String)
  | goEnv (tool key : String)
  | goVersion (tool : String)
  | pipxVersion (tool : String)

namespace Place

/-- The value that a manifest has in a place. -/
def value? {ν : Type} [Document ν] (manifest : ν) : Place → Option ν
  | .sharedVar key => do entryAt? key (← present? (← fieldAt? .manifest "vars" manifest))
  | .toolVar tool key => do
      entryAt? key (← present? (← fieldAt? .tool "vars" (← tool? tool)))
  | .goEnv tool key => do entryAt? key (← present? (← fieldAt? .go "env" (← go? tool)))
  | .goVersion tool => do fieldAt? .go "version" (← go? tool)
  | .pipxVersion tool => do fieldAt? .pipx "version" (← pipx? tool)
where
  tool? (name : String) : Option ν := do entryAt? name (← fieldAt? .manifest "tools" manifest)
  go? (name : String) : Option ν := do present? (← fieldAt? .tool "go" (← tool? name))
  pipx? (name : String) : Option ν := do present? (← fieldAt? .tool "pipx" (← tool? name))

/-- The text that a draft has in a place. -/
def text? (draft : Draft) : Place → Option String
  | .sharedVar key => draft.vars.get? key
  | .toolVar tool key => (draft.tools.get? tool).bind (·.vars.get? key)
  | .goEnv tool key => (go? tool).bind (·.env.get? key)
  | .goVersion tool => (go? tool).bind (·.version)
  | .pipxVersion tool => (pipx? tool).bind (·.version)
where
  go? (name : String) : Option Draft.Go := (draft.tools.get? name).bind (·.go)
  pipx? (name : String) : Option Draft.Pipx := (draft.tools.get? name).bind (·.pipx)

end Place

/-! ## What is read in a place -/

section Parts

variable {ν α : Type} {read : ν → Option α} {key : String} {value part : ν}

theorem forall₂_readEntries {entries : List (String × ν)} {images : List (String × α)}
    (h : readEntries read entries = some images) :
    List.Forall₂ (fun entry image => entry.1 = image.1 ∧ read entry.2 = some image.2) entries
      images := by
  induction entries generalizing images with
  | nil =>
      cases h
      exact .nil
  | cons entry rest ih =>
      rw [readEntries] at h
      split at h
      · next himage hothers =>
          cases h
          exact .cons ⟨rfl, himage⟩ (ih hothers)
      · cases h

theorem exists_lookup_of_forall₂ {entries : List (String × ν)} {images : List (String × α)}
    (h : List.Forall₂ (fun entry image => entry.1 = image.1 ∧ read entry.2 = some image.2) entries
      images)
    (hpart : entries.lookup key = some part) :
    ∃ x, read part = some x ∧ images.lookup key = some x := by
  induction h with
  | nil => cases hpart
  | @cons entry image _ _ hfirst _ ih =>
      obtain ⟨first, value⟩ := entry
      obtain ⟨_, x⟩ := image
      obtain ⟨rfl, hread⟩ := hfirst
      rw [Dict.lookup_cons_eq_ite] at hpart ⊢
      by_cases hkey : key = first
      · rw [if_pos hkey] at hpart ⊢
        cases hpart
        exact ⟨x, hread, rfl⟩
      · rw [if_neg hkey] at hpart ⊢
        exact ih hpart

variable [Document ν]

theorem exists_of_dictOf {d : Dict α} (h : dictOf read value = some d)
    (hpart : entryAt? key value = some part) :
    ∃ x, read part = some x ∧ d.get? key = some x := by
  obtain ⟨entries, hentries, hmap⟩ := Option.bind_eq_some_iff.mp h
  obtain ⟨images, himages, rfl⟩ := Option.map_eq_some_iff.mp hmap
  rw [entryAt?, hentries, Option.bind_some] at hpart
  have hreverse := List.forall₂_reverse_iff.mpr (forall₂_readEntries himages)
  rw [Dict.get?_ofList]
  exact exists_lookup_of_forall₂ hreverse hpart

theorem exists_of_optionally {x : Option α} (h : optionally read value = some x)
    (hpart : present? value = some part) : ∃ y, read part = some y ∧ x = some y := by
  have hopen : optional? value = some (some part) := Option.join_eq_some_iff.mp hpart
  rw [optionally, hopen] at h
  obtain ⟨y, hy, rfl⟩ := Option.map_eq_some_iff.mp h
  exact ⟨y, hy, rfl⟩

theorem get?_of_scalarDict {d : Dict String} (h : scalarDict value = some d)
    {inner : ν} (hinner : present? value = some inner) (hpart : entryAt? key inner = some part) :
    d.get? key = scalarText part := by
  obtain ⟨x, hx, rfl⟩ := Option.map_eq_some_iff.mp h
  obtain ⟨texts, htexts, rfl⟩ := exists_of_optionally hx hinner
  obtain ⟨text, htext, hget⟩ := exists_of_dictOf htexts hpart
  rw [htext]
  exact hget

theorem of_fieldAt? {schema : Schema} {fields : List (String × ν)} {default x : α}
    (hfields : record? schema.names value = some fields)
    (hpart : fieldAt? schema key value = some part)
    (h : field fields key default read = some x) : read part = some x := by
  rw [fieldAt?, hfields, Option.bind_some] at hpart
  rwa [field, hpart] at h

end Parts

section Records

variable {ν : Type} [Document ν] {value : ν}

theorem fields_of_read? {draft : Draft} (h : Draft.read? value = some draft) :
    ∃ fields, record? Schema.manifest.names value = some fields ∧
      field fields "vars" .empty scalarDict = some draft.vars ∧
        field fields "tools" .empty (dictOf readTool) = some draft.tools := by
  simp only [Draft.read?, Option.bind_eq_bind, Option.bind_eq_some_iff, Option.pure_def,
    Option.some.injEq] at h
  obtain ⟨fields, hfields, vars, hvars, localBinVar, -, tools, htools, -, -, -, -, -, -, rfl⟩ := h
  exact ⟨fields, hfields, hvars, htools⟩

theorem fields_of_readTool {tool : Draft.Tool} (h : readTool value = some tool) :
    ∃ fields, record? Schema.tool.names value = some fields ∧
      field fields "pipx" none (optionally readPipx) = some tool.pipx ∧
        field fields "go" none (optionally readGo) = some tool.go ∧
          field fields "vars" .empty scalarDict = some tool.vars := by
  simp only [readTool, Option.bind_eq_bind, Option.bind_eq_some_iff, Option.pure_def,
    Option.some.injEq] at h
  obtain ⟨fields, hfields, -, -, -, -, -, -, pipx, hpipx, go, hgo, -, -, vars, hvars, -, -, rfl⟩ :=
    h
  exact ⟨fields, hfields, hpipx, hgo, hvars⟩

theorem fields_of_readGo {go : Draft.Go} (h : readGo value = some go) :
    ∃ fields, record? Schema.go.names value = some fields ∧
      field fields "version" none optionalScalar = some go.version ∧
        field fields "env" .empty scalarDict = some go.env := by
  simp only [readGo, Option.bind_eq_bind, Option.bind_eq_some_iff, Option.pure_def,
    Option.some.injEq] at h
  obtain ⟨fields, hfields, -, -, -, -, version, hversion, env, henv, -, -, rfl⟩ := h
  exact ⟨fields, hfields, hversion, henv⟩

theorem fields_of_readPipx {pipx : Draft.Pipx} (h : readPipx value = some pipx) :
    ∃ fields, record? Schema.pipx.names value = some fields ∧
      field fields "version" none optionalScalar = some pipx.version := by
  simp only [readPipx, Option.bind_eq_bind, Option.bind_eq_some_iff, Option.pure_def,
    Option.some.injEq] at h
  obtain ⟨fields, hfields, -, -, version, hversion, -, -, rfl⟩ := h
  exact ⟨fields, hfields, hversion⟩

section Tools

variable {draft : Draft} {manifest : ν} (h : Draft.read? manifest = some draft) {name : String}

include h

theorem exists_tool_of_read? (hvalue : Place.value?.tool? manifest name = some value) :
    ∃ tool, readTool value = some tool ∧ draft.tools.get? name = some tool := by
  obtain ⟨fields, hfields, -, htools⟩ := fields_of_read? h
  obtain ⟨part, hpart, hentry⟩ := Option.bind_eq_some_iff.mp hvalue
  exact exists_of_dictOf (of_fieldAt? hfields hpart htools) hentry

theorem exists_go_of_read? (hvalue : Place.value?.go? manifest name = some value) :
    ∃ go, readGo value = some go ∧ Place.text?.go? draft name = some go := by
  simp only [Place.value?.go?, Option.bind_eq_bind, Option.bind_eq_some_iff] at hvalue
  obtain ⟨written, hwritten, part, hpart, hpresent⟩ := hvalue
  obtain ⟨tool, htool, hname⟩ := exists_tool_of_read? h hwritten
  obtain ⟨fields, hfields, -, hgo, -⟩ := fields_of_readTool htool
  rw [Place.text?.go?, hname, Option.bind_some]
  exact exists_of_optionally (of_fieldAt? hfields hpart hgo) hpresent

theorem exists_pipx_of_read? (hvalue : Place.value?.pipx? manifest name = some value) :
    ∃ pipx, readPipx value = some pipx ∧ Place.text?.pipx? draft name = some pipx := by
  simp only [Place.value?.pipx?, Option.bind_eq_bind, Option.bind_eq_some_iff] at hvalue
  obtain ⟨written, hwritten, part, hpart, hpresent⟩ := hvalue
  obtain ⟨tool, htool, hname⟩ := exists_tool_of_read? h hwritten
  obtain ⟨fields, hfields, hpipx, -, -⟩ := fields_of_readTool htool
  rw [Place.text?.pipx?, hname, Option.bind_some]
  exact exists_of_optionally (of_fieldAt? hfields hpart hpipx) hpresent

end Tools

theorem scalarText_of_optionalScalar {x : Option String} (h : optionalScalar value = some x)
    (hopen : optional? value = some (some value)) : scalarText value = x := by
  obtain ⟨text, htext, rfl⟩ := exists_of_optionally h (Option.join_eq_some_iff.mpr hopen)
  exact htext

/-- A draft has in every place the text of the value that the manifest has there. -/
theorem Place.text?_of_read? {draft : Draft} {manifest : ν} (h : Draft.read? manifest = some draft)
    (place : Place) (hvalue : place.value? manifest = some value)
    (hopen : optional? value = some (some value)) : place.text? draft = scalarText value := by
  cases place with
  | sharedVar key =>
      simp only [Place.value?, Option.bind_eq_bind, Option.bind_eq_some_iff] at hvalue
      obtain ⟨part, hpart, inner, hinner, hentry⟩ := hvalue
      obtain ⟨fields, hfields, hvars, -⟩ := fields_of_read? h
      exact get?_of_scalarDict (of_fieldAt? hfields hpart hvars) hinner hentry
  | toolVar name key =>
      simp only [Place.value?, Option.bind_eq_bind, Option.bind_eq_some_iff] at hvalue
      obtain ⟨written, hwritten, part, hpart, inner, hinner, hentry⟩ := hvalue
      obtain ⟨tool, htool, hname⟩ := exists_tool_of_read? h hwritten
      obtain ⟨fields, hfields, -, -, hvars⟩ := fields_of_readTool htool
      rw [Place.text?, hname, Option.bind_some]
      exact get?_of_scalarDict (of_fieldAt? hfields hpart hvars) hinner hentry
  | goEnv name key =>
      simp only [Place.value?, Option.bind_eq_bind, Option.bind_eq_some_iff] at hvalue
      obtain ⟨written, hwritten, part, hpart, inner, hinner, hentry⟩ := hvalue
      obtain ⟨go, hgo, hname⟩ := exists_go_of_read? h hwritten
      obtain ⟨fields, hfields, -, henv⟩ := fields_of_readGo hgo
      rw [Place.text?, hname, Option.bind_some]
      exact get?_of_scalarDict (of_fieldAt? hfields hpart henv) hinner hentry
  | goVersion name =>
      simp only [Place.value?, Option.bind_eq_bind, Option.bind_eq_some_iff] at hvalue
      obtain ⟨written, hwritten, hpart⟩ := hvalue
      obtain ⟨go, hgo, hname⟩ := exists_go_of_read? h hwritten
      obtain ⟨fields, hfields, hversion, -⟩ := fields_of_readGo hgo
      rw [Place.text?, hname, Option.bind_some]
      exact (scalarText_of_optionalScalar (of_fieldAt? hfields hpart hversion) hopen).symm
  | pipxVersion name =>
      simp only [Place.value?, Option.bind_eq_bind, Option.bind_eq_some_iff] at hvalue
      obtain ⟨written, hwritten, hpart⟩ := hvalue
      obtain ⟨pipx, hpipx, hname⟩ := exists_pipx_of_read? h hwritten
      obtain ⟨fields, hfields, hversion⟩ := fields_of_readPipx hpipx
      rw [Place.text?, hname, Option.bind_some]
      exact (scalarText_of_optionalScalar (of_fieldAt? hfields hpart hversion) hopen).symm

end Records

/-! ## Whole numbers -/

theorem fitsSigned_iff (n : Int) : fitsSigned 64 n = true ↔ -2 ^ 63 ≤ n ∧ n < 2 ^ 63 := by
  have hpower : (twoTo (64 - 1 : Nat) : Int) = 2 ^ 63 := rfl
  rw [fitsSigned, hpower, Bool.and_eq_true, decide_eq_true_eq, decide_eq_true_eq]

theorem fitsUnsigned_iff (n : Int) : fitsUnsigned 64 n = true ↔ 0 ≤ n ∧ n < 2 ^ 64 := by
  have hpower : (twoTo (64 : Nat) : Int) = 2 ^ 64 := rfl
  rw [fitsUnsigned, hpower, Bool.and_eq_true, decide_eq_true_eq, decide_eq_true_eq]

/-- What a format hands over for a whole number: an integer, or in YAML a plain scalar that stands
for one. -/
structure IsWhole {ν : Type} [Document ν] (value : ν) (n : Int) : Prop where
  scalar_eq : scalar? value = some (.ofInt n)
  optional_eq : optional? value = some (some value)

theorem isWhole_json (n : Int) : IsWhole (Json.int n) n := ⟨rfl, rfl⟩

theorem isWhole_toml (n : Int) : IsWhole (Toml.Node.int n) n := ⟨rfl, rfl⟩

theorem isWhole_yaml {value : Yaml.Value} {properties : Yaml.Properties} {text : List Char}
    {n : Int} (htarget : value.target = .scalar properties true text) (htag : properties.tag = none)
    (hresolve : Yaml.resolve text = .int n) (hlow : -2 ^ 63 ≤ n) (hhigh : n < 2 ^ 64) :
    IsWhole value n := by
  have hfits : (fitsSigned 64 n || fitsUnsigned 64 n) = true := by
    rw [Bool.or_eq_true, fitsSigned_iff, fitsUnsigned_iff]
    omega
  have hopen : ¬ (text = [] ∨ Yaml.isNullWord text = true) := by
    intro hnull
    rw [Yaml.resolve, if_pos hnull] at hresolve
    cases hresolve
  obtain ⟨anchor, _⟩ := properties
  subst htag
  constructor
  · change Yaml.Value.scalar? value = _
    simp [Yaml.Value.scalar?, htarget, Yaml.Value.localTag?, Yaml.Value.plainScalar?, hresolve,
      Yaml.Value.scalarOfInt?, hfits]
  · change Yaml.Value.optional? value = _
    rw [not_or] at hopen
    simp [Yaml.Value.optional?, htarget, hopen]

/-- The number whose numeral is read from a number. -/
def writtenWhole (n : Int) : Int := if n < 2 ^ 63 then n else shortestWord n.toNat

theorem natText_eq_toString_int (n : Nat) : natText n = toString (n : Int) := by
  rw [← intText_eq_toString, intText, if_neg (by omega), Int.natAbs_natCast]

theorem toText_ofInt {n : Int} (hlow : -2 ^ 63 ≤ n) (hhigh : n < 2 ^ 64) :
    (Scalar.ofInt n).toText = toString (writtenWhole n) := by
  have hsigned : fitsSigned 64 n = true ↔ n < 2 ^ 63 := by
    rw [fitsSigned_iff]
    omega
  rw [Scalar.ofInt, writtenWhole]
  by_cases hn : n < 2 ^ 63
  · rw [if_pos (hsigned.mpr hn), if_pos hn]
    exact intText_eq_toString n
  · rw [if_neg (mt hsigned.mp hn), if_neg hn, ← natText_eq_toString_int]
    obtain ⟨k, rfl⟩ := Int.eq_ofNat_of_zero_le (by omega : 0 ≤ n)
    exact text_ofInt_word (by omega) (by omega)

theorem toString_writtenWhole_eq_iff (n : Int) :
    toString (writtenWhole n) = toString n ↔ n < 2 ^ 63 ∨ IsShortest n.toNat := by
  rw [writtenWhole]
  by_cases hn : n < 2 ^ 63
  · rw [if_pos hn]
    exact iff_of_true rfl (Or.inl hn)
  · obtain ⟨k, rfl⟩ := Int.eq_ofNat_of_zero_le (by omega : 0 ≤ n)
    rw [if_neg hn, Int.toNat_natCast, ← natText_eq_toString_int, ← natText_eq_toString_int,
      natText_injective.eq_iff, shortestWord_eq_self_iff, or_iff_right hn]

/-- A whole number in any of the places is accepted, and its text is the numeral of a number that is
the same one exactly for the signed range and the shortest decimals beyond it. -/
theorem text_of_isWhole {ν : Type} [Document ν] {manifest value : ν} {place : Place} {n : Int}
    (hvalue : place.value? manifest = some value) (hwhole : IsWhole value n)
    (hlow : -2 ^ 63 ≤ n) (hhigh : n < 2 ^ 64) :
    ∃ text, scalarText value = some text ∧
      (∀ draft, Draft.read? manifest = some draft → place.text? draft = some text) ∧
      text = toString (writtenWhole n) ∧
      (text = toString n ↔ n < 2 ^ 63 ∨ IsShortest n.toNat) := by
  have htext : scalarText value = some (toString (writtenWhole n)) := by
    rw [scalarText, hwhole.scalar_eq, Option.map_some, toText_ofInt hlow hhigh]
  refine ⟨_, htext, fun draft hdraft => ?_, rfl, toString_writtenWhole_eq_iff n⟩
  rw [Place.text?_of_read? hdraft place hvalue hwhole.optional_eq, htext]

/-- A manifest with one shared variable. -/
def Json.counting (n : Int) : Json := .obj [("vars", .obj [("big", .int n)])]

theorem text_counting :
    ∃ text, scalarText (Json.int 18446744073709551615) = some text ∧
      (∀ draft, Draft.read? (Json.counting 18446744073709551615) = some draft →
        (Place.sharedVar "big").text? draft = some text) ∧
      text = toString (writtenWhole 18446744073709551615) ∧
      (text = toString (18446744073709551615 : Int) ↔
        (18446744073709551615 : Int) < 2 ^ 63 ∨
          IsShortest (18446744073709551615 : Int).toNat) :=
  text_of_isWhole rfl (isWhole_json _) (by decide) (by decide)

/-- The greatest word is rounded. -/
theorem not_kept_counting :
    (Draft.read? (Json.counting 18446744073709551615)).bind (Place.sharedVar "big").text? =
        some "18446744073709552000" ∧
      (Draft.read? (Json.counting 18446744073709551615)).bind (Place.sharedVar "big").text? ≠
        some (toString (18446744073709551615 : Int)) :=
  ⟨rfl, by decide⟩

end Provision
