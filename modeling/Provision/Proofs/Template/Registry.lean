import Mathlib.Data.List.Sort
import Provision.Proofs.Dict
import Provision.Template.Engine

/-!
# What an engine keeps of a list of fragments

The fragments of a list are registered one by one.  The first one that is no template ends the
registration.  If all of them are templates, the engine has exactly the names of the list, and under
each of them the last fragment of that name.  As dictionaries with the same answers are equal, the
engine is the one of those last fragments alone, in whatever order they come.
-/

namespace Provision

/-- Dictionaries that answer alike for every key are equal. -/
theorem Dict.ext_get? {β : Type} {d e : Dict β} (h : ∀ key, d.get? key = e.get? key) : d = e := by
  have hnodup : ∀ dict : Dict β, dict.entries.Nodup :=
    fun dict => List.Nodup.of_map Prod.fst dict.keys_nodup
  have hmem : ∀ entry, entry ∈ d.entries ↔ entry ∈ e.entries := by
    intro entry
    rw [← Dict.get?_eq_some_iff, ← Dict.get?_eq_some_iff, h]
  have hperm : d.entries.Perm e.entries :=
    (List.perm_ext_iff_of_nodup (hnodup d) (hnodup e)).mpr hmem
  apply Dict.ext
  refine hperm.eq_of_pairwise (fun a b _ _ hlt hgt => ?_) d.increasing e.increasing
  exact absurd (String.lt_trans hlt hgt) (String.lt_irrefl a.1)

namespace Fragment

def IsTemplate (fragment : Fragment) : Prop := (Template.ofText? fragment.source).isSome = true

def names (fragments : List Fragment) : List String := fragments.map Fragment.name

/-- A fragment of a list that is no template, behind fragments that are. -/
def IsFirstBroken (fragments : List Fragment) (fragment : Fragment) : Prop :=
  ∃ before after, fragments = before ++ fragment :: after ∧
    (∀ other ∈ before, other.IsTemplate) ∧ ¬ fragment.IsTemplate

/-- The fragments of a list that no later fragment of their name replaces. -/
def latest : List Fragment → List Fragment
  | [] => []
  | fragment :: rest =>
      if fragment.name ∈ names rest then latest rest else fragment :: latest rest

theorem subset_latest (fragments : List Fragment) : latest fragments ⊆ fragments := by
  induction fragments with
  | nil => exact List.Subset.refl []
  | cons fragment rest ih =>
      rw [latest]
      split
      · exact List.Subset.trans ih (List.subset_cons_self fragment rest)
      · exact List.cons_subset_cons fragment ih

theorem mem_names_latest_iff {fragments : List Fragment} {name : String} :
    name ∈ names (latest fragments) ↔ name ∈ names fragments := by
  induction fragments with
  | nil => rfl
  | cons fragment rest ih =>
      rw [latest]
      split
      · next hlater =>
          rw [ih]
          constructor
          · exact List.mem_cons_of_mem _
          · intro hmem
            rcases List.mem_cons.mp hmem with rfl | hrest
            · exact hlater
            · exact hrest
      · exact List.mem_cons.trans ((or_congr_right ih).trans List.mem_cons.symm)

theorem names_latest_nodup (fragments : List Fragment) : (names (latest fragments)).Nodup := by
  induction fragments with
  | nil => exact List.nodup_nil
  | cons fragment rest ih =>
      rw [latest]
      split
      · exact ih
      · next hlast =>
          exact List.nodup_cons.mpr ⟨fun hmem => hlast (mem_names_latest_iff.mp hmem), ih⟩

end Fragment

open Fragment

namespace Engine

variable {reference : String → String} {fragments : List Fragment} {d e : Dict Template}

/-! ## Registering a list -/

theorem register_cons {fragment : Fragment} {template : Template}
    (htemplate : Template.ofText? fragment.source = some template) (d : Dict Template)
    (rest : List Fragment) :
    register d (fragment :: rest) = register (d.insert fragment.name template) rest := by
  rw [register, htemplate]

theorem exists_register (h : ∀ fragment ∈ fragments, fragment.IsTemplate) (d : Dict Template) :
    ∃ e, register d fragments = .ok e := by
  induction fragments generalizing d with
  | nil => exact ⟨d, rfl⟩
  | cons fragment rest ih =>
      obtain ⟨template, htemplate⟩ := Option.isSome_iff_exists.mp (h fragment List.mem_cons_self)
      rw [register_cons htemplate]
      exact ih (fun other hother => h other (List.mem_cons_of_mem _ hother)) _

theorem register_of_isFirstBroken {fragment : Fragment} (h : IsFirstBroken fragments fragment)
    (d : Dict Template) : register d fragments = .error (.register fragment.name) := by
  obtain ⟨before, after, rfl, hbefore, hbroken⟩ := h
  induction before generalizing d with
  | nil => rw [List.nil_append, register, Option.not_isSome_iff_eq_none.mp hbroken]
  | cons first rest ih =>
      obtain ⟨template, htemplate⟩ :=
        Option.isSome_iff_exists.mp (hbefore first List.mem_cons_self)
      rw [List.cons_append, register_cons htemplate]
      exact ih _ (fun other hother => hbefore other (List.mem_cons_of_mem _ hother))

theorem exists_isFirstBroken (h : ∃ fragment ∈ fragments, ¬ fragment.IsTemplate) :
    ∃ fragment, IsFirstBroken fragments fragment := by
  induction fragments with
  | nil => simp at h
  | cons first rest ih =>
      by_cases hfirst : first.IsTemplate
      · obtain ⟨broken, hmem, hbroken⟩ := h
        have hrest : broken ∈ rest := by
          refine (List.mem_cons.mp hmem).resolve_left fun heq => ?_
          exact hbroken (heq ▸ hfirst)
        obtain ⟨fragment, before, after, rfl, hbefore, hfragment⟩ := ih ⟨broken, hrest, hbroken⟩
        exact ⟨fragment, first :: before, after, rfl,
          List.forall_mem_cons.mpr ⟨hfirst, hbefore⟩, hfragment⟩
      · exact ⟨first, [], rest, rfl, by simp, hfirst⟩

/-- Either all fragments of a list are templates, or there is a first one that is not. -/
theorem forall_isTemplate_or (fragments : List Fragment) :
    (∀ fragment ∈ fragments, fragment.IsTemplate) ∨
      ∃ fragment, IsFirstBroken fragments fragment := by
  by_cases h : ∃ fragment ∈ fragments, ¬ fragment.IsTemplate
  · exact Or.inr (exists_isFirstBroken h)
  · exact Or.inl fun fragment hmem => by_contra fun hbroken => h ⟨fragment, hmem, hbroken⟩

theorem isTemplate_of_register (h : register d fragments = .ok e) :
    ∀ fragment ∈ fragments, fragment.IsTemplate := by
  rcases forall_isTemplate_or fragments with hall | ⟨fragment, hbroken⟩
  · exact hall
  · rw [register_of_isFirstBroken hbroken] at h
    contradiction

/-- What is registered under a name afterwards: the last fragment of that name, or what was there
before. -/
theorem get?_register (h : register d fragments = .ok e) :
    (∀ fragment ∈ latest fragments, e.get? fragment.name = Template.ofText? fragment.source) ∧
      ∀ name, name ∉ names fragments → e.get? name = d.get? name := by
  induction fragments generalizing d with
  | nil =>
      cases h
      exact ⟨by simp [latest], fun _ _ => rfl⟩
  | cons first rest ih =>
      obtain ⟨template, htemplate⟩ :=
        Option.isSome_iff_exists.mp (isTemplate_of_register h first List.mem_cons_self)
      rw [register_cons htemplate] at h
      obtain ⟨hlatest, hothers⟩ := ih h
      constructor
      · rw [latest]
        split
        · exact hlatest
        · next hlast =>
            refine List.forall_mem_cons.mpr ⟨?_, hlatest⟩
            rw [hothers _ hlast, Dict.get?_insert, if_pos rfl, htemplate]
      · intro name hname
        obtain ⟨hfirst, hrest⟩ := not_or.mp (fun hor => hname (List.mem_cons.mpr hor))
        rw [hothers name hrest, Dict.get?_insert, if_neg hfirst]

/-! ## The engine of a list -/

theorem ofFragments_eq_ok_iff {engine : Engine} :
    ofFragments reference fragments = .ok engine ↔
      engine.reference = reference ∧ register .empty fragments = .ok engine.fragments := by
  obtain ⟨other, registered⟩ := engine
  unfold ofFragments
  cases register .empty fragments with
  | error err => simp
  | ok found => simp [eq_comm]

/-- A fragment is what its last source in the list says. -/
theorem fragment?_of_mem_latest {engine : Engine}
    (hok : ofFragments reference fragments = .ok engine) {fragment : Fragment}
    (hmem : fragment ∈ latest fragments) :
    engine.fragment? fragment.name = Template.ofText? fragment.source :=
  (get?_register (ofFragments_eq_ok_iff.mp hok).2).1 fragment hmem

theorem fragment?_of_notMem {engine : Engine}
    (hok : ofFragments reference fragments = .ok engine) {name : String}
    (hname : name ∉ names fragments) : engine.fragment? name = none :=
  (get?_register (ofFragments_eq_ok_iff.mp hok).2).2 name hname

theorem hasFragment_iff {engine : Engine} (hok : ofFragments reference fragments = .ok engine)
    (name : String) : engine.hasFragment name = true ↔ name ∈ names fragments := by
  rw [hasFragment]
  constructor
  · intro hsome
    by_contra hname
    rw [fragment?_of_notMem hok hname] at hsome
    contradiction
  · intro hname
    obtain ⟨fragment, hmem, rfl⟩ := List.mem_map.mp (mem_names_latest_iff.mpr hname)
    rw [fragment?_of_mem_latest hok hmem]
    exact isTemplate_of_register (ofFragments_eq_ok_iff.mp hok).2 _ (subset_latest _ hmem)

theorem render_eq_notFound_iff {engine : Engine} {name : String} {context : Template.Value} :
    engine.render name context = .error (.notFound name) ↔ engine.hasFragment name = false := by
  rw [render, hasFragment]
  cases engine.fragment? name with
  | none => simp
  | some template =>
      simp only [Option.isSome_some, Bool.true_eq_false, iff_false]
      split <;> simp

/-- Which fragments of a list are replaced, and in which order the others come, does not matter. -/
theorem ofFragments_eq_of_perm {engine : Engine}
    (hok : ofFragments reference fragments = .ok engine) {entries : List Fragment}
    (hperm : entries.Perm (latest fragments)) : ofFragments reference entries = .ok engine := by
  have hregister := (ofFragments_eq_ok_iff.mp hok).2
  have htemplates : ∀ fragment ∈ entries, fragment.IsTemplate := fun fragment hmem =>
    isTemplate_of_register hregister fragment (subset_latest fragments (hperm.subset hmem))
  obtain ⟨registered, hregistered⟩ := exists_register htemplates .empty
  have hentries : ofFragments reference entries = .ok ⟨reference, registered⟩ :=
    ofFragments_eq_ok_iff.mpr ⟨rfl, hregistered⟩
  have hlatest : ∀ fragment ∈ latest fragments, fragment ∈ latest entries := by
    intro fragment hmem
    have hname := mem_names_latest_iff.mpr (List.mem_map_of_mem (hperm.symm.subset hmem))
    obtain ⟨other, hother, hsame⟩ := List.mem_map.mp hname
    have hnodup : (names (latest fragments)).Nodup := names_latest_nodup fragments
    have heq := List.inj_on_of_nodup_map hnodup (hperm.subset (subset_latest _ hother)) hmem hsame
    exact heq ▸ hother
  have hfound : ∀ name, registered.get? name = engine.fragments.get? name := by
    intro name
    by_cases hname : name ∈ names fragments
    · obtain ⟨fragment, hmem, rfl⟩ := List.mem_map.mp (mem_names_latest_iff.mpr hname)
      exact (fragment?_of_mem_latest hentries (hlatest fragment hmem)).trans
        (fragment?_of_mem_latest hok hmem).symm
    · have hother : name ∉ names entries := by
        intro hmem
        exact hname (mem_names_latest_iff.mp ((hperm.map Fragment.name).subset hmem))
      exact (fragment?_of_notMem hentries hother).trans (fragment?_of_notMem hok hname).symm
  rw [hentries, Dict.ext_get? hfound, ← (ofFragments_eq_ok_iff.mp hok).1]

/-- Registration fails exactly at a fragment that is no template and names the first one.  An engine
has exactly the names of its list, and renders like that of the last fragments of each name. -/
theorem ofFragments_overrides (reference : String → String) (fragments : List Fragment) :
    ((∃ err, ofFragments reference fragments = .error err) ↔
        ∃ fragment ∈ fragments, ¬ fragment.IsTemplate) ∧
      (∀ err, ofFragments reference fragments = .error err →
        ∃ fragment, IsFirstBroken fragments fragment ∧ err = .register fragment.name) ∧
      ∀ engine, ofFragments reference fragments = .ok engine →
        (∀ name, engine.hasFragment name = true ↔ name ∈ names fragments) ∧
        (∀ name context,
          engine.render name context = .error (.notFound name) ↔ name ∉ names fragments) ∧
        ∀ entries : List Fragment, entries.Perm (latest fragments) →
          ∃ other, ofFragments reference entries = .ok other ∧
            (∀ name context, other.render name context = engine.render name context) ∧
            ∀ source context, other.renderText source context = engine.renderText source context := by
  have hbroken : ∀ fragment, IsFirstBroken fragments fragment →
      ofFragments reference fragments = .error (.register fragment.name) := by
    intro fragment h
    rw [ofFragments, register_of_isFirstBroken h]
  refine ⟨⟨?_, ?_⟩, ?_, ?_⟩
  · rintro ⟨err, herror⟩
    rcases forall_isTemplate_or fragments with hall | ⟨fragment, before, after, rfl, -, hfragment⟩
    · obtain ⟨registered, hregistered⟩ := exists_register hall .empty
      rw [ofFragments, hregistered] at herror
      contradiction
    · exact ⟨fragment, by simp, hfragment⟩
  · intro h
    obtain ⟨fragment, hfragment⟩ := exists_isFirstBroken h
    exact ⟨_, hbroken fragment hfragment⟩
  · intro err herror
    rcases forall_isTemplate_or fragments with hall | ⟨fragment, hfragment⟩
    · obtain ⟨registered, hregistered⟩ := exists_register hall .empty
      rw [ofFragments, hregistered] at herror
      contradiction
    · rw [hbroken fragment hfragment, Except.error.injEq] at herror
      exact ⟨fragment, hfragment, herror.symm⟩
  · intro engine hok
    refine ⟨hasFragment_iff hok, fun name context => ?_, fun entries hperm => ?_⟩
    · rw [render_eq_notFound_iff, Bool.eq_false_iff, ne_eq, hasFragment_iff hok]
    · exact ⟨engine, ofFragments_eq_of_perm hok hperm, fun _ _ => rfl, fun _ _ => rfl⟩

def titledPage : Fragment := ⟨"page", "<\x7b\x7b include('title', \x7b\x7d) \x7d\x7d>"⟩

/-- A shared fragment that a later one replaces, and a fragment that renders it. -/
def replacing : List Fragment :=
  [⟨"title", "shared"⟩, titledPage, ⟨"title", "own"⟩]

theorem ofFragments_overrides_replacing :
    ∃ engine, ofFragments id replacing = .ok engine ∧
      engine.hasFragment "page" = true ∧
      engine.render "cover" .missing = .error (.notFound "cover") ∧
      ∃ other, ofFragments id [⟨"title", "own"⟩, titledPage] = .ok other ∧
        ∀ name context, other.render name context = engine.render name context := by
  have htemplates : ∀ fragment ∈ replacing, fragment.IsTemplate := by
    unfold IsTemplate
    decide +kernel
  obtain ⟨hfails, -, hserves⟩ := ofFragments_overrides id replacing
  cases hok : ofFragments id replacing with
  | error err =>
      obtain ⟨fragment, hmem, hbroken⟩ := hfails.mp ⟨err, hok⟩
      exact absurd (htemplates fragment hmem) hbroken
  | ok engine =>
      obtain ⟨hhas, hmissing, hsame⟩ := hserves engine hok
      obtain ⟨other, hother, hrender, -⟩ :=
        hsame [⟨"title", "own"⟩, titledPage] (by decide)
      exact ⟨engine, rfl, (hhas "page").mpr (by decide),
        (hmissing "cover" .missing).mpr (by decide), other, hother, hrender⟩

end Engine
end Provision
