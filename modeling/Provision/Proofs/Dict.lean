import Mathlib.Data.List.Forall2
import Mathlib.Tactic.Common
import Provision.Dict

/-!
# Dictionaries as finite maps

What a dictionary answers for a key is decided by its entries.  The keys are
pairwise different, so an entry is found exactly when it is listed, and each
operation is described by what it does to the answers.
-/

namespace Provision
namespace Dict

variable {α β ε : Type}

theorem keys_increasing (d : Dict β) : d.keys.Pairwise (· < ·) :=
  List.pairwise_map.mpr d.increasing

theorem keys_nodup (d : Dict β) : d.keys.Nodup := by
  apply d.keys_increasing.imp
  intro a b hlt heq
  subst heq
  exact String.lt_irrefl a hlt

theorem lookup_cons_eq_ite (key first : String) (image : β) (rest : List (String × β)) :
    ((first, image) :: rest).lookup key = if key = first then some image else rest.lookup key := by
  by_cases hkey : key = first
  · simp [hkey]
  · have hbeq : (key == first) = false := by simpa using hkey
    simp [List.lookup_cons, hbeq, hkey]

theorem lookup_eq_some_iff {entries : List (String × β)}
    (hkeys : (entries.map Prod.fst).Nodup) {key : String} {value : β} :
    entries.lookup key = some value ↔ (key, value) ∈ entries := by
  induction entries with
  | nil => simp
  | cons entry rest ih =>
      obtain ⟨first, image⟩ := entry
      simp only [List.map_cons, List.nodup_cons] at hkeys
      by_cases hkey : key = first
      · subst key
        have hrest : (first, value) ∉ rest := by
          intro hmem
          exact hkeys.1 (List.mem_map.mpr ⟨_, hmem, rfl⟩)
        simp [hrest, eq_comm]
      · simp [lookup_cons_eq_ite, hkey, ih hkeys.2]

theorem get?_eq_some_iff {d : Dict β} {key : String} {value : β} :
    d.get? key = some value ↔ (key, value) ∈ d.entries :=
  lookup_eq_some_iff d.keys_nodup

theorem get?_eq_none_iff {d : Dict β} {key : String} :
    d.get? key = none ↔ key ∉ d.keys := by
  constructor
  · intro hnone hmem
    obtain ⟨entry, hentry, rfl⟩ := List.mem_map.mp hmem
    rw [get?_eq_some_iff.mpr hentry] at hnone
    contradiction
  · intro hmem
    by_contra hsome
    obtain ⟨value, hvalue⟩ := Option.ne_none_iff_exists'.mp hsome
    exact hmem (List.mem_map.mpr ⟨_, get?_eq_some_iff.mp hvalue, rfl⟩)

theorem exists_get?_of_mem_keys {d : Dict β} {key : String} (hmem : key ∈ d.keys) :
    ∃ value, d.get? key = some value := by
  obtain ⟨entry, hentry, rfl⟩ := List.mem_map.mp hmem
  exact ⟨entry.2, get?_eq_some_iff.mpr hentry⟩

theorem mem_keys_of_get? {d : Dict β} {key : String} {value : β}
    (hvalue : d.get? key = some value) : key ∈ d.keys :=
  List.mem_map.mpr ⟨_, get?_eq_some_iff.mp hvalue, rfl⟩

theorem contains_iff {d : Dict β} {key : String} : d.contains key = true ↔ key ∈ d.keys := by
  simp [contains, keys]

theorem mem_values_iff {d : Dict β} {value : β} :
    value ∈ d.values ↔ ∃ key, d.get? key = some value := by
  simp only [values, List.mem_map, get?_eq_some_iff]
  constructor
  · rintro ⟨⟨key, image⟩, hentry, rfl⟩
    exact ⟨key, hentry⟩
  · rintro ⟨key, hentry⟩
    exact ⟨_, hentry, rfl⟩

theorem filterMap_get?_keys (d : Dict β) : d.keys.filterMap d.get? = d.values := by
  have hentries :
      ∀ entries : List (String × β), (∀ entry ∈ entries, entry ∈ d.entries) →
        (entries.map Prod.fst).filterMap d.get? = entries.map Prod.snd := by
    intro entries hmem
    induction entries with
    | nil => rfl
    | cons entry rest ih =>
        have hentry : d.get? entry.1 = some entry.2 :=
          get?_eq_some_iff.mpr (hmem entry List.mem_cons_self)
        have hrest := ih (fun other hother => hmem other (List.mem_cons_of_mem _ hother))
        simp [hentry, hrest]
  exact hentries d.entries (fun _ h => h)

/-! ## Insertion -/

theorem lookup_insertEntry (key other : String) (value : β) (entries : List (String × β))
    (hincreasing : entries.Pairwise (fun a b => a.1 < b.1)) :
    (insertEntry key value entries).lookup other =
      if other = key then some value else entries.lookup other := by
  induction entries with
  | nil => simp [insertEntry, lookup_cons_eq_ite]
  | cons entry rest ih =>
      obtain ⟨first, image⟩ := entry
      have hrest := (List.pairwise_cons.mp hincreasing).2
      simp only [insertEntry]
      split
      · simp [lookup_cons_eq_ite]
      · split
        · next heq =>
            subst heq
            by_cases hother : other = key <;> simp [lookup_cons_eq_ite, hother]
        · next hne =>
            by_cases hfirst : other = first
            · subst hfirst
              simp [Ne.symm hne]
            · simp [lookup_cons_eq_ite, hfirst, ih hrest]

@[simp] theorem get?_insert (d : Dict β) (key other : String) (value : β) :
    (d.insert key value).get? other = if other = key then some value else d.get? other :=
  lookup_insertEntry key other value d.entries d.increasing

@[simp] theorem get?_empty (key : String) : (empty : Dict β).get? key = none := rfl

theorem mem_keys_insert_iff {d : Dict β} {key other : String} {value : β} :
    other ∈ (d.insert key value).keys ↔ other = key ∨ other ∈ d.keys := by
  rw [← not_iff_not, ← get?_eq_none_iff, get?_insert, not_or, ← get?_eq_none_iff]
  split
  · next heq => simp [heq]
  · next hne => simp [hne]

theorem keys_insert_of_mem {d : Dict β} {key : String} (value : β) (hkey : key ∈ d.keys) :
    (d.insert key value).keys = d.keys := by
  have hentries :
      ∀ entries : List (String × β), entries.Pairwise (fun a b => a.1 < b.1) →
        key ∈ entries.map Prod.fst →
        (insertEntry key value entries).map Prod.fst = entries.map Prod.fst := by
    intro entries hincreasing hmem
    induction entries with
    | nil => simp at hmem
    | cons entry rest ih =>
        have hcons := List.pairwise_cons.mp hincreasing
        simp only [insertEntry]
        split
        · next hlt =>
            exfalso
            rcases List.mem_cons.mp hmem with heq | hrest
            · exact String.lt_irrefl _ (heq ▸ hlt)
            · obtain ⟨other, hother, rfl⟩ := List.mem_map.mp hrest
              exact String.lt_irrefl _ (String.lt_trans hlt (hcons.1 other hother))
        · split
          · next heq => simp [heq]
          · next hne =>
              have hrest := (List.mem_cons.mp hmem).resolve_left hne
              simp [ih hcons.2 hrest]
  exact hentries d.entries d.increasing hkey

/-! ## Images -/

@[simp] theorem entries_mapValues (f : String → α → β) (d : Dict α) :
    (d.mapValues f).entries = d.entries.map (fun entry => (entry.1, f entry.1 entry.2)) := rfl

@[simp] theorem keys_mapValues (f : String → α → β) (d : Dict α) :
    (d.mapValues f).keys = d.keys := by
  simp [mapValues, keys]

@[simp] theorem size_mapValues (f : String → α → β) (d : Dict α) :
    (d.mapValues f).size = d.size := by
  simp [mapValues, size]

theorem lookup_map (f : String → α → β) (entries : List (String × α)) (key : String) :
    (entries.map (fun entry => (entry.1, f entry.1 entry.2))).lookup key =
      (entries.lookup key).map (f key) := by
  induction entries with
  | nil => rfl
  | cons entry rest ih =>
      obtain ⟨first, value⟩ := entry
      by_cases hkey : key = first <;> simp [lookup_cons_eq_ite, hkey, ih]

@[simp] theorem get?_mapValues (f : String → α → β) (d : Dict α) (key : String) :
    (d.mapValues f).get? key = (d.get? key).map (f key) :=
  lookup_map f d.entries key

theorem length_keys (d : Dict β) : d.keys.length = d.size := by
  simp [keys, size]

/-- A traversal succeeds exactly when every entry has an image, and then lists the images under
the same keys. -/
theorem traverseEntries_eq_ok_iff {f : String → α → Except ε β} {entries : List (String × α)}
    {images : List (String × β)} :
    traverseEntries f entries = .ok images ↔
      List.Forall₂ (fun entry image => entry.1 = image.1 ∧ f entry.1 entry.2 = .ok image.2)
        entries images := by
  induction entries generalizing images with
  | nil => cases images <;> simp [traverseEntries]
  | cons entry rest ih =>
      obtain ⟨key, value⟩ := entry
      simp only [traverseEntries]
      constructor
      · intro hok
        split at hok
        · contradiction
        · next image himage =>
            split at hok
            · contradiction
            · next others hothers =>
                cases hok
                exact .cons ⟨rfl, himage⟩ (ih.mp hothers)
      · intro hall
        cases hall with
        | @cons _ image _ others hfirst hrest =>
            obtain ⟨hkey, himage⟩ := hfirst
            simp only at hkey himage
            subst hkey
            rw [himage, ih.mpr hrest]

theorem traverse_eq_ok_iff {f : String → α → Except ε β} {d : Dict α} {e : Dict β} :
    d.traverse f = .ok e ↔
      List.Forall₂ (fun entry image => entry.1 = image.1 ∧ f entry.1 entry.2 = .ok image.2)
        d.entries e.entries := by
  rw [← traverseEntries_eq_ok_iff]
  unfold traverse
  constructor
  · intro hok
    split at hok
    · contradiction
    · next images himages =>
        cases hok
        exact himages
  · intro hentries
    split
    · next err herr =>
        rw [herr] at hentries
        contradiction
    · next images himages =>
        rw [himages] at hentries
        cases hentries
        rfl

theorem keys_of_traverse {f : String → α → Except ε β} {d : Dict α} {e : Dict β}
    (hok : d.traverse f = .ok e) : e.keys = d.keys :=
  keys_traverseEntries (traverseEntries_eq_ok_iff.mpr (traverse_eq_ok_iff.mp hok))

/-- Every entry of a traversed dictionary is the image of the entry of its key. -/
theorem get?_of_traverse {f : String → α → Except ε β} {d : Dict α} {e : Dict β}
    (hok : d.traverse f = .ok e) {key : String} {image : β} (himage : e.get? key = some image) :
    ∃ value, d.get? key = some value ∧ f key value = .ok image := by
  have himages :
      ∀ (entries : List (String × α)) (images : List (String × β)),
        List.Forall₂ (fun entry image => entry.1 = image.1 ∧ f entry.1 entry.2 = .ok image.2)
          entries images →
        (key, image) ∈ images → ∃ value, (key, value) ∈ entries ∧ f key value = .ok image := by
    intro entries images hall hmem
    induction hall with
    | nil => simp at hmem
    | @cons entry first rest others hfirst _ ih =>
        rcases List.mem_cons.mp hmem with heq | hothers
        · subst heq
          obtain ⟨hkey, hvalue⟩ := hfirst
          simp only at hkey hvalue
          subst hkey
          exact ⟨entry.2, List.mem_cons_self, hvalue⟩
        · obtain ⟨value, hvalue, hok⟩ := ih hothers
          exact ⟨value, List.mem_cons_of_mem _ hvalue, hok⟩
  obtain ⟨value, hvalue, hok⟩ :=
    himages d.entries e.entries (traverse_eq_ok_iff.mp hok) (get?_eq_some_iff.mp himage)
  exact ⟨value, get?_eq_some_iff.mpr hvalue, hok⟩

/-- Every entry of a dictionary that was traversed has its image under its key. -/
theorem get?_traverse {f : String → α → Except ε β} {d : Dict α} {e : Dict β}
    (hok : d.traverse f = .ok e) {key : String} {value : α} (hvalue : d.get? key = some value) :
    ∃ image, e.get? key = some image ∧ f key value = .ok image := by
  have hkey : key ∈ e.keys := keys_of_traverse hok ▸ mem_keys_of_get? hvalue
  obtain ⟨image, himage⟩ := exists_get?_of_mem_keys hkey
  obtain ⟨other, hother, hok⟩ := get?_of_traverse hok himage
  rw [hvalue, Option.some.injEq] at hother
  exact ⟨image, himage, hother ▸ hok⟩

/-- What is read off entry and image alike is listed alike. -/
theorem map_entries_of_traverse {γ : Type} {f : String → α → Except ε β} {d : Dict α} {e : Dict β}
    {g : String × α → γ} {h : String × β → γ} (hok : d.traverse f = .ok e)
    (himages : ∀ key value image, f key value = .ok image → g (key, value) = h (key, image)) :
    d.entries.map g = e.entries.map h := by
  have hall := traverse_eq_ok_iff.mp hok
  generalize d.entries = entries, e.entries = images at hall
  induction hall with
  | nil => rfl
  | @cons entry image _ _ hfirst _ ih =>
      obtain ⟨hkey, hvalue⟩ := hfirst
      have hsame := himages entry.1 entry.2 image.2 hvalue
      rw [List.map_cons, List.map_cons, ih, hsame, hkey]

/-- A traversal succeeds when every entry has an image. -/
theorem exists_traverse {f : String → α → Except ε β} {d : Dict α}
    (himages : ∀ key value, d.get? key = some value → ∃ image, f key value = .ok image) :
    ∃ e, d.traverse f = .ok e := by
  have hentries :
      ∀ entries : List (String × α), (∀ entry ∈ entries, ∃ image, f entry.1 entry.2 = .ok image) →
        ∃ images, traverseEntries f entries = .ok images := by
    intro entries hall
    induction entries with
    | nil => exact ⟨[], rfl⟩
    | cons entry rest ih =>
        obtain ⟨image, himage⟩ := hall entry List.mem_cons_self
        obtain ⟨others, hothers⟩ := ih (fun other h => hall other (List.mem_cons_of_mem _ h))
        exact ⟨(entry.1, image) :: others, by simp [traverseEntries, himage, hothers]⟩
  obtain ⟨images, hok⟩ := hentries d.entries (fun entry hentry =>
    himages entry.1 entry.2 (get?_eq_some_iff.mpr hentry))
  refine ⟨⟨images, increasing_of_keys (keys_traverseEntries hok) d.increasing⟩, ?_⟩
  exact traverse_eq_ok_iff.mpr (traverseEntries_eq_ok_iff.mp hok)

/-- A traversal fails as one of the entries does. -/
theorem exists_of_traverse_eq_error {f : String → α → Except ε β} {d : Dict α} {err : ε}
    (herror : d.traverse f = .error err) :
    ∃ key value, d.get? key = some value ∧ f key value = .error err := by
  have hentries : ∀ entries : List (String × α), traverseEntries f entries = .error err →
      ∃ entry ∈ entries, f entry.1 entry.2 = .error err := by
    intro entries hfailed
    induction entries with
    | nil => simp [traverseEntries] at hfailed
    | cons entry rest ih =>
        simp only [traverseEntries] at hfailed
        split at hfailed
        · next hfirst =>
            cases hfailed
            exact ⟨entry, List.mem_cons_self, hfirst⟩
        · split at hfailed
          · next hrest =>
              cases hfailed
              obtain ⟨other, hother, hflaw⟩ := ih hrest
              exact ⟨other, List.mem_cons_of_mem _ hother, hflaw⟩
          · contradiction
  unfold traverse at herror
  split at herror
  · next hfailed =>
      cases herror
      obtain ⟨entry, hentry, hflaw⟩ := hentries d.entries hfailed
      exact ⟨entry.1, entry.2, get?_eq_some_iff.mpr hentry, hflaw⟩
  · contradiction

end Dict
end Provision
