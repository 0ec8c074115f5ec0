import Provision.Proofs.Template.Record
import Provision.Template.Engine

/-!
# Structured data in templates

A value is structured data if nothing in it can be called and nothing in it can change: it is made
of single values, lists and records.  What is read from a record is structured data, and so are
the results of plain filters, so that a plain template comes across no other value.
-/

namespace Provision
namespace Template
namespace Value

mutual

/-- Whether a value is structured data. -/
def isData : Value → Bool
  | .seq _ items => allData items
  | .map .plain entries => allDataEntries entries
  | .map _ _ => false
  | .helper _ => false
  | .routine _ => false
  | _ => true

def allData : List Value → Bool
  | [] => true
  | item :: rest => item.isData && allData rest

def allDataEntries : Entries → Bool
  | [] => true
  | (key, value) :: rest => key.isData && value.isData && allDataEntries rest

end

theorem allData_iff {items : List Value} :
    allData items = true ↔ ∀ item ∈ items, item.isData = true := by
  induction items with
  | nil => simp [allData]
  | cons item rest ih => simp [allData, ih]

theorem allDataEntries_iff {entries : Entries} :
    allDataEntries entries = true ↔
      ∀ entry ∈ entries, entry.1.isData = true ∧ entry.2.isData = true := by
  induction entries with
  | nil => simp [allDataEntries]
  | cons entry rest ih =>
      obtain ⟨key, value⟩ := entry
      simp [allDataEntries, ih, and_assoc]

@[simp] theorem isData_text (s : String) : (text s).isData = true := rfl

mutual

/-- Structured data holds on to no rendering. -/
theorem isLive_of_isData : ∀ {value : Value}, value.isData = true → value.isLive = false
  | .undefined _, _ => rfl
  | .none, _ => rfl
  | .bool _, _ => rfl
  | .int _, _ => rfl
  | .real _, _ => rfl
  | .str _ _, _ => rfl
  | .seq _ _, h => anyLive_of_allData h
  | .map .plain _, h => anyLiveEntry_of_allDataEntries h

theorem anyLive_of_allData : ∀ {items : List Value}, allData items = true → anyLive items = false
  | [], _ => rfl
  | item :: rest, h => by
      obtain ⟨hitem, hrest⟩ := Bool.and_eq_true_iff.mp h
      rw [anyLive, isLive_of_isData hitem, anyLive_of_allData hrest]
      rfl

theorem anyLiveEntry_of_allDataEntries :
    ∀ {entries : Entries}, allDataEntries entries = true → anyLiveEntry entries = false
  | [], _ => rfl
  | (key, value) :: rest, h => by
      obtain ⟨hentry, hrest⟩ := Bool.and_eq_true_iff.mp h
      obtain ⟨hkey, hvalue⟩ := Bool.and_eq_true_iff.mp hentry
      rw [anyLiveEntry, isLive_of_isData hkey, isLive_of_isData hvalue,
        anyLiveEntry_of_allDataEntries hrest]
      rfl

end

/-! ## Parts -/

theorem isData_of_valueAt? {key value : Value} {entries : Entries}
    (hentries : allDataEntries entries = true) (h : valueAt? key entries = some value) :
    value.isData = true := by
  obtain ⟨entry, hentry, rfl⟩ := Option.map_eq_some_iff.mp h
  exact (allDataEntries_iff.mp hentries entry (List.mem_of_find?_eq_some hentry)).2

theorem mem_of_itemAt {α : Type} {items : List α} {place : Int} {item : α}
    (h : itemAt items place = some item) : item ∈ items := by
  unfold itemAt at h
  split at h
  · exact List.mem_of_getElem? h
  · split at h
    · contradiction
    · exact List.mem_of_getElem? h

theorem mem_of_groupItem? {items : List Value} {name : String} {item : Value}
    (h : groupItem? items name = some item) : item ∈ items := by
  unfold groupItem? at h
  split at h
  · exact List.mem_of_getElem? h
  · exact List.mem_of_getElem? h
  · contradiction

theorem isData_of_part? {key value part : Value} (hvalue : value.isData = true)
    (h : part? key value = some part) : part.isData = true := by
  cases value with
  | map kind entries =>
      cases kind with
      | plain => exact isData_of_valueAt? hvalue h
      | _ => contradiction
  | seq kind items =>
      refine allData_iff.mp hvalue part ?_
      simp only [part?] at h
      split at h
      · exact mem_of_itemAt h
      · split at h
        · obtain ⟨name, -, hname⟩ := Option.bind_eq_some_iff.mp h
          exact mem_of_groupItem? hname
        · contradiction
  | str s safe =>
      obtain ⟨c, -, rfl⟩ := Option.map_eq_some_iff.mp h
      rfl
  | _ => contradiction

theorem isData_of_index? {key value part : Value} (hvalue : value.isData = true)
    (h : index? key value = some part) : part.isData = true := by
  unfold index? at h
  split at h
  · contradiction
  · cases h
    cases hpart : part? key value with
    | none => rfl
    | some found => exact isData_of_part? hvalue hpart

theorem isData_of_parts? {value : Value} {parts : List Value} (hvalue : value.isData = true)
    (h : value.parts? = some parts) : ∀ part ∈ parts, part.isData = true := by
  cases value with
  | seq kind items =>
      cases h
      exact allData_iff.mp hvalue
  | map kind entries =>
      cases kind with
      | plain =>
          cases h
          exact List.forall_mem_map.mpr
            (fun entry hentry => (allDataEntries_iff.mp hvalue entry hentry).1)
      | _ => contradiction
  | _ => contradiction

theorem isData_of_iterated? {value : Value} {items : List Value} (hvalue : value.isData = true)
    (h : value.iterated? = some items) : ∀ item ∈ items, item.isData = true := by
  unfold iterated? at h
  split at h
  · contradiction
  · unfold items? at h
    split at h
    · cases h
      simp
    · cases h
      simp
    · cases h
      simp [ofChars]
    · exact isData_of_parts? hvalue h

/-! ## Records -/

theorem allDataEntries_insertEntry {key value : Value} {entries : Entries}
    (hkey : key.isData = true) (hvalue : value.isData = true)
    (hentries : allDataEntries entries = true) :
    allDataEntries (insertEntry key value entries) = true := by
  induction entries with
  | nil => simp [insertEntry, allDataEntries, hkey, hvalue]
  | cons entry rest ih =>
      obtain ⟨other, image⟩ := entry
      simp only [allDataEntries, Bool.and_eq_true] at hentries
      obtain ⟨⟨hother, himage⟩, hrest⟩ := hentries
      unfold insertEntry
      split
      · simp [allDataEntries, *]
      · simp [allDataEntries, *]
      · simp [allDataEntries, *]

theorem isData_ofEntries {entries : Entries} (h : allDataEntries entries = true) :
    (ofEntries entries).isData = true := by
  refine List.foldlRecOn (motive := fun sorted => allDataEntries sorted = true) entries _ rfl ?_
  intro sorted hsorted entry hentry
  obtain ⟨hkey, hvalue⟩ := allDataEntries_iff.mp h entry hentry
  exact allDataEntries_insertEntry hkey hvalue hsorted

mutual

theorem isData_ofJson : ∀ json : Json, (ofJson json).isData = true
  | .null => rfl
  | .bool _ => rfl
  | .int _ => rfl
  | .real _ => rfl
  | .str _ => rfl
  | .arr items => allData_ofJsonItems items
  | .obj fields => isData_ofEntries (allDataEntries_ofJsonFields fields)

theorem allData_ofJsonItems : ∀ items : List Json, allData (ofJsonItems items) = true
  | [] => rfl
  | item :: rest => by
      rw [ofJsonItems, allData, isData_ofJson item, allData_ofJsonItems rest]
      rfl

theorem allDataEntries_ofJsonFields :
    ∀ fields : List (String × Json), allDataEntries (ofJsonFields fields) = true
  | [] => rfl
  | (name, value) :: rest => by
      rw [ofJsonFields, allDataEntries, isData_ofJson value, allDataEntries_ofJsonFields rest]
      rfl

end

/-! ## Results -/

theorem isData_literalValue (l : Literal) : (literalValue l).isData = true := by
  cases l <;> rfl

theorem isData_of_concat? {a b value : Value} (h : concat? a b = some value) :
    value.isData = true := by
  unfold concat? at h
  split at h
  · contradiction
  · cases h
    rfl

theorem isData_references (reference : String → String) (tool : String) (keys : List String) :
    (Engine.references reference tool keys).isData = true := by
  refine isData_ofEntries (allDataEntries_iff.mpr ?_)
  unfold namedEntries
  rw [List.map_map]
  exact List.forall_mem_map.mpr (fun _ _ => ⟨rfl, rfl⟩)

end Value

/-! ## Plain filters -/

/-- The filters that make structured data of structured data. -/
def plainFilters : List String :=
  ["items", "trim", "indent_wrap", "make_value", "arg_value"]

theorem isData_of_items {value found : Value} {args : List Value} (hvalue : value.isData = true)
    (h : FilterFunction.items value args = some found) : found.isData = true := by
  unfold FilterFunction.items at h
  split at h
  · next kind entries =>
      cases h
      refine Value.allData_iff.mpr (List.forall_mem_map.mpr ?_)
      intro entry hentry
      cases kind with
      | plain =>
          obtain ⟨hkey, himage⟩ := Value.allDataEntries_iff.mp hvalue entry hentry
          exact Value.allData_iff.mpr (by simp [hkey, himage])
      | _ => contradiction
  · contradiction

theorem isData_of_trim {value found : Value} {args : List Value}
    (h : FilterFunction.trim value args = some found) : found.isData = true := by
  unfold FilterFunction.trim at h
  split at h
  · obtain ⟨s, -, rfl⟩ := Option.map_eq_some_iff.mp h
    rfl
  · split at h
    · contradiction
    · split at h
      · cases h
        rfl
      · obtain ⟨s, -, rfl⟩ := Option.map_eq_some_iff.mp h
        rfl
  · contradiction

theorem isData_of_nest {value found : Value} {args : List Value}
    (h : FilterFunction.nest value args = some found) : found.isData = true := by
  unfold FilterFunction.nest at h
  split at h
  · split at h
    · cases h
      rfl
    · contradiction
  · contradiction

theorem isData_of_literal {f : List Char → List Char} {value found : Value} {args : List Value}
    (h : FilterFunction.literal f value args = some found) : found.isData = true := by
  unfold FilterFunction.literal FilterFunction.ofString at h
  split at h
  · obtain ⟨s, -, rfl⟩ := Option.map_eq_some_iff.mp h
    rfl
  · contradiction

theorem isData_of_filtered? {escaping : Bool} {name : String} {value found : Value}
    {args : List Value} (hname : name ∈ plainFilters) (hvalue : value.isData = true)
    (h : filtered? escaping name value args = some found) : found.isData = true := by
  simp only [plainFilters, List.mem_cons, List.not_mem_nil, or_false] at hname
  rcases hname with rfl | rfl | rfl | rfl | rfl
  · exact isData_of_items hvalue h
  · exact isData_of_trim h
  · exact isData_of_nest h
  · exact isData_of_literal h
  · exact isData_of_literal h

end Template
end Provision
