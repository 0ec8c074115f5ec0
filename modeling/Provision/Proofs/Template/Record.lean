import Provision.Proofs.Dict
import Provision.Template.Operator
import Provision.Template.State

/-!
# Records

A map whose keys are texts is a dictionary: its entries stand in the same order, an attribute is
looked up like a key, and putting entries together inserts them one by one.  Structured data is
made of such records alone, so it holds on to no rendering.
-/

namespace Provision

namespace Dict

variable {β : Type}

theorem get?_foldl_insert (entries : List (String × β)) (d : Dict β) (key : String) :
    (entries.foldl (fun d entry => d.insert entry.1 entry.2) d).get? key =
      (entries.reverse.lookup key).or (d.get? key) := by
  induction entries generalizing d with
  | nil => rfl
  | cons entry rest ih =>
      obtain ⟨first, image⟩ := entry
      rw [List.foldl_cons, ih, get?_insert, List.reverse_cons, List.lookup_append,
        Option.or_assoc]
      by_cases hkey : key = first <;> simp [lookup_cons_eq_ite, hkey]

theorem get?_ofList (entries : List (String × β)) (key : String) :
    (ofList entries).get? key = entries.reverse.lookup key := by
  rw [ofList, get?_foldl_insert, get?_empty, Option.or_none]

theorem entries_insert_of_forall_lt (d : Dict β) {key : String} (value : β)
    (hkey : ∀ other ∈ d.keys, other < key) :
    (d.insert key value).entries = d.entries ++ [(key, value)] := by
  have hentries :
      ∀ entries : List (String × β), (∀ other ∈ entries.map Prod.fst, other < key) →
        insertEntry key value entries = entries ++ [(key, value)] := by
    intro entries hall
    induction entries with
    | nil => rfl
    | cons entry rest ih =>
        have hfirst : entry.1 < key := hall entry.1 (by simp)
        have hnlt : ¬ key < entry.1 :=
          fun hlt => String.lt_irrefl _ (String.lt_trans hfirst hlt)
        have hne : key ≠ entry.1 := by
          intro heq
          rw [← heq] at hfirst
          exact String.lt_irrefl _ hfirst
        have hrest := ih (fun other hother => hall other (List.mem_cons_of_mem _ hother))
        simp [insertEntry, hnlt, hne, hrest]
  exact hentries d.entries hkey

/-- Inserting entries in the order of their keys lists them as they stand. -/
theorem entries_foldl_insert (entries : List (String × β)) (d : Dict β)
    (hincreasing : (d.entries ++ entries).Pairwise (fun a b => a.1 < b.1)) :
    (entries.foldl (fun d entry => d.insert entry.1 entry.2) d).entries = d.entries ++ entries := by
  induction entries generalizing d with
  | nil => simp
  | cons entry rest ih =>
      have hlt : ∀ other ∈ d.keys, other < entry.1 := by
        intro other hother
        obtain ⟨earlier, hearlier, rfl⟩ := List.mem_map.mp hother
        exact (List.pairwise_append.mp hincreasing).2.2 earlier hearlier entry List.mem_cons_self
      have hinsert := entries_insert_of_forall_lt d entry.2 hlt
      rw [List.foldl_cons, ih, hinsert]
      · simp
      · rw [hinsert]
        simpa using hincreasing

theorem ofList_entries (d : Dict β) : ofList d.entries = d := by
  apply ext
  have hentries := entries_foldl_insert d.entries empty (by simpa [empty] using d.increasing)
  simpa [ofList, empty] using hentries

end Dict

namespace Template
namespace Value

/-- The map of a dictionary. -/
def ofDict (d : Dict Value) : Value :=
  .map .plain (namedEntries d.entries)

theorem orderTexts_eq_iff {a b : String} : orderTexts a b = .eq ↔ a = b := by
  unfold orderTexts
  by_cases hlt : a < b
  · have hne : a ≠ b := fun heq => String.lt_irrefl b (heq ▸ hlt)
    simp [hlt, hne]
  · by_cases heq : a = b <;> simp [hlt, heq]

theorem order_text (a b : String) : order (text a) (text b) = orderTexts a b := by
  simp [text, order]

theorem valueAt?_namedEntries (key : String) (fields : List (String × Value)) :
    valueAt? (text key) (namedEntries fields) = fields.lookup key := by
  induction fields with
  | nil => rfl
  | cons field rest ih =>
      obtain ⟨name, value⟩ := field
      unfold valueAt? namedEntries at ih ⊢
      by_cases hkey : key = name
      · have horder : orderTexts name name = .eq := orderTexts_eq_iff.mpr rfl
        simp [hkey, order_text, horder]
      · have hbeq : (key == name) = false := by simpa using hkey
        have horder : orderTexts name key ≠ .eq := fun h => hkey (orderTexts_eq_iff.mp h).symm
        rw [List.map_cons, List.find?_cons_of_neg (by simpa [order_text] using horder), ih,
          List.lookup_cons, hbeq]

theorem insertEntry_namedEntries (key : String) (value : Value) (fields : List (String × Value)) :
    insertEntry (text key) value (namedEntries fields) =
      namedEntries (Dict.insertEntry key value fields) := by
  induction fields with
  | nil => rfl
  | cons field rest ih =>
      obtain ⟨name, old⟩ := field
      unfold namedEntries at ih ⊢
      simp only [List.map_cons, insertEntry, Dict.insertEntry, order_text, orderTexts]
      by_cases hlt : key < name
      · simp [hlt]
      · by_cases heq : key = name
        · simp [heq]
        · simp [hlt, heq, ih]

theorem sortedEntries_namedEntries (fields : List (String × Value)) :
    sortedEntries (namedEntries fields) = namedEntries (Dict.ofList fields).entries := by
  have hfold :
      ∀ d : Dict Value,
        (namedEntries fields).foldl (fun sorted entry => insertEntry entry.1 entry.2 sorted)
            (namedEntries d.entries) =
          namedEntries (fields.foldl (fun d field => d.insert field.1 field.2) d).entries := by
    induction fields with
    | nil =>
        intro d
        rfl
    | cons field rest ih =>
        intro d
        have hrest := ih (d.insert field.1 field.2)
        simp only [Dict.insert, ← insertEntry_namedEntries] at hrest
        exact hrest
  exact hfold .empty

theorem ofEntries_namedEntries (fields : List (String × Value)) :
    ofEntries (namedEntries fields) = ofDict (Dict.ofList fields) := by
  rw [ofEntries, sortedEntries_namedEntries, ofDict]

@[simp] theorem attribute?_ofDict (name : String) (d : Dict Value) :
    (ofDict d).attribute? name = some ((d.get? name).getD missing) := by
  simp [attribute?, index?, isUndefined, ofDict, part?, valueAt?_namedEntries, Dict.get?]

@[simp] theorem index?_text_ofDict (key : String) (d : Dict Value) :
    index? (text key) (ofDict d) = some ((d.get? key).getD missing) :=
  attribute?_ofDict key d

/-! ## Structured data -/

theorem ofJsonFields_eq (fields : List (String × Json)) :
    ofJsonFields fields = namedEntries (fields.map (fun field => (field.1, ofJson field.2))) := by
  induction fields with
  | nil => rfl
  | cons field rest ih => simp [ofJsonFields, namedEntries, ih]

theorem ofJsonItems_eq (items : List Json) : ofJsonItems items = items.map ofJson := by
  induction items with
  | nil => rfl
  | cons item rest ih => simp [ofJsonItems, ih]

theorem ofJson_obj (fields : List (String × Json)) :
    ofJson (.obj fields) =
      ofDict (Dict.ofList (fields.map (fun field => (field.1, ofJson field.2)))) := by
  rw [ofJson, ofJsonFields_eq, ofEntries_namedEntries]

theorem ofJson_strings (texts : List String) :
    ofJson (.strings texts) = list (texts.map text) := by
  simp [Json.strings, ofJson, ofJsonItems_eq, Function.comp_def]

/-! ## Records hold on to no rendering -/

theorem anyLive_eq_false_iff {items : List Value} :
    anyLive items = false ↔ ∀ item ∈ items, item.isLive = false := by
  induction items with
  | nil => simp [anyLive]
  | cons item rest ih => simp [anyLive, ih]

theorem anyLiveEntry_eq_false_iff {entries : Entries} :
    anyLiveEntry entries = false ↔
      ∀ entry ∈ entries, entry.1.isLive = false ∧ entry.2.isLive = false := by
  induction entries with
  | nil => simp [anyLiveEntry]
  | cons entry rest ih =>
      obtain ⟨key, value⟩ := entry
      simp [anyLiveEntry, ih, and_assoc]

theorem isLive_ofDict_ofList {fields : List (String × Value)}
    (hfields : ∀ field ∈ fields, field.2.isLive = false) :
    (ofDict (Dict.ofList fields)).isLive = false := by
  unfold ofDict isLive
  rw [anyLiveEntry_eq_false_iff]
  intro entry hentry
  obtain ⟨⟨name, value⟩, hmem, rfl⟩ := List.mem_map.mp hentry
  have hvalue := Dict.get?_eq_some_iff.mpr hmem
  rw [Dict.get?_ofList] at hvalue
  have hlisted : (name, value) ∈ fields := by
    obtain ⟨before, after, hsplit, -⟩ := List.lookup_eq_some_iff.mp hvalue
    rw [← List.mem_reverse, hsplit]
    simp
  exact ⟨rfl, hfields _ hlisted⟩

mutual

theorem isLive_ofJson : ∀ json : Json, (ofJson json).isLive = false
  | .null => rfl
  | .bool _ => rfl
  | .int _ => rfl
  | .real _ => rfl
  | .str _ => rfl
  | .arr items => by
      unfold ofJson list isLive
      rw [anyLive_eq_false_iff, ofJsonItems_eq]
      exact List.forall_mem_map.mpr (isLive_of_mem items)
  | .obj fields => by
      rw [ofJson_obj]
      exact isLive_ofDict_ofList (List.forall_mem_map.mpr (isLive_of_mem_fields fields))

theorem isLive_of_mem : ∀ items : List Json, ∀ item ∈ items, (ofJson item).isLive = false
  | [], _, hmem => nomatch hmem
  | first :: rest, item, hmem => by
      rcases List.mem_cons.mp hmem with heq | hrest
      · rw [heq]
        exact isLive_ofJson first
      · exact isLive_of_mem rest item hrest

theorem isLive_of_mem_fields :
    ∀ fields : List (String × Json), ∀ field ∈ fields, (ofJson field.2).isLive = false
  | [], _, hmem => nomatch hmem
  | (name, first) :: rest, field, hmem => by
      rcases List.mem_cons.mp hmem with heq | hrest
      · rw [heq]
        exact isLive_ofJson first
      · exact isLive_of_mem_fields rest field hrest

end

end Value
end Template
end Provision
