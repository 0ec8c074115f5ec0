import Provision.Proofs.Template.Data

/-!
# Values that agree up to a mask

A mask says in which parts two records may differ: under some names in everything, under others
only where a further mask lets them.  Values that agree up to a mask that covers nothing are equal,
and what is read from agreeing values, or put together from them, agrees again.
-/

namespace Provision
namespace Template

/-- What two values may differ in. -/
inductive Mask where
  | nothing
  | everything
  /-- What is kept under a name differs as one mask says, and all else as another one says. -/
  | under (name : String) (inner rest : Mask)
deriving DecidableEq, Repr

namespace Mask

/-- What the values of a name may differ in. -/
def field (name : String) : Mask → Mask
  | nothing => nothing
  | everything => everything
  | under other inner rest => if name = other then inner else rest.field name

/-- What the values of a key may differ in; a key that is no text has the same value. -/
def atKey (mask : Mask) (key : Value) : Mask :=
  match key.str? with
  | some name => mask.field name
  | none => nothing

/-- Whether another mask lets values differ wherever this one does. -/
def within : Mask → Mask → Bool
  | nothing, _ => true
  | everything, other => other = everything
  | under name inner rest, other =>
      other ≠ nothing && inner.within (other.field name) && rest.within other

theorem within_field {mask other : Mask} (h : mask.within other = true) (name : String) :
    (mask.field name).within (other.field name) = true := by
  induction mask with
  | nothing => rfl
  | everything =>
      obtain rfl : other = everything := by simpa [within] using h
      rfl
  | under first inner rest _ ihRest =>
      simp only [within, Bool.and_eq_true] at h
      obtain ⟨⟨-, hinner⟩, hrest⟩ := h
      by_cases hname : name = first
      · subst hname
        simpa [field] using hinner
      · simpa [field, hname] using ihRest hrest

theorem within_atKey {mask other : Mask} (h : mask.within other = true) (key : Value) :
    (mask.atKey key).within (other.atKey key) = true := by
  unfold atKey
  split
  · exact within_field h _
  · rfl

theorem atKey_text (mask : Mask) (name : String) : mask.atKey (.text name) = mask.field name := rfl

end Mask

namespace Value

mutual

/-- Two values are structured data and differ in no more than a mask lets them. -/
inductive Agree : Mask → Value → Value → Prop
  | refl {mask : Mask} {value : Value} : value.isData = true → Agree mask value value
  | everything {a b : Value} : a.isData = true → b.isData = true → Agree .everything a b
  | record {name : String} {inner rest : Mask} {entries others : Entries} :
      AgreeEntries (.under name inner rest) entries others →
        Agree (.under name inner rest) (.map .plain entries) (.map .plain others)

/-- Entries of the same keys in the same order whose values agree. -/
inductive AgreeEntries : Mask → Entries → Entries → Prop
  | nil {mask : Mask} : AgreeEntries mask [] []
  | cons {mask : Mask} {key a b : Value} {entries others : Entries} :
      key.isData = true → Agree (mask.atKey key) a b → AgreeEntries mask entries others →
        AgreeEntries mask ((key, a) :: entries) ((key, b) :: others)

end

/-! ## Agreement and masks -/

theorem Agree.eq {a b : Value} : Agree .nothing a b → a = b
  | .refl _ => rfl

theorem AgreeEntries.eq {entries others : Entries} (h : AgreeEntries .nothing entries others) :
    entries = others := by
  induction entries generalizing others with
  | nil =>
      cases h
      rfl
  | cons entry rest ih =>
      cases h with
      | @cons _ key _ _ _ _ hkey hvalue hrest =>
          have hmask : Mask.nothing.atKey key = .nothing := by
            unfold Mask.atKey
            split <;> rfl
          rw [hmask] at hvalue
          rw [hvalue.eq, ih hrest]

mutual

theorem Agree.isData {mask : Mask} {a b : Value} :
    Agree mask a b → a.isData = true ∧ b.isData = true
  | .refl h => ⟨h, h⟩
  | .everything ha hb => ⟨ha, hb⟩
  | .record h => h.allDataEntries

theorem AgreeEntries.allDataEntries {mask : Mask} {entries others : Entries} :
    AgreeEntries mask entries others →
      Value.allDataEntries entries = true ∧ Value.allDataEntries others = true
  | .nil => ⟨rfl, rfl⟩
  | .cons hkey hvalue hrest => by
      simp [Value.allDataEntries, hkey, hvalue.isData, hrest.allDataEntries]

end

theorem AgreeEntries.agree {mask : Mask} {entries others : Entries}
    (h : AgreeEntries mask entries others) :
    Agree mask (.map .plain entries) (.map .plain others) := by
  cases mask with
  | nothing =>
      rw [h.eq]
      exact .refl h.allDataEntries.2
  | everything => exact .everything h.allDataEntries.1 h.allDataEntries.2
  | under name inner rest => exact .record h

mutual

theorem Agree.mono {mask other : Mask} (hwithin : mask.within other = true) {a b : Value} :
    Agree mask a b → Agree other a b
  | .refl h => .refl h
  | .everything ha hb => by
      obtain rfl : other = .everything := by simpa [Mask.within] using hwithin
      exact .everything ha hb
  | .record h => (h.mono hwithin).agree

theorem AgreeEntries.mono {mask other : Mask} (hwithin : mask.within other = true)
    {entries others : Entries} :
    AgreeEntries mask entries others → AgreeEntries other entries others
  | .nil => .nil
  | .cons hkey hvalue hrest =>
      .cons hkey (hvalue.mono (Mask.within_atKey hwithin _)) (hrest.mono hwithin)

end

/-! ## Reading from values that agree -/

/-- Of keys that stand at the same place in the order, both or neither are a given text. -/
theorem str?_eq_of_order_eq {a b : Value} (h : order a b = .eq) : a.str? = b.str? := by
  cases a with
  | str s safe =>
      cases b with
      | str t safe => simpa [order, str?, orderTexts_eq_iff] using h
      | seq kind items => cases kind <;> simp [order, kindRank] at h
      | _ => simp [order, kindRank] at h
  | seq kind items =>
      cases b with
      | str t safe => cases kind <;> simp [order, kindRank] at h
      | _ => rfl
  | _ =>
      cases b with
      | str t safe => simp [order, kindRank] at h
      | _ => rfl

theorem atKey_eq_of_order_eq {a b : Value} (h : order a b = .eq) (mask : Mask) :
    mask.atKey a = mask.atKey b := by
  unfold Mask.atKey
  rw [str?_eq_of_order_eq h]

theorem AgreeEntries.valueAt?_text {mask : Mask} (name : String) {entries others : Entries} :
    AgreeEntries mask entries others →
      Option.Rel (Agree (mask.field name)) (valueAt? (text name) entries)
        (valueAt? (text name) others)
  | .nil => .none
  | @AgreeEntries.cons _ key a b entries others _ hvalue hrest => by
      unfold valueAt?
      by_cases horder : order key (text name) = .eq
      · rw [atKey_eq_of_order_eq horder, Mask.atKey_text] at hvalue
        simpa [horder] using Option.Rel.some hvalue
      · simpa [horder, valueAt?] using hrest.valueAt?_text name

theorem Agree.valueAt?_text {mask : Mask} (hmask : mask ≠ .everything) (name : String)
    {kind : MapKind} {entries : Entries} {other : Value}
    (h : Agree mask (.map kind entries) other) :
    ∃ others, other = .map kind others ∧
      Option.Rel (Agree (mask.field name)) (valueAt? (text name) entries)
        (valueAt? (text name) others) := by
  cases h with
  | refl hdata =>
      refine ⟨entries, rfl, ?_⟩
      cases hfound : valueAt? (text name) entries with
      | none => exact .none
      | some value =>
          cases kind with
          | plain => exact .some (.refl (isData_of_valueAt? hdata hfound))
          | _ => contradiction
  | everything => contradiction
  | record hentries => exact ⟨_, rfl, hentries.valueAt?_text name⟩

theorem Agree.attribute? {mask : Mask} (hmask : mask ≠ .everything) (name : String) {a b : Value}
    (h : Agree mask a b) :
    Option.Rel (Agree (mask.field name)) (a.attribute? name) (b.attribute? name) := by
  cases h with
  | refl hdata =>
      cases hpart : a.attribute? name with
      | none => exact .none
      | some part => exact .some (.refl (isData_of_index? hdata hpart))
  | everything => contradiction
  | @record first inner rest entries others hentries =>
      refine .some (?_ : Agree _ ((valueAt? (text name) entries).getD missing)
        ((valueAt? (text name) others).getD missing))
      have hfound := hentries.valueAt?_text name
      generalize valueAt? (text name) entries = a, valueAt? (text name) others = b at hfound
      cases hfound with
      | none => exact .refl rfl
      | some hvalue => exact hvalue

/-! ## Putting agreeing values together -/

theorem AgreeEntries.insertEntry {mask : Mask} {key a b : Value} {entries others : Entries}
    (h : AgreeEntries mask entries others) (hkey : key.isData = true)
    (hvalue : Agree (mask.atKey key) a b) :
    AgreeEntries mask (Value.insertEntry key a entries) (Value.insertEntry key b others) := by
  induction entries generalizing others with
  | nil =>
      cases h
      exact .cons hkey hvalue .nil
  | cons entry rest ih =>
      cases h with
      | @cons _ first c d _ _ hfirst himage hrest =>
          unfold Value.insertEntry
          cases horder : order key first with
          | lt => exact .cons hkey hvalue (.cons hfirst himage hrest)
          -- The earlier key stays, and it is the same text as the key that is put in.
          | eq => exact .cons hfirst (atKey_eq_of_order_eq horder mask ▸ hvalue) hrest
          | gt => exact .cons hfirst himage (ih hrest)

theorem AgreeEntries.foldl_insertEntry {mask : Mask} {entries others : Entries} :
    AgreeEntries mask entries others → ∀ {sorted arranged : Entries},
      AgreeEntries mask sorted arranged →
        AgreeEntries mask
          (entries.foldl (fun sorted entry => Value.insertEntry entry.1 entry.2 sorted) sorted)
          (others.foldl (fun sorted entry => Value.insertEntry entry.1 entry.2 sorted) arranged)
  | .nil, _, _, hsorted => hsorted
  | .cons hkey hvalue hrest, _, _, hsorted =>
      hrest.foldl_insertEntry (hsorted.insertEntry hkey hvalue)

theorem AgreeEntries.ofEntries {mask : Mask} {entries others : Entries}
    (h : AgreeEntries mask entries others) :
    Agree mask (.ofEntries entries) (.ofEntries others) :=
  (h.foldl_insertEntry .nil).agree

/-- Records of the same names agree if the values of each name do. -/
theorem agree_ofJson_obj {mask : Mask} {fields others : List (String × Json)}
    (h : List.Forall₂
      (fun field other => field.1 = other.1 ∧
        Agree (mask.field field.1) (ofJson field.2) (ofJson other.2)) fields others) :
    Agree mask (ofJson (.obj fields)) (ofJson (.obj others)) := by
  have hentries : AgreeEntries mask (ofJsonFields fields) (ofJsonFields others) := by
    induction h with
    | nil => exact .nil
    | @cons field other _ _ hfield _ ih =>
        obtain ⟨name, value⟩ := field
        obtain ⟨hname, hvalue⟩ := hfield
        rw [ofJsonFields, ofJsonFields, ← hname]
        exact .cons rfl hvalue ih
  exact hentries.ofEntries

end Value
end Template
end Provision
