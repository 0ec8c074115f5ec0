import Provision.Json.Printer
import Provision.Proofs.Json.Quoted
import Provision.Proofs.Text.Lines

/-!
# Compact texts tell values apart

A value without numbers is written so that its text ends where the value does: a literal at its
closing quotation mark, a list or a record at its closing bracket.  So the text of such a value in
front of anything else is the text of no other value, and of values with one text there is only one.
-/

namespace Provision

/-! ## Texts that end by themselves -/

/-- Among the texts of certain values, the text of a value tells it apart from the others and from
what stands behind it. -/
def Delimits {α : Type} (values : α → Prop) (write : α → List Char) (a : α) : Prop :=
  ∀ b, values b → ∀ rest more, write a ++ rest = write b ++ more → a = b ∧ rest = more

namespace Text

/-- What stands behind the first text of a list. -/
def continued {α : Type} (cut close : Char) (write : α → List Char) (items : List α)
    (rest : List Char) : List Char :=
  match items with
  | [] => close :: rest
  | items => cut :: (joinPieces cut (items.map write) ++ close :: rest)

section Lists

variable {α : Type} {values : α → Prop} {write : α → List Char} {cut close : Char}

theorem joinPieces_map_cons (item : α) (others : List α) (rest : List Char) :
    joinPieces cut ((item :: others).map write) ++ close :: rest =
      write item ++ continued cut close write others rest := by
  cases others with
  | nil => rfl
  | cons second more =>
      rw [List.map_cons, joinPieces_cons cut (write item) (by simp), List.append_assoc]
      rfl

/-- A list is told apart by its text if its items are, none of which starts like the end of a
list. -/
theorem joinPieces_append_inj (hclose : cut ≠ close)
    (hstart : ∀ item, values item → ∃ c cs, write item = c :: cs ∧ c ≠ close) {items : List α}
    (hitems : ∀ item ∈ items, values item ∧ Delimits values write item) {others : List α}
    (hothers : ∀ other ∈ others, values other) {rest more : List Char}
    (h : joinPieces cut (items.map write) ++ close :: rest =
      joinPieces cut (others.map write) ++ close :: more) :
    items = others ∧ rest = more := by
  have hended : ∀ {item : α} {after tail : List Char}, values item →
      close :: after ≠ write item ++ tail := by
    intro item after tail hitem heq
    obtain ⟨c, cs, hwrite, hc⟩ := hstart item hitem
    rw [hwrite, List.cons_append] at heq
    exact hc (List.cons.inj heq).1.symm
  induction items generalizing others with
  | nil =>
      cases others with
      | nil => exact ⟨rfl, (List.cons.inj h).2⟩
      | cons other remaining =>
          rw [joinPieces_map_cons] at h
          exact absurd h (hended (hothers other List.mem_cons_self))
  | cons item tail ih =>
      obtain ⟨hitem, hdelimits⟩ := hitems item List.mem_cons_self
      cases others with
      | nil =>
          rw [joinPieces_map_cons] at h
          exact absurd h.symm (hended hitem)
      | cons other remaining =>
          rw [joinPieces_map_cons, joinPieces_map_cons] at h
          obtain ⟨rfl, hbehind⟩ := hdelimits other (hothers other List.mem_cons_self) _ _ h
          have htail := fun next hnext => hitems next (List.mem_cons_of_mem item hnext)
          have hremaining := fun next hnext => hothers next (List.mem_cons_of_mem item hnext)
          cases tail with
          | nil =>
              cases remaining with
              | nil => exact ⟨rfl, (List.cons.inj hbehind).2⟩
              | cons next last => exact absurd (List.cons.inj hbehind).1.symm hclose
          | cons second further =>
              cases remaining with
              | nil => exact absurd (List.cons.inj hbehind).1 hclose
              | cons next last =>
                  obtain ⟨htails, hrest⟩ := ih htail hremaining (List.cons.inj hbehind).2
                  exact ⟨by rw [htails], hrest⟩

end Lists
end Text

namespace Json

/-! ## Values without numbers -/

/-- A value that is made of texts and of what is missing. -/
inductive IsTextual : Json → Prop where
  | null : IsTextual .null
  | str (s : String) : IsTextual (.str s)
  | arr {items : List Json} (h : ∀ item ∈ items, IsTextual item) : IsTextual (.arr items)
  | obj {fields : List (String × Json)} (h : ∀ field ∈ fields, IsTextual field.2) :
      IsTextual (.obj fields)

theorem isTextual_ofOption {α : Type} {write : α → Json} (h : ∀ a, IsTextual (write a))
    (value : Option α) : IsTextual (.ofOption write value) := by
  cases value with
  | none => exact .null
  | some a => exact h a

theorem isTextual_strings (texts : List String) : IsTextual (.strings texts) := by
  refine .arr ?_
  rw [List.forall_mem_map]
  exact fun text _ => .str text

/-- How the field of a record is written. -/
def compactField (field : String × Json) : List Char :=
  quoted field.1.toList ++ ':' :: compact field.2

theorem compactItems_eq (items : List Json) :
    compactItems items = Text.joinPieces ',' (items.map compact) := by
  induction items with
  | nil => rfl
  | cons item rest ih =>
      cases rest with
      | nil => rfl
      | cons second more =>
          rw [List.map_cons, Text.joinPieces_cons ',' _ (by simp), ← ih]
          rfl

theorem compactFields_eq (fields : List (String × Json)) :
    compactFields fields = Text.joinPieces ',' (fields.map compactField) := by
  induction fields with
  | nil => rfl
  | cons field rest ih =>
      cases rest with
      | nil => rfl
      | cons second more =>
          rw [List.map_cons, Text.joinPieces_cons ',' _ (by simp), ← ih]
          rfl

/-- The character with which the text of a value starts. -/
def firstChar : Json → Char
  | .null => 'n'
  | .str _ => '"'
  | .arr _ => '['
  | _ => '\x7b'

theorem IsTextual.exists_compact_eq_cons {v : Json} (h : IsTextual v) :
    ∃ cs, compact v = v.firstChar :: cs := by
  cases h with
  | null => exact ⟨_, rfl⟩
  | str s => exact ⟨_, rfl⟩
  | arr h => exact ⟨_, rfl⟩
  | obj h => exact ⟨_, rfl⟩

/-- Values whose texts start differently differ, so where two texts agree, the values have one
shape. -/
theorem IsTextual.firstChar_eq {v w : Json} (hv : IsTextual v) (hw : IsTextual w)
    {rest more : List Char} (h : compact v ++ rest = compact w ++ more) :
    v.firstChar = w.firstChar := by
  obtain ⟨cs, hcs⟩ := hv.exists_compact_eq_cons
  obtain ⟨others, hothers⟩ := hw.exists_compact_eq_cons
  rw [hcs, hothers] at h
  exact (List.cons.inj h).1

theorem delimits_null : Delimits IsTextual compact .null := by
  intro w hw rest more heq
  have hfirst := IsTextual.null.firstChar_eq hw heq
  cases hw with
  | null => exact ⟨rfl, List.append_cancel_left heq⟩
  | str _ | arr _ | obj _ => simp [firstChar] at hfirst

theorem delimits_str (s : String) : Delimits IsTextual compact (.str s) := by
  intro w hw rest more heq
  have hfirst := (IsTextual.str s).firstChar_eq hw heq
  cases hw with
  | str t =>
      obtain ⟨hsame, hrest⟩ := quoted_append_inj heq
      exact ⟨by rw [String.toList_inj.mp hsame], hrest⟩
  | null | arr _ | obj _ => simp [firstChar] at hfirst

theorem delimits_arr {items : List Json} (hitems : ∀ item ∈ items, IsTextual item)
    (hdelimits : ∀ item ∈ items, Delimits IsTextual compact item) :
    Delimits IsTextual compact (.arr items) := by
  have hstart : ∀ item, IsTextual item → ∃ c cs, compact item = c :: cs ∧ c ≠ ']' := by
    intro item hitem
    obtain ⟨cs, hcs⟩ := hitem.exists_compact_eq_cons
    exact ⟨_, cs, hcs, by cases hitem <;> simp [firstChar]⟩
  intro w hw rest more heq
  have hfirst := (IsTextual.arr hitems).firstChar_eq hw heq
  cases hw with
  | @arr others hothers =>
      have hbody : Text.joinPieces ',' (items.map compact) ++ ']' :: rest =
          Text.joinPieces ',' (others.map compact) ++ ']' :: more := by
        rw [← compactItems_eq, ← compactItems_eq]
        simpa [compact] using heq
      obtain ⟨rfl, hrest⟩ := Text.joinPieces_append_inj (by decide) hstart
        (fun item hitem => ⟨hitems item hitem, hdelimits item hitem⟩) hothers hbody
      exact ⟨rfl, hrest⟩
  | null | str _ | obj _ => simp [firstChar] at hfirst

theorem delimits_compactField {field : String × Json}
    (h : Delimits IsTextual compact field.2) :
    Delimits (fun other : String × Json => IsTextual other.2) compactField field := by
  intro other hother rest more heq
  rw [compactField, compactField, List.append_assoc, List.append_assoc] at heq
  obtain ⟨hkey, hvalue⟩ := quoted_append_inj heq
  obtain ⟨hsame, hrest⟩ := h other.2 hother rest more (List.cons.inj hvalue).2
  exact ⟨Prod.ext (String.toList_inj.mp hkey) hsame, hrest⟩

theorem delimits_obj {fields : List (String × Json)}
    (hfields : ∀ field ∈ fields, IsTextual field.2)
    (hdelimits : ∀ field ∈ fields, Delimits IsTextual compact field.2) :
    Delimits IsTextual compact (.obj fields) := by
  have hstart : ∀ field : String × Json, IsTextual field.2 →
      ∃ c cs, compactField field = c :: cs ∧ c ≠ '\x7d' :=
    fun field _ => ⟨'"', _, rfl, by decide⟩
  intro w hw rest more heq
  have hfirst := (IsTextual.obj hfields).firstChar_eq hw heq
  cases hw with
  | @obj others hothers =>
      have hbody : Text.joinPieces ',' (fields.map compactField) ++ '\x7d' :: rest =
          Text.joinPieces ',' (others.map compactField) ++ '\x7d' :: more := by
        rw [← compactFields_eq, ← compactFields_eq]
        simpa [compact] using heq
      obtain ⟨rfl, hrest⟩ := Text.joinPieces_append_inj (by decide) hstart
        (fun field hfield => ⟨hfields field hfield, delimits_compactField (hdelimits field hfield)⟩)
        hothers hbody
      exact ⟨rfl, hrest⟩
  | null | str _ | arr _ => simp [firstChar] at hfirst

theorem IsTextual.delimits {v : Json} (h : IsTextual v) : Delimits IsTextual compact v := by
  induction h with
  | null => exact delimits_null
  | str s => exact delimits_str s
  | arr hitems ih => exact delimits_arr hitems ih
  | obj hfields ih => exact delimits_obj hfields ih

/-- Values without numbers are told apart by their compact texts. -/
theorem IsTextual.eq_of_compactText {v w : Json} (hv : IsTextual v) (hw : IsTextual w)
    (h : v.compactText = w.compactText) : v = w := by
  have heq : compact v ++ [] = compact w ++ [] := by
    rw [String.ofList_injective h]
  exact (hv.delimits w hw [] [] heq).1

end Json
end Provision
