import Provision.Proofs.Artifact.Makefile
import Provision.Proofs.Artifact.References

/-!
# Expansion of references

What make puts in the place of the references in a text, given the values of variables.  Stamps call
one function besides, which exchanges the slashes in the value of a variable for underscores.
-/

namespace Provision.Makefile

/-- The value of a variable as it stands in the name of a file: no slashes are left. -/
def flattened (value : String) : String :=
  String.ofList (value.toList.map (fun c => if c = '/' then '_' else c))

/-- How a call that flattens the value of a variable starts. -/
def callOpening : List Char :=
  ['$', '(', 's', 'u', 'b', 's', 't', ' ', '/', ',', '_', ',']

/-- The name of the variable in such a call at the front of a text. -/
def flattenedAt? (cs : List Char) : Option (List Char) :=
  if callOpening.isPrefixOf cs then
    (referenceAt? (cs.drop callOpening.length)).filter (fun name =>
      (cs.drop (callOpening.length + (name.length + 3))).head? = some ')')
  else none

/-- A text as make expands it, given the values of variables, behind so many characters that are
passed over.  Of all functions, only the one that stamps call is known. -/
def expandedBehind (values : String → String) : (passed : Nat) → List Char → List Char
  | _, [] => []
  | passed + 1, _ :: rest => expandedBehind values passed rest
  | 0, c :: rest =>
      match flattenedAt? (c :: rest), referenceAt? (c :: rest) with
      | some name, _ =>
          (flattened (values (String.ofList name))).toList ++
            expandedBehind values (callOpening.length + (name.length + 3)) rest
      | none, some name =>
          (values (String.ofList name)).toList ++ expandedBehind values (name.length + 2) rest
      | none, none => c :: expandedBehind values 0 rest

/-- A text as make expands it, given the values of variables. -/
def expanded (values : String → String) (s : String) : String :=
  String.ofList (expandedBehind values 0 s.toList)

section Expansion

variable {values : String → String} {s t first second : String}

theorem expandedBehind_length (values : String → String) (cs rest : List Char) :
    expandedBehind values cs.length (cs ++ rest) = expandedBehind values 0 rest := by
  induction cs with
  | nil => rfl
  | cons c more ih =>
      rw [List.length_cons, List.cons_append, expandedBehind]
      exact ih

theorem flattenedAt?_cons_of_ne {c : Char} (hc : c ≠ '$') (rest : List Char) :
    flattenedAt? (c :: rest) = none := by
  rw [flattenedAt?, if_neg]
  simp [callOpening, hc.symm]

/-- A reference is not such a call: a blank stands behind the name of a function. -/
theorem flattenedAt?_reference {name : String} (hplain : Name.IsPlain name) (rest : List Char) :
    flattenedAt? ((Makefile.reference name).toList ++ rest) = none := by
  rw [flattenedAt?, if_neg]
  rw [toList_makefile_reference_append, List.isPrefixOf_iff_prefix]
  rintro ⟨more, hmore⟩
  have hbehind := congrArg (fun cs => (cs.drop 2).dropWhile (Name.isNameChar true)) hmore
  have hname : (name.toList ++ ')' :: rest).dropWhile (Name.isNameChar true) = ')' :: rest := by
    rw [List.dropWhile_append_of_pos hplain, List.dropWhile_cons_of_neg (by decide)]
  have hcall : ((callOpening ++ more).drop 2).dropWhile (Name.isNameChar true) =
      [' ', '/', ',', '_', ','] ++ more := rfl
  simp only [hcall, List.drop_succ_cons, List.drop_zero, hname] at hbehind
  exact absurd (List.cons.inj hbehind).1 (by decide)

theorem flattenedAt?_call {name : String} (hplain : Name.IsPlain name) (hne : name ≠ "")
    (rest : List Char) :
    flattenedAt? (callOpening ++ ((Makefile.reference name).toList ++ ')' :: rest)) =
      some name.toList := by
  have hopening : callOpening.isPrefixOf
      (callOpening ++ ((Makefile.reference name).toList ++ ')' :: rest)) = true :=
    List.isPrefixOf_iff_prefix.mpr (List.prefix_append _ _)
  have hlength : (Makefile.reference name).toList.length = name.toList.length + 3 := by
    simp [ArtifactKind.reference]
  have hclosing : (callOpening ++ ((Makefile.reference name).toList ++ ')' :: rest)).drop
      (callOpening.length + (name.toList.length + 3)) = ')' :: rest := by
    rw [← List.drop_drop, List.drop_left, List.drop_left' hlength]
  rw [flattenedAt?, if_pos hopening, List.drop_left, referenceAt?_reference hplain hne,
    Option.filter_some, hclosing]
  rfl

/-- What a text expands to, whatever stands behind it. -/
def Expands (values : String → String) (s t : String) : Prop :=
  ∀ rest, expandedBehind values 0 (s.toList ++ rest) =
    t.toList ++ expandedBehind values 0 rest

namespace Expands

theorem expanded_eq (h : Expands values s t) : expanded values s = t := by
  have hall := h []
  rw [List.append_nil, expandedBehind, List.append_nil] at hall
  rw [expanded, hall, String.ofList_toList]

theorem append (hs : Expands values s first) (ht : Expands values t second) :
    Expands values (s ++ t) (first ++ second) := by
  intro rest
  rw [String.toList_append, String.toList_append, List.append_assoc, List.append_assoc, hs, ht]

theorem join {α : Type} {items : List α} {text value : α → String}
    (h : ∀ item ∈ items, Expands values (text item) (value item)) :
    Expands values (String.join (items.map text)) (String.join (items.map value)) := by
  induction items with
  | nil => exact fun rest => rfl
  | cons item others ih =>
      rw [List.map_cons, List.map_cons, String.join_cons, String.join_cons]
      exact (h item List.mem_cons_self).append
        (ih (fun other hother => h other (List.mem_cons_of_mem item hother)))

theorem literal (h : '$' ∉ s.toList) : Expands values s s := by
  intro rest
  generalize s.toList = cs at h
  induction cs with
  | nil => rfl
  | cons c more ih =>
      have hc : c ≠ '$' := fun heq => h (heq ▸ List.mem_cons_self)
      rw [List.cons_append, expandedBehind, flattenedAt?_cons_of_ne hc,
        referenceAt?_cons_of_ne hc, List.cons_append,
        ih (fun hmem => h (List.mem_cons_of_mem c hmem))]

theorem reference {name : String} (hplain : Name.IsPlain name) (hne : name ≠ "") :
    Expands values (Makefile.reference name) (values name) := by
  intro rest
  have hcall := flattenedAt?_reference hplain rest
  have hfound := referenceAt?_reference hplain hne rest
  have hbehind : expandedBehind values (name.toList.length + 2)
      ('(' :: (name.toList ++ ')' :: rest)) = expandedBehind values 0 rest := by
    have hall : '(' :: (name.toList ++ ')' :: rest) = ('(' :: (name.toList ++ [')'])) ++ rest := by
      simp
    rw [hall]
    simpa using expandedBehind_length values ('(' :: (name.toList ++ [')'])) rest
  rw [toList_makefile_reference_append] at hcall hfound ⊢
  rw [expandedBehind, hcall, hfound]
  simp only [hbehind, String.ofList_toList]

theorem call {name : String} (hplain : Name.IsPlain name) (hne : name ≠ "") :
    Expands values ("$(subst /,_," ++ Makefile.reference name ++ ")")
      (flattened (values name)) := by
  intro rest
  have hfound := flattenedAt?_call hplain hne rest
  have htext : ("$(subst /,_," ++ Makefile.reference name ++ ")").toList ++ rest =
      callOpening ++ ((Makefile.reference name).toList ++ ')' :: rest) := by
    have hopening : "$(subst /,_,".toList = callOpening := by decide
    simp [hopening]
  have hlength : (Makefile.reference name).toList.length = name.toList.length + 3 := by
    simp [ArtifactKind.reference]
  have hbehind : expandedBehind values (callOpening.length + (name.toList.length + 3))
      (callOpening.tail ++ ((Makefile.reference name).toList ++ ')' :: rest)) =
        expandedBehind values 0 rest := by
    have hall : callOpening.tail ++ ((Makefile.reference name).toList ++ ')' :: rest) =
        (callOpening.tail ++ ((Makefile.reference name).toList ++ [')'])) ++ rest := by
      simp
    have hskipped : (callOpening.tail ++ ((Makefile.reference name).toList ++ [')'])).length =
        callOpening.length + (name.toList.length + 3) := by
      simp only [List.length_append, List.length_tail, hlength, List.length_singleton]
      have hopening : callOpening.length = 12 := rfl
      omega
    rw [hall, ← hskipped, expandedBehind_length]
  have hcons : callOpening ++ ((Makefile.reference name).toList ++ ')' :: rest) =
      '$' :: (callOpening.tail ++ ((Makefile.reference name).toList ++ ')' :: rest)) := rfl
  rw [hcons] at hfound
  rw [htext, hcons, expandedBehind, hfound]
  simp only [hbehind, String.ofList_toList]

end Expands
end Expansion

end Provision.Makefile
