import Mathlib.Data.List.Find
import Provision.Proofs.Name

/-!
# How identifiers start

The identifier of a name starts with the capital form of the first letter or digit of the name, and
behind that it has the characters of identifiers alone.  So it is one that both kinds of artifact
accept exactly when the name has a letter before any digit, and what is appended to it makes no
difference.
-/

namespace Provision
namespace Name

/-- Whether a name has a letter before any digit. -/
def startsWithLetter (name : String) : Bool :=
  (name.toList.find? Char.isAlphanum).any Char.isAlpha

variable {name : String}

theorem isAlphanumeric_of_isNameChar {c : Char} (h : isNameChar true c = true) :
    Text.isAlphanumeric c = c.isAlphanum := by
  refine of_isNameChar (P := fun c => Text.isAlphanumeric c = c.isAlphanum) ?_ h
  decide +kernel

/-- The letters and digits of names have one form in lower case and one in upper case. -/
theorem cases_of_isNameChar {c : Char} (h : isNameChar true c = true)
    (hletter : c.isAlphanum = true) :
    Text.lower c = [c.toLower] ∧ Text.upper c.toLower = [c.toUpper] := by
  refine of_isNameChar (P := fun c => c.isAlphanum = true →
    Text.lower c = [c.toLower] ∧ Text.upper c.toLower = [c.toUpper]) ?_ h hletter
  decide +kernel

theorem startsIdentifier_toUpper {c : Char} (h : isNameChar true c = true)
    (hletter : c.isAlphanum = true) : (c.toUpper.isAlpha || c.toUpper == '_') = c.isAlpha := by
  refine of_isNameChar (P := fun c => c.isAlphanum = true →
    (c.toUpper.isAlpha || c.toUpper == '_') = c.isAlpha) ?_ h hletter
  decide +kernel

theorem IsPlain.head?_identifier (h : IsPlain name) :
    (Name.identifier name).toList.head? = (name.toList.find? Char.isAlphanum).map Char.toUpper := by
  have hchars : ∀ cs : List Char, (∀ c ∈ cs, isNameChar true c = true) →
      ((snakeFrom .start cs).flatMap Text.upper).head? =
        (cs.find? Char.isAlphanum).map Char.toUpper := by
    intro cs hcs
    induction cs with
    | nil => rfl
    | cons c rest ih =>
        obtain ⟨hc, hrest⟩ := List.forall_mem_cons.mp hcs
        rw [snakeFrom, isAlphanumeric_of_isNameChar hc]
        by_cases hletter : c.isAlphanum = true
        · obtain ⟨hlower, hupper⟩ := cases_of_isNameChar hc hletter
          simp [hletter, Before.needsUnderscore, hlower, hupper]
        · simp [hletter, Before.afterSeparator, ih hrest]
  rw [Name.identifier, Text.upperText, String.toList_ofList, snakeCase, String.toList_ofList]
  exact hchars name.toList h

/-- A name derives nothing exactly if it has no letter or digit. -/
theorem IsPlain.identifier_eq_empty_iff (h : IsPlain name) :
    Name.identifier name = "" ↔ ∀ c ∈ name.toList, Text.isAlphanumeric c = false := by
  have hhead : Name.identifier name = "" ↔ (Name.identifier name).toList.head? = none := by simp
  rw [hhead, h.head?_identifier, Option.map_eq_none_iff, List.find?_eq_none]
  refine forall₂_congr fun c hc => ?_
  rw [isAlphanumeric_of_isNameChar (h c hc), Bool.not_eq_true]

theorem isIdentifier_iff :
    isIdentifier name = true ↔
      (name.toList.head?.any fun c => c.isAlpha || c == '_') = true ∧
        ∀ c ∈ name.toList, isIdentifierChar c = true := by
  unfold isIdentifier
  cases name.toList with
  | nil => simp
  | cons first rest =>
      have hfirst : (first.isAlpha || first == '_') = true → isIdentifierChar first = true := by
        intro h
        rcases Bool.or_eq_true_iff.mp h with hletter | hline
        · simp [isIdentifierChar, Char.isAlphanum, hletter]
        · simp [isIdentifierChar, hline]
      simp only [Bool.and_eq_true, List.all_eq_true, List.head?_cons, Option.any_some,
        List.forall_mem_cons]
      exact ⟨fun h => ⟨h.1, hfirst h.1, h.2⟩, fun h => ⟨h.1, h.2.2⟩⟩

/-- What stands behind an identifier makes no difference as long as its characters may. -/
theorem isIdentifier_append_iff {ending : String} (hne : name ≠ "")
    (hending : ∀ c ∈ ending.toList, isIdentifierChar c = true) :
    isIdentifier (name ++ ending) = true ↔ isIdentifier name = true := by
  have hhead : (name ++ ending).toList.head? = name.toList.head? := by
    have hlist : name.toList ≠ [] := fun hnil => hne (String.toList_inj.mp hnil)
    obtain ⟨first, rest, hname⟩ := List.exists_cons_of_ne_nil hlist
    rw [String.toList_append, hname]
    rfl
  rw [isIdentifier_iff, isIdentifier_iff, hhead, String.toList_append]
  simp only [List.mem_append]
  exact and_congr_right fun _ =>
    ⟨fun h c hc => h c (.inl hc), fun h c hc => hc.elim (h c) (hending c)⟩

theorem IsPlain.isIdentifier_identifier_iff (h : IsPlain name) :
    isIdentifier (Name.identifier name) = true ↔ startsWithLetter name = true := by
  rw [isIdentifier_iff, h.head?_identifier, startsWithLetter]
  have hchars : ∀ c ∈ (Name.identifier name).toList, isIdentifierChar c = true :=
    fun c hc => h.isIdentifierChar_of_mem_identifier hc
  rw [and_iff_left hchars]
  cases hfirst : name.toList.find? Char.isAlphanum with
  | none => rfl
  | some c =>
      have hstart := startsIdentifier_toUpper (h c (List.mem_of_find?_eq_some hfirst))
        (List.find?_some hfirst)
      rw [Option.map_some, Option.any_some, Option.any_some, hstart]

end Name
end Provision
