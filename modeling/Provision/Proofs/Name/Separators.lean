import Provision.Name.Snake
import Provision.Proofs.Text.Charset

/-!
# Separators in names

Reading a name goes on behind a text with what stands before the next character, and all that it
asks of what follows is whether a small letter comes next.  A separator is none, so it makes no
difference which separators stand between two parts of a name, nor how many of them.
-/

namespace Provision
namespace Name

open Text

namespace Before

/-- What stands before the next character once a character is read. -/
def next (before : Before) (c : Char) : Before :=
  if isAlphanumeric c then .letter c else before.afterSeparator

/-- What stands before the next character once a text is read. -/
def after (before : Before) (cs : List Char) : Before := cs.foldl next before

theorem afterSeparator_afterSeparator (before : Before) :
    before.afterSeparator.afterSeparator = before.afterSeparator := by
  cases before <;> rfl

/-- Of what comes next it only counts whether it is a small letter. -/
theorem needsUnderscore_congr {following other : Option Char}
    (h : following.any isLower = other.any isLower) (before : Before) (c : Char) :
    before.needsUnderscore c following = before.needsUnderscore c other := by
  cases before with
  | start => rfl
  | separator => rfl
  | letter previous => simp only [needsUnderscore, startsWord, h]

end Before

theorem snakeFrom_of_isAlphanumeric {before : Before} {c : Char} (h : isAlphanumeric c = true)
    (rest : List Char) :
    snakeFrom before (c :: rest) =
      (if before.needsUnderscore c rest.head? then ['_'] else []) ++ lower c ++
        snakeFrom (.letter c) rest := by
  rw [snakeFrom, if_pos h]

theorem snakeFrom_of_isAlphanumeric_eq_false {before : Before} {c : Char}
    (h : isAlphanumeric c = false) (rest : List Char) :
    snakeFrom before (c :: rest) = snakeFrom before.afterSeparator rest := by
  rw [snakeFrom, if_neg (by simp [h])]

/-- A text is read to its end and the rest behind it, unless the rest starts with a small letter,
which could make the last capital of the text start a word. -/
theorem snakeFrom_append (before : Before) (cs : List Char) {rest : List Char}
    (hrest : rest.head?.any isLower = false) :
    snakeFrom before (cs ++ rest) = snakeFrom before cs ++ snakeFrom (before.after cs) rest := by
  induction cs generalizing before with
  | nil => rfl
  | cons c more ih =>
      rw [List.cons_append, Before.after, List.foldl_cons, Before.next]
      by_cases hletter : isAlphanumeric c = true
      · have hnext : (more ++ rest).head?.any isLower = more.head?.any isLower := by
          cases more with
          | nil => exact hrest
          | cons d others => rfl
        rw [snakeFrom_of_isAlphanumeric hletter, snakeFrom_of_isAlphanumeric hletter,
          Before.needsUnderscore_congr hnext, ih, if_pos hletter, Before.after]
        simp only [List.append_assoc]
      · have hseparator : isAlphanumeric c = false := by simpa using hletter
        rw [snakeFrom_of_isAlphanumeric_eq_false hseparator,
          snakeFrom_of_isAlphanumeric_eq_false hseparator, ih, if_neg hletter, Before.after]

/-- Separators are passed over, and they count as one. -/
theorem snakeFrom_separators_append {separators : List Char}
    (h : ∀ c ∈ separators, isAlphanumeric c = false) (hne : separators ≠ []) (before : Before)
    (rest : List Char) :
    snakeFrom before (separators ++ rest) = snakeFrom before.afterSeparator rest := by
  induction separators generalizing before with
  | nil => exact absurd rfl hne
  | cons c more ih =>
      have hmore : ∀ other ∈ more, isAlphanumeric other = false :=
        fun other hother => h other (List.mem_cons_of_mem c hother)
      rw [List.cons_append, snakeFrom_of_isAlphanumeric_eq_false (h c List.mem_cons_self)]
      by_cases hlast : more = []
      · rw [hlast, List.nil_append]
      · rw [ih hmore hlast, Before.afterSeparator_afterSeparator]

theorem toList_snakeCase (name : String) :
    (snakeCase name).toList = snakeFrom .start name.toList := by
  rw [snakeCase, String.toList_ofList]

/-- A text that has no letters and no digits, and is not empty. -/
def IsSeparator (text : String) : Prop :=
  text ≠ "" ∧ ∀ c ∈ text.toList, isAlphanumeric c = false

instance : DecidablePred IsSeparator :=
  fun text => inferInstanceAs
    (Decidable (text ≠ "" ∧ ∀ c ∈ text.toList, isAlphanumeric c = false))

namespace IsSeparator

variable {separator : String}

theorem toList_ne_nil (h : IsSeparator separator) : separator.toList ≠ [] :=
  fun hnil => h.1 (String.toList_inj.mp hnil)

theorem any_isLower_head? (h : IsSeparator separator) (rest : List Char) :
    (separator.toList ++ rest).head?.any isLower = false := by
  obtain ⟨c, more, hlist⟩ := List.exists_cons_of_ne_nil h.toList_ne_nil
  have hc : isAlphanumeric c = false := h.2 c (hlist ▸ List.mem_cons_self)
  rw [hlist, List.cons_append, List.head?_cons, Option.any_some, Bool.eq_false_iff]
  intro hlower
  rw [isAlphanumeric_of_isLower hlower] at hc
  contradiction

/-- What stands before a separator and what stands behind it are read on their own. -/
theorem toList_snakeCase_append (h : IsSeparator separator) (front back : String) :
    (snakeCase (front ++ separator ++ back)).toList =
      snakeFrom .start front.toList ++
        snakeFrom (Before.start.after front.toList).afterSeparator back.toList := by
  rw [toList_snakeCase, String.toList_append, String.toList_append, List.append_assoc,
    snakeFrom_append _ _ (h.any_isLower_head? _),
    snakeFrom_separators_append h.2 h.toList_ne_nil]

end IsSeparator

/-- Two parts of a name come to the same with any separator between them, and a separator at either
end of a name makes no difference at all. -/
theorem snakeCase_eq_of_isSeparator {separator other : String} (h : IsSeparator separator)
    (hother : IsSeparator other) (front back : String) :
    snakeCase (front ++ separator ++ back) = snakeCase (front ++ other ++ back) ∧
      snakeCase (separator ++ front) = snakeCase front ∧
      snakeCase (front ++ separator) = snakeCase front := by
  refine ⟨String.toList_inj.mp ?_, String.toList_inj.mp ?_, String.toList_inj.mp ?_⟩
  · rw [h.toList_snakeCase_append, hother.toList_snakeCase_append]
  · have hstart := h.toList_snakeCase_append "" front
    rw [String.empty_append] at hstart
    rw [hstart, toList_snakeCase]
    rfl
  · have hend := h.toList_snakeCase_append front ""
    rw [String.append_empty] at hend
    rw [hend, toList_snakeCase]
    exact List.append_nil _

/-- Parts that a small letter would join, and separators of one and of several characters. -/
theorem snakeCase_eq_of_isSeparator_street :
    IsSeparator "-" ∧ IsSeparator " · " ∧
      snakeCase "ÄÖ-straßeNr" = snakeCase "ÄÖ · straßeNr" ∧ snakeCase "-ÄÖ" = snakeCase "ÄÖ" ∧
      snakeCase "ÄÖ-" = snakeCase "ÄÖ" := by
  have hdash : IsSeparator "-" := by decide +kernel
  have hdot : IsSeparator " · " := by decide +kernel
  exact ⟨hdash, hdot, snakeCase_eq_of_isSeparator hdash hdot "ÄÖ" "straßeNr"⟩

end Name
end Provision
