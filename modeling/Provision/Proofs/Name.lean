import Provision.Name.Basic
import Provision.Name.Identifier
import Provision.Proofs.Text.Lines

/-!
# Characters of names and identifiers

Names and the identifiers derived from them have letters, digits and a few signs, all of them
ASCII, and none of these is blank.
-/

namespace Provision
namespace Name

theorem toNat_lt_of_isNameChar {c : Char} (h : isNameChar true c = true) : c.toNat < 128 := by
  unfold isNameChar Char.isAlphanum Char.isAlpha Char.isUpper Char.isLower Char.isDigit at h
  simp only [Bool.true_and, Bool.or_eq_true, Bool.and_eq_true, decide_eq_true_eq, beq_iff_eq,
    ge_iff_le, UInt32.le_iff_toNat_le, Char.toNat_val] at h
  rcases h with (((hletter | hdigit) | rfl) | rfl) | rfl
  · have hlast : 'Z'.toNat < 128 ∧ 'z'.toNat < 128 := by decide
    omega
  · have hlast : '9'.toNat < 128 := by decide
    omega
  · decide
  · decide
  · decide

/-- What holds of all name characters can be told from their codes. -/
theorem of_isNameChar {P : Char → Prop}
    (h : ∀ code < 128, isNameChar true (Char.ofNat code) = true → P (Char.ofNat code)) {c : Char}
    (hc : isNameChar true c = true) : P c := by
  have hcode := h c.toNat (toNat_lt_of_isNameChar hc)
  rw [Char.ofNat_toNat] at hcode
  exact hcode hc

theorem isBlank_of_isNameChar {c : Char} (h : isNameChar true c = true) :
    Text.isBlank c = false := by
  refine of_isNameChar (P := fun c => Text.isBlank c = false) ?_ h
  decide

theorem isNameChar_of_isIdentifierChar {c : Char} (h : isIdentifierChar c = true) :
    isNameChar true c = true := by
  unfold isIdentifierChar at h
  unfold isNameChar
  rcases Bool.or_eq_true_iff.mp h with hletter | hline
  · rw [hletter]
    rfl
  · rw [hline]
    simp

/-- A name of letters, digits and signs is written in the characters of identifiers alone. -/
theorem isIdentifierChar_of_mem_upper {c d e : Char} (h : isNameChar true c = true)
    (hletter : Text.isAlphanumeric c = true) (hd : d ∈ Text.lower c) (he : e ∈ Text.upper d) :
    isIdentifierChar e = true := by
  refine of_isNameChar (P := fun c => Text.isAlphanumeric c = true →
    ∀ d ∈ Text.lower c, ∀ e ∈ Text.upper d, isIdentifierChar e = true) ?_ h hletter d hd e he
  decide +kernel

/-- What holds of the underscore and of the letters and digits of a name in lower case holds of all
of its characters in snake case. -/
theorem of_mem_snakeFrom {P : Char → Prop} (hline : P '_')
    (hlower : ∀ c, isNameChar true c = true → Text.isAlphanumeric c = true →
      ∀ d ∈ Text.lower c, P d)
    {before : Before} {cs : List Char} (h : ∀ c ∈ cs, isNameChar true c = true) :
    ∀ d ∈ snakeFrom before cs, P d := by
  induction cs generalizing before with
  | nil =>
      intro d hd
      exact absurd hd List.not_mem_nil
  | cons c rest ih =>
      have hrest : ∀ other ∈ rest, isNameChar true other = true :=
        fun other hother => h other (List.mem_cons_of_mem c hother)
      intro d hd
      rw [snakeFrom] at hd
      split at hd
      · next hletter =>
          rcases List.mem_append.mp hd with hfirst | hlater
          · rcases List.mem_append.mp hfirst with hunderscore | hsmall
            · split at hunderscore
              · obtain rfl := List.mem_singleton.mp hunderscore
                exact hline
              · exact absurd hunderscore List.not_mem_nil
            · exact hlower c (h c List.mem_cons_self) hletter d hsmall
          · exact ih hrest d hlater
      · exact ih hrest d hd

/-- A text has no other characters than names have. -/
def IsPlain (text : String) : Prop :=
  ∀ c ∈ text.toList, isNameChar true c = true

instance : DecidablePred IsPlain :=
  fun text => inferInstanceAs (Decidable (∀ c ∈ text.toList, isNameChar true c = true))

theorem IsPlain.append {text other : String} (h : IsPlain text) (hother : IsPlain other) :
    IsPlain (text ++ other) := by
  intro c hc
  rw [String.toList_append] at hc
  rcases List.mem_append.mp hc with hleft | hright
  · exact h c hleft
  · exact hother c hright

theorem isPlain_of_isName {name : String} (h : isName true name = true) : IsPlain name := by
  unfold isName at h
  simp only [Bool.and_eq_true, List.all_eq_true] at h
  exact h.2

theorem isPlain_of_isIdentifier {name : String} (h : isIdentifier name = true) :
    IsPlain name ∧ name ≠ "" := by
  unfold isIdentifier at h
  split at h
  · contradiction
  · next first rest hname =>
      simp only [Bool.and_eq_true, List.all_eq_true] at h
      have hfirst : isIdentifierChar first = true := by
        unfold isIdentifierChar Char.isAlphanum
        rcases Bool.or_eq_true_iff.mp h.1 with hletter | hline
        · rw [hletter, Bool.true_or, Bool.true_or]
        · rw [hline, Bool.or_true]
      refine ⟨?_, ?_⟩
      · intro c hc
        rw [hname] at hc
        apply isNameChar_of_isIdentifierChar
        rcases List.mem_cons.mp hc with rfl | hrest
        · exact hfirst
        · exact h.2 c hrest
      · rintro rfl
        exact absurd hname (by simp)

namespace IsPlain

variable {name : String}

theorem isIdentifierChar_of_mem_identifier (h : IsPlain name) {e : Char}
    (he : e ∈ (identifier name).toList) : isIdentifierChar e = true := by
  rw [Name.identifier, Text.upperText, String.toList_ofList, snakeCase, String.toList_ofList] at he
  obtain ⟨d, hd, he⟩ := List.mem_flatMap.mp he
  have hline : ∀ e ∈ Text.upper '_', isIdentifierChar e = true := by decide +kernel
  refine of_mem_snakeFrom (P := fun d => ∀ e ∈ Text.upper d, isIdentifierChar e = true) hline ?_ h
    d hd e he
  exact fun c hc hletter d hd e he => isIdentifierChar_of_mem_upper hc hletter hd he

theorem identifier (h : IsPlain name) : IsPlain (identifier name) :=
  fun _ he => isNameChar_of_isIdentifierChar (h.isIdentifierChar_of_mem_identifier he)

theorem stage (h : IsPlain name) : IsPlain (stage name) := by
  intro e he
  rw [Name.stage, String.toList_ofList, snakeCase, String.toList_ofList] at he
  obtain ⟨d, hd, rfl⟩ := List.mem_map.mp he
  refine of_mem_snakeFrom (P := fun d => isNameChar true (kebabChar d) = true) (by decide) ?_ h d hd
  intro c hc _
  refine of_isNameChar
    (P := fun c => ∀ d ∈ Text.lower c, isNameChar true (kebabChar d) = true) ?_ hc
  decide +kernel

theorem urlIdentifier (h : IsPlain name) : IsPlain (urlIdentifier name) :=
  h.identifier.append (by decide)

theorem archiveIdentifier (h : IsPlain name) : IsPlain (archiveIdentifier name) :=
  h.identifier.append (by decide)

theorem stampIdentifier (h : IsPlain name) : IsPlain (stampIdentifier name) :=
  h.identifier.append (by decide)

theorem scopedIdentifier {owner : String} (howner : IsPlain owner) (h : IsPlain name) :
    IsPlain (scopedIdentifier owner name) := by
  unfold Name.scopedIdentifier
  split
  · exact h.identifier
  · exact (howner.identifier.append (by decide)).append h.identifier

end IsPlain

end Name

namespace ToolName

theorem isPlain_text (name : ToolName) : Name.IsPlain name.text :=
  Name.isPlain_of_isName name.isName_text

theorem text_ne_empty (name : ToolName) : name.text ≠ "" := by
  intro hempty
  have hname := name.isName_text
  rw [hempty] at hname
  exact absurd hname (by decide)

end ToolName
end Provision
