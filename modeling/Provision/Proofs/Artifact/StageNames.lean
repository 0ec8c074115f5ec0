import Provision.Proofs.Artifact.Dockerfile
import Provision.Proofs.Name.Start

/-!
# Stages as names of tools

Identifiers are snake case in capitals, and stages are snake case with dashes.  Both can be undone
on what names come to in snake case, so names that share an identifier are those that share a stage.
-/

namespace Provision
namespace Name

/-- Small letters, digits and the underscore. -/
def isSnakeChar (c : Char) : Bool :=
  c.isLower || c.isDigit || c == '_'

theorem isNameChar_of_isSnakeChar {c : Char} (h : isSnakeChar c = true) :
    isNameChar true c = true := by
  unfold isSnakeChar at h
  unfold isNameChar Char.isAlphanum Char.isAlpha
  simp only [Bool.or_eq_true] at h ⊢
  tauto

/-- What holds of all characters of snake case can be told from their codes. -/
theorem of_isSnakeChar {P : Char → Prop}
    (h : ∀ code < 128, isSnakeChar (Char.ofNat code) = true → P (Char.ofNat code)) {c : Char}
    (hc : isSnakeChar c = true) : P c :=
  of_isNameChar (P := fun c => isSnakeChar c = true → P c) (fun code hcode _ => h code hcode)
    (isNameChar_of_isSnakeChar hc) hc

theorem toLower_upper_of_isSnakeChar {c : Char} (h : isSnakeChar c = true) :
    (Text.upper c).map Char.toLower = [c] := by
  have hcases : c = '_' ∨ c.isAlphanum = true :=
    of_isSnakeChar (P := fun c => c = '_' ∨ c.isAlphanum = true) (by decide) h
  obtain rfl | hletter := hcases
  · decide
  · have hsmall : c.toLower = c := of_isSnakeChar (P := fun c => c.toLower = c) (by decide) h
    have hback : c.toUpper.toLower = c :=
      of_isSnakeChar (P := fun c => c.toUpper.toLower = c) (by decide) h
    have hupper := (cases_of_isNameChar (isNameChar_of_isSnakeChar h) hletter).2
    rw [hsmall] at hupper
    rw [hupper, List.map_singleton, hback]

theorem isSnakeChar_toLower_of_isNameChar {c : Char} (h : isNameChar true c = true)
    (hletter : c.isAlphanum = true) : isSnakeChar c.toLower = true := by
  refine of_isNameChar (P := fun c => c.isAlphanum = true → isSnakeChar c.toLower = true) ?_ h
    hletter
  decide

/-- Puts the underscore back in the place of a dash. -/
def snakeChar (c : Char) : Char :=
  if c = '-' then '_' else c

theorem snakeChar_kebabChar_of_isSnakeChar {c : Char} (h : isSnakeChar c = true) :
    snakeChar (kebabChar c) = c := by
  refine of_isSnakeChar (P := fun c => snakeChar (kebabChar c) = c) ?_ h
  decide

namespace IsPlain

variable {name other : String}

theorem isSnakeChar_of_mem_snakeCase (h : IsPlain name) :
    ∀ c ∈ (snakeCase name).toList, isSnakeChar c = true := by
  rw [snakeCase, String.toList_ofList]
  refine of_mem_snakeFrom (P := fun c => isSnakeChar c = true) (by decide) ?_ h
  intro c hc hletter d hd
  rw [isAlphanumeric_of_isNameChar hc] at hletter
  rw [(cases_of_isNameChar hc hletter).1] at hd
  rw [List.mem_singleton.mp hd]
  exact isSnakeChar_toLower_of_isNameChar hc hletter

/-- An identifier in small letters is the snake case that it was made of. -/
theorem map_toLower_identifier (h : IsPlain name) :
    (Name.identifier name).toList.map Char.toLower = (snakeCase name).toList := by
  rw [Name.identifier, Text.upperText, String.toList_ofList, List.map_flatMap]
  calc (snakeCase name).toList.flatMap (fun c => (Text.upper c).map Char.toLower)
      = (snakeCase name).toList.flatMap (fun c => [c]) :=
        List.flatMap_congr
          (fun c hc => toLower_upper_of_isSnakeChar (h.isSnakeChar_of_mem_snakeCase c hc))
    _ = (snakeCase name).toList := List.flatMap_singleton' _

/-- A stage with underscores is the snake case that it was made of. -/
theorem map_snakeChar_stage (h : IsPlain name) :
    (Name.stage name).toList.map snakeChar = (snakeCase name).toList := by
  rw [Name.stage, String.toList_ofList, List.map_map]
  calc (snakeCase name).toList.map (snakeChar ∘ kebabChar)
      = (snakeCase name).toList.map id :=
        List.map_congr_left (fun c hc =>
          snakeChar_kebabChar_of_isSnakeChar (h.isSnakeChar_of_mem_snakeCase c hc))
    _ = (snakeCase name).toList := List.map_id _

theorem identifier_eq_iff (h : IsPlain name) (hother : IsPlain other) :
    Name.identifier name = Name.identifier other ↔ snakeCase name = snakeCase other := by
  refine ⟨fun heq => String.toList_inj.mp ?_, fun heq => by rw [Name.identifier, heq]; rfl⟩
  rw [← h.map_toLower_identifier, ← hother.map_toLower_identifier, heq]

theorem stage_eq_iff (h : IsPlain name) (hother : IsPlain other) :
    Name.stage name = Name.stage other ↔ snakeCase name = snakeCase other := by
  refine ⟨fun heq => String.toList_inj.mp ?_, fun heq => by rw [Name.stage, heq]; rfl⟩
  rw [← h.map_snakeChar_stage, ← hother.map_snakeChar_stage, heq]

end IsPlain

/-- Two names have one stage if they have one identifier, and not otherwise; so tools have different
stages in a Dockerfile exactly when they have different identifiers. -/
theorem stage_eq_iff_identifier_eq {name other : String} (h : isName true name = true)
    (hother : isName true other = true) :
    (stage name = stage other ↔ identifier name = identifier other) ∧
      ∀ config : Config,
        (Dockerfile.stageName config name ≠ Dockerfile.stageName config other ↔
          identifier name ≠ identifier other) := by
  have hplain := isPlain_of_isName h
  have hotherPlain := isPlain_of_isName hother
  have hsame : stage name = stage other ↔ identifier name = identifier other := by
    rw [hplain.stage_eq_iff hotherPlain, hplain.identifier_eq_iff hotherPlain]
  refine ⟨hsame, fun config => not_congr ?_⟩
  rw [Dockerfile.stageName, Dockerfile.stageName, String.append_right_inj]
  exact hsame

/-- Two spellings of one name, and a name that is spelled like none of them. -/
theorem stage_eq_iff_identifier_eq_lint :
    isName true "golangci-lint" = true ∧ isName true "golangciLint" = true ∧
      isName true "golangcilint" = true ∧ stage "golangci-lint" = stage "golangciLint" ∧
      stage "golangci-lint" ≠ stage "golangcilint" := by
  have hdash : isName true "golangci-lint" = true := by decide
  have hhump : isName true "golangciLint" = true := by decide
  have hflat : isName true "golangcilint" = true := by decide
  refine ⟨hdash, hhump, hflat, ?_, ?_⟩
  · exact (stage_eq_iff_identifier_eq hdash hhump).1.mpr (by decide +kernel)
  · exact mt (stage_eq_iff_identifier_eq hdash hflat).1.mp (by decide +kernel)

end Name
end Provision
