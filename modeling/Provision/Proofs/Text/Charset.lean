import Mathlib.Data.List.Chain
import Mathlib.Data.List.TakeWhile
import Provision.Text.Case

/-!
# Small letters among the letters

The classes of characters are tables of spans that are kept apart from each other.  Every span of
small letters lies within one span of letters and digits, so no separator is a small letter.
-/

namespace Provision
namespace Text

namespace Span

theorem exists_of_anyContains {spans : List Span} {code : Nat}
    (h : anyContains spans code = true) : ∃ span ∈ spans, span.contains code = true := by
  induction spans with
  | nil => exact nomatch h
  | cons span rest ih =>
      rw [anyContains] at h
      split at h
      · contradiction
      · rcases Bool.or_eq_true_iff.mp h with hspan | hrest
        · exact ⟨span, List.mem_cons_self, hspan⟩
        · obtain ⟨other, hother, hcontains⟩ := ih hrest
          exact ⟨other, List.mem_cons_of_mem span hother, hcontains⟩

theorem first_le_of_contains {span : Span} {code : Nat} (h : span.contains code = true) :
    span.first ≤ code := by
  simp only [contains, Bool.and_eq_true, decide_eq_true_eq] at h
  exact h.1.1

/-- The search ends early where spans start behind the code point, so their order counts. -/
theorem anyContains_of_mem {spans : List Span}
    (hspans : spans.Pairwise (fun a b => a.first ≤ b.first)) {span : Span} (hspan : span ∈ spans)
    {code : Nat} (h : span.contains code = true) : anyContains spans code = true := by
  induction spans with
  | nil => exact absurd hspan List.not_mem_nil
  | cons first rest ih =>
      obtain ⟨hfirst, hrest⟩ := List.pairwise_cons.mp hspans
      have hle := first_le_of_contains h
      rw [anyContains]
      rcases List.mem_cons.mp hspan with rfl | hmem
      · rw [if_neg (Nat.not_lt.mpr hle), h, Bool.true_or]
      · rw [if_neg (Nat.not_lt.mpr ((hfirst span hmem).trans hle)), ih hrest hmem, Bool.or_true]

/-- Whether all that a span holds is held by one without gaps. -/
def isWithin (span wide : Span) : Bool :=
  wide.step == 1 && wide.first ≤ span.first && span.last ≤ wide.last

theorem contains_of_isWithin {span wide : Span} (hwithin : span.isWithin wide = true) {code : Nat}
    (h : span.contains code = true) : wide.contains code = true := by
  simp only [isWithin, contains, Bool.and_eq_true, beq_iff_eq, decide_eq_true_eq] at hwithin h ⊢
  obtain ⟨⟨hstep, hfirst⟩, hlast⟩ := hwithin
  rw [hstep]
  omega

/-- Walks along the wide spans and drops what lies within them off the front of the others. -/
def uncovered (wide spans : List Span) : List Span :=
  wide.foldl (fun left other => left.dropWhile (isWithin · other)) spans

theorem exists_isWithin_of_uncovered {wide spans : List Span} (h : uncovered wide spans = [])
    {span : Span} (hspan : span ∈ spans) : ∃ other ∈ wide, span.isWithin other = true := by
  induction wide generalizing spans with
  | nil =>
      have hnil : spans = [] := h
      exact absurd (hnil ▸ hspan) List.not_mem_nil
  | cons first rest ih =>
      have hsplit := List.takeWhile_append_dropWhile (p := (isWithin · first)) (l := spans)
      rw [← hsplit, List.mem_append] at hspan
      rcases hspan with hdropped | hleft
      · have hwithin := List.mem_takeWhile_imp (p := (isWithin · first)) hdropped
        exact ⟨first, List.mem_cons_self, hwithin⟩
      · obtain ⟨other, hother, hwithin⟩ := ih h hleft
        exact ⟨other, List.mem_cons_of_mem first hother, hwithin⟩

end Span

theorem increasing_alphanumeric :
    Table.alphanumeric.Pairwise (fun a b => a.first ≤ b.first) := by
  have hchain : Table.alphanumeric.IsChain (fun a b => a.first ≤ b.first) := by decide +kernel
  have : IsTrans Span (fun a b => a.first ≤ b.first) := ⟨fun _ _ _ => Nat.le_trans⟩
  exact List.isChain_iff_pairwise.mp hchain

theorem isAlphanumeric_of_isLower {c : Char} (h : isLower c = true) : isAlphanumeric c = true := by
  have hcovered : (Span.uncovered Table.alphanumeric Table.lowerCase).isEmpty = true := by
    decide +kernel
  obtain ⟨span, hspan, hcontains⟩ := Span.exists_of_anyContains h
  obtain ⟨wide, hwide, hwithin⟩ :=
    Span.exists_isWithin_of_uncovered (List.isEmpty_iff.mp hcovered) hspan
  exact Span.anyContains_of_mem increasing_alphanumeric hwide
    (Span.contains_of_isWithin hwithin hcontains)

end Text
end Provision
