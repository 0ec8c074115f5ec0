import Mathlib.Data.List.TakeWhile

/-!
# Patterns of file names

A pattern stands for all names that it matches.  What stands before and behind the only star of a
pattern are the two ends of these names, and between them there is anything but a slash.
-/

namespace Provision
namespace Text

/-- Whether a pattern matches a name.  A star matches any characters but slashes, and what is no
sign of patterns matches itself; of these signs only the star is known. -/
def matchesPattern : (pattern name : List Char) → Bool
  | [], name => name.isEmpty
  | sign :: pattern, name =>
      if sign = '*' then
        (List.range ((name.takeWhile (· ≠ '/')).length + 1)).any
          (fun length => matchesPattern pattern (name.drop length))
      else name.head? == some sign && matchesPattern pattern name.tail

section Patterns

variable {front back pattern name : List Char}

theorem matchesPattern_nil_iff : matchesPattern [] name = true ↔ name = [] := by
  rw [matchesPattern, List.isEmpty_iff]

theorem matchesPattern_star_iff :
    matchesPattern ('*' :: pattern) name = true ↔
      ∃ passed rest, name = passed ++ rest ∧ '/' ∉ passed ∧ matchesPattern pattern rest = true := by
  rw [matchesPattern, if_pos rfl, List.any_eq_true]
  constructor
  · rintro ⟨length, hlength, hrest⟩
    have hle : length ≤ (name.takeWhile (· ≠ '/')).length :=
      Nat.lt_succ_iff.mp (List.mem_range.mp hlength)
    refine ⟨name.take length, name.drop length, (List.take_append_drop length name).symm, ?_, hrest⟩
    intro hslash
    have hfront : name.take length <+: name.takeWhile (· ≠ '/') :=
      List.prefix_of_prefix_length_le (List.take_prefix length name) (List.takeWhile_prefix _)
        ((List.length_take_le length name).trans hle)
    have hkept := List.mem_takeWhile_imp (hfront.subset hslash)
    simp at hkept
  · rintro ⟨passed, rest, rfl, hslash, hrest⟩
    have hkept : ∀ c ∈ passed, decide (c ≠ '/') = true :=
      fun c hc => decide_eq_true (fun heq => hslash (heq ▸ hc))
    refine ⟨passed.length, List.mem_range.mpr ?_, ?_⟩
    · rw [List.takeWhile_append_of_pos hkept, List.length_append]
      omega
    · rwa [List.drop_left]

/-- What has no star in it stands in the name as it stands in the pattern. -/
theorem matchesPattern_append_iff (h : '*' ∉ front) :
    matchesPattern (front ++ pattern) name = true ↔
      ∃ rest, name = front ++ rest ∧ matchesPattern pattern rest = true := by
  induction front generalizing name with
  | nil => simp
  | cons sign more ih =>
      have hsign : sign ≠ '*' := fun heq => h (heq ▸ List.mem_cons_self)
      have hmore : '*' ∉ more := fun hmem => h (List.mem_cons_of_mem sign hmem)
      rw [List.cons_append, matchesPattern, if_neg hsign]
      cases name with
      | nil => simp
      | cons c rest =>
          rw [Bool.and_eq_true, beq_iff_eq, List.head?_cons, Option.some_inj, List.tail_cons,
            ih hmore]
          constructor
          · rintro ⟨rfl, behind, rfl, hbehind⟩
            exact ⟨behind, rfl, hbehind⟩
          · rintro ⟨behind, heq, hbehind⟩
            obtain ⟨rfl, rfl⟩ := List.cons.inj heq
            exact ⟨rfl, behind, rfl, hbehind⟩

theorem matchesPattern_append_star_iff (hfront : '*' ∉ front) (hback : '*' ∉ back) :
    matchesPattern (front ++ '*' :: back) name = true ↔
      ∃ passed, '/' ∉ passed ∧ name = front ++ (passed ++ back) := by
  have hend : ∀ rest, matchesPattern back rest = true ↔ rest = back := by
    intro rest
    have hall : matchesPattern (back ++ []) rest = true ↔ _ := matchesPattern_append_iff hback
    rw [List.append_nil] at hall
    simp [hall, matchesPattern_nil_iff]
  simp only [matchesPattern_append_iff hfront, matchesPattern_star_iff, hend]
  constructor
  · rintro ⟨rest, rfl, passed, _, rfl, hslash, rfl⟩
    exact ⟨passed, hslash, rfl⟩
  · rintro ⟨passed, hslash, rfl⟩
    exact ⟨_, rfl, passed, _, rfl, hslash, rfl⟩

example : matchesPattern "jq@*.stamp".toList "jq@0a1b@1.7.stamp".toList = true := by decide

example : matchesPattern "jq@*.stamp".toList "jq@0a1b/x.stamp".toList = false := by decide

end Patterns
end Text
end Provision
