import Mathlib.Data.List.Basic
import Mathlib.Data.List.Induction
import Provision.Manifest.GoPackage
import Provision.Proofs.Text.Lines

/-!
# The elements of a package path

A path is a front that ends at a slash, an element behind it and slashes that do not count.  The
binary is named by that last element, or by the one before it if the last one is a major version.
So the name is blank exactly where the path has slashes only or blanks in the place of that element.
-/

namespace Provision
namespace GoPackage

/-! ## Slashes at the end -/

theorem dropSlashes_replicate_append (n : Nat) (cs : List Char) :
    dropSlashes (List.replicate n '/' ++ cs) = dropSlashes cs := by
  induction n with
  | zero => rfl
  | succ n ih =>
      rw [List.replicate_succ, List.cons_append, dropSlashes,
        List.dropWhile_cons_of_pos (by simp)]
      exact ih

theorem trimSlashes_append_replicate (cs : List Char) (n : Nat) :
    trimSlashes (cs ++ List.replicate n '/') = trimSlashes cs := by
  rw [trimSlashes, List.reverse_append, List.reverse_replicate, dropSlashes_replicate_append]
  rfl

theorem trimSlashes_of_ne {cs : List Char} {last : Char} (h : last ≠ '/') :
    trimSlashes (cs ++ [last]) = cs ++ [last] := by
  rw [trimSlashes, dropSlashes, List.reverse_append, List.reverse_singleton,
    List.singleton_append, List.dropWhile_cons_of_neg (by simpa using h)]
  simp

/-- A path has slashes only, or some character in front of the slashes at its end. -/
theorem exists_slashes (cs : List Char) :
    (∃ n, cs = List.replicate n '/') ∨
      ∃ front last n, last ≠ '/' ∧ cs = front ++ [last] ++ List.replicate n '/' := by
  induction cs using List.reverseRecOn with
  | nil => exact Or.inl ⟨0, rfl⟩
  | append_singleton cs c ih =>
      by_cases hc : c = '/'
      · subst hc
        rcases ih with ⟨n, rfl⟩ | ⟨front, last, n, hlast, rfl⟩
        · exact Or.inl ⟨n + 1, by rw [List.replicate_succ']⟩
        · exact Or.inr ⟨front, last, n + 1, hlast, by
            rw [List.replicate_succ', List.append_assoc _ _ ['/']]⟩
      · exact Or.inr ⟨cs, c, 0, hc, by simp⟩

/-! ## The last elements -/

/-- What may stand in front of an element of a path. -/
def EndsElement (front : List Char) : Prop :=
  front = [] ∨ ∃ before, front = before ++ ['/']

theorem exists_last_element (cs : List Char) :
    ∃ front element, cs = front ++ element ∧ EndsElement front ∧ '/' ∉ element := by
  induction cs using List.reverseRecOn with
  | nil => exact ⟨[], [], rfl, Or.inl rfl, List.not_mem_nil⟩
  | append_singleton cs c ih =>
      by_cases hc : c = '/'
      · exact ⟨cs ++ [c], [], by simp, Or.inr ⟨cs, by rw [hc]⟩, List.not_mem_nil⟩
      · obtain ⟨front, element, rfl, hfront, helement⟩ := ih
        refine ⟨front, element ++ [c], by simp, hfront, ?_⟩
        simp [helement, Ne.symm hc]

theorem exists_last_element_of_ne (init : List Char) {final : Char} (hfinal : final ≠ '/') :
    ∃ front element, init ++ [final] = front ++ element ∧ EndsElement front ∧ '/' ∉ element ∧
      element ≠ [] := by
  obtain ⟨front, element, hsplit, hfront, helement⟩ := exists_last_element (init ++ [final])
  refine ⟨front, element, hsplit, hfront, helement, ?_⟩
  rintro rfl
  rw [List.append_nil] at hsplit
  rcases hfront with rfl | ⟨before, rfl⟩
  · simp at hsplit
  · exact hfinal (by simpa using (List.append_inj' hsplit rfl).2)

theorem exists_pieces_eq {front element : List Char} (hfront : EndsElement front)
    (helement : '/' ∉ element) :
    ∃ others, Text.pieces '/' (front ++ element) = others ++ [element] := by
  rcases hfront with rfl | ⟨before, rfl⟩
  · exact ⟨[], Text.pieces_of_notMem helement⟩
  · refine ⟨Text.pieces '/' before, ?_⟩
    rw [List.append_assoc, List.singleton_append, Text.pieces_append_cut,
      Text.pieces_of_notMem helement]

theorem elements_append (front : List Char) {element : List Char} (helement : '/' ∉ element)
    (hne : element ≠ []) (n : Nat) :
    elements (front ++ element ++ List.replicate n '/') =
      (Text.pieces '/' (front ++ element)).reverse := by
  obtain ⟨init, last, rfl⟩ := (List.eq_nil_or_concat' element).resolve_left hne
  have hlast : last ≠ '/' := by
    rintro rfl
    exact helement (by simp)
  rw [elements, trimSlashes_append_replicate, ← List.append_assoc, trimSlashes_of_ne hlast]

theorem elements_of_notMem {element : List Char} (helement : '/' ∉ element) (hne : element ≠ [])
    (n : Nat) : elements (element ++ List.replicate n '/') = [element] := by
  have hall := elements_append [] helement hne n
  rwa [List.nil_append, Text.pieces_of_notMem helement] at hall

theorem exists_elements_eq_cons {front element : List Char} (hfront : EndsElement front)
    (helement : '/' ∉ element) (hne : element ≠ []) (n : Nat) :
    ∃ others, elements (front ++ element ++ List.replicate n '/') = element :: others := by
  obtain ⟨others, hpieces⟩ := exists_pieces_eq hfront helement
  refine ⟨others.reverse, ?_⟩
  rw [elements_append front helement hne, hpieces, List.reverse_append]
  rfl

theorem exists_elements_eq_cons_cons {front previous element : List Char}
    (hfront : EndsElement front) (hprevious : '/' ∉ previous) (helement : '/' ∉ element)
    (hne : element ≠ []) (n : Nat) :
    ∃ others, elements (front ++ previous ++ '/' :: element ++ List.replicate n '/') =
      element :: previous :: others := by
  obtain ⟨others, hpieces⟩ := exists_pieces_eq hfront hprevious
  refine ⟨others.reverse, ?_⟩
  have hall := elements_append (front ++ previous ++ ['/']) helement hne n
  rw [List.append_assoc _ ['/'], List.singleton_append] at hall
  rw [hall, Text.pieces_append_cut, hpieces, Text.pieces_of_notMem helement]
  simp

/-! ## Paths that name nothing -/

/-- The paths with blanks in the place of the element that names the binary. -/
inductive Nameless : List Char → Prop where
  | slashes (n : Nat) : Nameless (List.replicate n '/')
  | last {front element : List Char} (hfront : EndsElement front) (hne : element ≠ [])
      (hblank : element.all Text.isBlank = true) (n : Nat) :
      Nameless (front ++ element ++ List.replicate n '/')
  | beforeVersion {front element version : List Char} (hfront : EndsElement front)
      (hblank : element.all Text.isBlank = true) (hversion : isMajorVersion version = true)
      (n : Nat) : Nameless (front ++ element ++ '/' :: version ++ List.replicate n '/')

theorem slash_notMem_of_isBlank {element : List Char}
    (h : element.all Text.isBlank = true) : '/' ∉ element := by
  intro hmem
  exact absurd (List.all_eq_true.mp h '/' hmem) (by decide)

theorem exists_digits {version : List Char} (h : isMajorVersion version = true) :
    ∃ digits, version = 'v' :: digits ∧ digits ≠ [] ∧ ∀ c ∈ digits, c.isDigit = true := by
  unfold isMajorVersion at h
  split at h
  · next digits =>
      rw [Bool.and_eq_true, Bool.not_eq_true', List.isEmpty_eq_false_iff, List.all_eq_true] at h
      exact ⟨digits, rfl, h⟩
  · contradiction

theorem slash_notMem_of_isMajorVersion {version : List Char}
    (h : isMajorVersion version = true) : '/' ∉ version := by
  obtain ⟨digits, rfl, -, hdigits⟩ := exists_digits h
  rw [List.mem_cons, not_or]
  exact ⟨by decide, fun hmem => absurd (hdigits '/' hmem) (by decide)⟩

theorem isMajorVersion_of_isBlank {element : List Char}
    (h : element.all Text.isBlank = true) : isMajorVersion element = false := by
  rw [Bool.eq_false_iff]
  intro hversion
  obtain ⟨digits, rfl, -⟩ := exists_digits hversion
  exact absurd (List.all_eq_true.mp h 'v' List.mem_cons_self) (by decide)

theorem binaryName_of_elements_singleton {path : String} {element : List Char}
    (h : elements path.toList = [element]) : binaryName path = String.ofList element := by
  rw [binaryName, h]

theorem binaryName_of_elements {path : String} {element : List Char} {others : List (List Char)}
    (h : elements path.toList = element :: others) (hversion : isMajorVersion element = false) :
    binaryName path = String.ofList element := by
  rw [binaryName, h]
  cases others <;> simp [hversion]

theorem binaryName_of_isMajorVersion {path : String} {version element : List Char}
    {others : List (List Char)} (h : elements path.toList = version :: element :: others)
    (hversion : isMajorVersion version = true) : binaryName path = String.ofList element := by
  simp [binaryName, h, hversion]

theorem nameless_of_isBlankText {path : String}
    (hblank : Text.isBlankText (binaryName path) = true) : Nameless path.toList := by
  rcases exists_slashes path.toList with ⟨n, hpath⟩ | ⟨init, final, n, hfinal, hpath⟩
  · exact hpath ▸ .slashes n
  · obtain ⟨front, element, hsplit, hfront, helement, hne⟩ := exists_last_element_of_ne init hfinal
    rw [hsplit] at hpath
    cases hversion : isMajorVersion element with
    | false =>
        obtain ⟨others, helements⟩ := exists_elements_eq_cons hfront helement hne n
        rw [binaryName_of_elements (hpath ▸ helements) hversion, Text.isBlankText,
          String.toList_ofList] at hblank
        exact hpath ▸ .last hfront hne hblank n
    | true =>
        rcases hfront with rfl | ⟨before, rfl⟩
        · -- A version with nothing in front of it is the name itself, and not blank.
          have helements := elements_of_notMem helement hne n
          rw [List.nil_append] at hpath
          rw [binaryName_of_elements_singleton (hpath ▸ helements), Text.isBlankText,
            String.toList_ofList] at hblank
          rw [isMajorVersion_of_isBlank hblank] at hversion
          contradiction
        · obtain ⟨front, previous, rfl, hfront, hprevious⟩ := exists_last_element before
          rw [List.append_assoc _ ['/'], List.singleton_append] at hpath
          obtain ⟨others, helements⟩ := exists_elements_eq_cons_cons hfront hprevious helement hne n
          rw [binaryName_of_isMajorVersion (hpath ▸ helements) hversion, Text.isBlankText,
            String.toList_ofList] at hblank
          exact hpath ▸ .beforeVersion hfront hblank hversion n

theorem Nameless.isBlankText_binaryName {path : String} (h : Nameless path.toList) :
    Text.isBlankText (binaryName path) = true := by
  generalize hpath : path.toList = cs at h
  cases h with
  | slashes n =>
      have htrimmed := trimSlashes_append_replicate [] n
      rw [List.nil_append] at htrimmed
      have helements : elements (List.replicate n '/') = [[]] := by
        rw [elements, htrimmed]
        rfl
      rw [binaryName_of_elements_singleton (hpath ▸ helements)]
      rfl
  | last hfront hne hblank n =>
      have helement := slash_notMem_of_isBlank hblank
      obtain ⟨others, helements⟩ := exists_elements_eq_cons hfront helement hne n
      rw [binaryName_of_elements (hpath ▸ helements) (isMajorVersion_of_isBlank hblank),
        Text.isBlankText, String.toList_ofList]
      exact hblank
  | @beforeVersion front element version hfront hblank hversion n =>
      have hne : version ≠ [] := by
        obtain ⟨digits, rfl, -⟩ := exists_digits hversion
        exact List.cons_ne_nil 'v' digits
      obtain ⟨others, helements⟩ := exists_elements_eq_cons_cons hfront
        (slash_notMem_of_isBlank hblank) (slash_notMem_of_isMajorVersion hversion) hne n
      rw [binaryName_of_isMajorVersion (hpath ▸ helements) hversion, Text.isBlankText,
        String.toList_ofList]
      exact hblank

/-- The name of a binary is blank exactly if the path names nothing. -/
theorem isBlankText_binaryName_iff (path : String) :
    Text.isBlankText (binaryName path) = true ↔ Nameless path.toList :=
  ⟨nameless_of_isBlankText, Nameless.isBlankText_binaryName⟩

end GoPackage
end Provision
