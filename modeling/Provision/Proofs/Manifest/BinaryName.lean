import Provision.Proofs.Manifest.PackagePath

/-!
# The element that names a binary

In a path without empty elements the binary is named by the last element, or by the one before it
if the last one is a version.  So the name stays as it is when slashes are put behind the path, and
when a version is put behind a path that does not end in one.
-/

namespace Provision
namespace GoPackage

/-- Whether an element of a path is a `v` and a number. -/
def IsVersion (element : List Char) : Prop :=
  ∃ digits, digits ≠ [] ∧ (∀ c ∈ digits, c.isDigit = true) ∧ element = 'v' :: digits

theorem isMajorVersion_iff {element : List Char} :
    isMajorVersion element = true ↔ IsVersion element := by
  constructor
  · intro h
    obtain ⟨digits, rfl, hne, hdigits⟩ := exists_digits h
    exact ⟨digits, hne, hdigits, rfl⟩
  · rintro ⟨digits, hne, hdigits, rfl⟩
    rw [isMajorVersion, Bool.and_eq_true, Bool.not_eq_true', List.isEmpty_eq_false_iff]
    exact ⟨hne, List.all_eq_true.mpr hdigits⟩

theorem IsVersion.slash_notMem {element : List Char} (h : IsVersion element) : '/' ∉ element :=
  slash_notMem_of_isMajorVersion (isMajorVersion_iff.mpr h)

theorem IsVersion.ne_nil {element : List Char} (h : IsVersion element) : element ≠ [] := by
  obtain ⟨digits, -, -, rfl⟩ := h
  exact List.cons_ne_nil 'v' digits

/-- The elements of a path in their order; slashes at its end make none. -/
def pathElements (path : String) : List (List Char) :=
  Text.pieces '/' (trimSlashes path.toList)

theorem elements_eq_reverse (path : String) :
    elements path.toList = (pathElements path).reverse := rfl

/-- The element that names the binary: the last one that is no version, or a version that has no
element before it. -/
inductive Names (element : List Char) : List (List Char) → Prop where
  | last (front : List (List Char)) (h : front = [] ∨ ¬ IsVersion element) :
      Names element (front ++ [element])
  | beforeVersion (front : List (List Char)) {version : List Char} (h : IsVersion version) :
      Names element (front ++ [element, version])

theorem Names.mem {element : List Char} {elements : List (List Char)} (h : Names element elements) :
    element ∈ elements := by
  cases h <;> simp

theorem names_binaryName (path : String) :
    Names (binaryName path).toList (pathElements path) := by
  rw [← List.reverse_reverse (pathElements path), ← elements_eq_reverse]
  cases helements : elements path.toList with
  | nil =>
      rw [elements_eq_reverse, List.reverse_eq_nil_iff] at helements
      exact absurd helements (Text.pieces_ne_nil _ _)
  | cons last others =>
      cases others with
      | nil =>
          rw [binaryName_of_elements_singleton helements, String.toList_ofList]
          exact .last [] (Or.inl rfl)
      | cons previous front =>
          rw [List.reverse_cons]
          cases hversion : isMajorVersion last with
          | false =>
              rw [binaryName_of_elements helements hversion, String.toList_ofList]
              refine .last _ (Or.inr fun h => ?_)
              rw [isMajorVersion_iff.mpr h] at hversion
              contradiction
          | true =>
              rw [binaryName_of_isMajorVersion helements hversion, String.toList_ofList,
                List.reverse_cons, List.append_assoc]
              exact .beforeVersion front.reverse (isMajorVersion_iff.mp hversion)

/-! ## What stands behind a path -/

theorem binaryName_append_slashes (path : String) (n : Nat) :
    binaryName (path ++ String.ofList (List.replicate n '/')) = binaryName path := by
  simp only [binaryName, elements, String.toList_append, String.toList_ofList,
    trimSlashes_append_replicate]

theorem trimSlashes_of_getLast? {cs : List Char} (h : cs.getLast? ≠ some '/') :
    trimSlashes cs = cs := by
  rcases List.eq_nil_or_concat' cs with rfl | ⟨front, last, rfl⟩
  · rfl
  · exact trimSlashes_of_ne fun heq => h (by rw [heq, List.getLast?_concat])

/-- A version behind a path is one more element. -/
theorem elements_append_version {path version : List Char} (hpath : path.getLast? ≠ some '/')
    (hversion : IsVersion version) :
    elements (path ++ '/' :: version) = version :: elements path := by
  have hall := elements_append (path ++ ['/']) hversion.slash_notMem hversion.ne_nil 0
  rw [List.replicate_zero, List.append_nil, List.append_assoc, List.singleton_append] at hall
  rw [hall, Text.pieces_append_cut, Text.pieces_of_notMem hversion.slash_notMem, elements,
    trimSlashes_of_getLast? hpath, List.reverse_append]
  rfl

theorem binaryName_append_version {path : String} {version : List Char}
    (hpath : path.toList.getLast? ≠ some '/')
    (hlast : ∀ last, (pathElements path).getLast? = some last → ¬ IsVersion last)
    (hversion : IsVersion version) :
    binaryName (path ++ "/" ++ String.ofList version) = binaryName path := by
  have helements : elements (path ++ "/" ++ String.ofList version).toList =
      version :: elements path.toList := by
    have hlist : (path ++ "/" ++ String.ofList version).toList = path.toList ++ '/' :: version := by
      simp
    rw [hlist, elements_append_version hpath hversion]
  obtain ⟨front, last, hfront⟩ :=
    (List.eq_nil_or_concat' (pathElements path)).resolve_left (Text.pieces_ne_nil _ _)
  have hsplit : elements path.toList = last :: front.reverse := by
    rw [elements_eq_reverse, hfront, List.reverse_append]
    rfl
  have hfalse : isMajorVersion last = false := by
    rw [Bool.eq_false_iff, ne_eq, isMajorVersion_iff]
    exact hlast last (by rw [hfront, List.getLast?_concat])
  rw [hsplit] at helements
  rw [binaryName_of_isMajorVersion helements (isMajorVersion_iff.mpr hversion),
    binaryName_of_elements hsplit hfalse]

/-- In a path without empty elements the binary is named by one of them, and neither slashes nor a
version behind the path change the name. -/
theorem binaryName_stable {path : String} (hsolid : ∀ element ∈ pathElements path, element ≠ []) :
    Names (binaryName path).toList (pathElements path) ∧
      (binaryName path).toList ∈ pathElements path ∧
      binaryName path ≠ "" ∧ '/' ∉ (binaryName path).toList ∧
      (∀ n, binaryName (path ++ String.ofList (List.replicate n '/')) = binaryName path) ∧
      (path.toList.getLast? ≠ some '/' →
        (∀ last, (pathElements path).getLast? = some last → ¬ IsVersion last) →
        ∀ version, IsVersion version →
          binaryName (path ++ "/" ++ String.ofList version) = binaryName path) := by
  have hnames := names_binaryName path
  have hmem := hnames.mem
  refine ⟨hnames, hmem, ?_, Text.notMem_of_mem_pieces hmem, binaryName_append_slashes path, ?_⟩
  · intro hempty
    exact hsolid _ hmem (by rw [hempty]; rfl)
  · intro hpath hlast version hversion
    exact binaryName_append_version hpath hlast hversion

/-- A path with a version behind it, and with slashes, has the name of the path. -/
theorem binaryName_stable_yq :
    (∀ element ∈ pathElements "github.com/mikefarah/yq", element ≠ []) ∧
      binaryName "github.com/mikefarah/yq" = "yq" ∧
      binaryName ("github.com/mikefarah/yq" ++ "/" ++ String.ofList ['v', '4']) = "yq" ∧
      binaryName ("github.com/mikefarah/yq" ++ String.ofList ['/', '/']) = "yq" := by
  have hsolid : ∀ element ∈ pathElements "github.com/mikefarah/yq", element ≠ [] := by decide
  have hname : binaryName "github.com/mikefarah/yq" = "yq" := by decide
  obtain ⟨-, -, -, -, hslashes, hversions⟩ := binaryName_stable hsolid
  refine ⟨hsolid, hname, ?_, (hslashes 2).trans hname⟩
  refine (hversions (by decide) ?_ ['v', '4'] ⟨['4'], by decide, by decide, rfl⟩).trans hname
  intro last hlast
  rw [← isMajorVersion_iff]
  revert last
  decide

end GoPackage
end Provision
