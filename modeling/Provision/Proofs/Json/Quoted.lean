import Mathlib.Tactic.SplitIfs
import Provision.Json.Reader

/-!
# Reading string literals back

No control character stands in the literal of a text, and reading the literal gives the text back,
whatever characters it has.
-/

namespace Provision
namespace Json

open Decimal

/-! ## Control characters -/

theorem isAlphanum_hexDigit (n : Nat) : (hexDigit n).isAlphanum = true := by
  have hdigit : ∀ n < 16, (digitChar n).isAlphanum = true := by decide
  exact hdigit (n % 16) (Nat.mod_lt n (by decide))

/-- An escaped character is written in letters, digits and two signs, and any other stands for
itself. -/
theorem mem_escape {c d : Char} (h : d ∈ escape c) :
    d = c ∧ 0x20 ≤ c.toNat ∨ d.isAlphanum = true ∨ d = '\\' ∨ d = '"' := by
  unfold escape at h
  split_ifs at h with hquote hslash hback hfeed hline hreturn htab hcontrol
  all_goals simp only [List.mem_cons, List.not_mem_nil, or_false] at h
  · exact Or.inr (by rcases h with rfl | rfl <;> decide)
  · exact Or.inr (by rcases h with rfl | rfl <;> decide)
  · exact Or.inr (by rcases h with rfl | rfl <;> decide)
  · exact Or.inr (by rcases h with rfl | rfl <;> decide)
  · exact Or.inr (by rcases h with rfl | rfl <;> decide)
  · exact Or.inr (by rcases h with rfl | rfl <;> decide)
  · exact Or.inr (by rcases h with rfl | rfl <;> decide)
  · rcases h with rfl | rfl | rfl | rfl | rfl | rfl <;> simp [isAlphanum_hexDigit]
  · exact Or.inl ⟨h, Nat.le_of_not_lt hcontrol⟩

theorem le_toNat_of_isAlphanum {d : Char} (h : d.isAlphanum = true) : 0x20 ≤ d.toNat := by
  unfold Char.isAlphanum Char.isAlpha Char.isUpper Char.isLower Char.isDigit at h
  simp [UInt32.le_iff_toNat_le] at h
  omega

/-- No character is written with a control character. -/
theorem le_toNat_of_mem_escape {c d : Char} (h : d ∈ escape c) : 0x20 ≤ d.toNat := by
  rcases mem_escape h with ⟨rfl, hplain⟩ | hletter | rfl | rfl
  · exact hplain
  · exact le_toNat_of_isAlphanum hletter
  · decide
  · decide

theorem le_toNat_of_mem_quoted {cs : List Char} {d : Char} (h : d ∈ quoted cs) :
    0x20 ≤ d.toNat := by
  have hquote : 0x20 ≤ '"'.toNat := by decide
  simp only [quoted, List.cons_append, List.mem_cons, List.mem_append, List.mem_flatMap,
    List.not_mem_nil, or_false] at h
  rcases h with rfl | ⟨c, -, hwritten⟩ | rfl
  · exact hquote
  · exact le_toNat_of_mem_escape hwritten
  · exact hquote

/-! ## Escapes -/

section Escapes

variable {rest : List Char}

/-- A code point that is written with four digits is read alone, also in front of another one. -/
theorem unquote?_fourDigits {a b c d : Char} {code : Nat} (h : fourDigits? a b c d = some code)
    (hhigh : isHighSurrogate code = false) (hlow : isLowSurrogate code = false) :
    unquote? ('\\' :: 'u' :: a :: b :: c :: d :: rest) =
      (unquote? rest).map (fun r => (Char.ofNat code :: r.1, r.2)) := by
  rw [unquote?.eq_def]
  split
  case h_3 heq =>
    simp only [List.cons.injEq, true_and] at heq
    obtain ⟨rfl, rfl, rfl, rfl, rfl⟩ := heq
    simp [h, hhigh, hlow]
  case h_4 heq =>
    simp only [List.cons.injEq, true_and] at heq
    obtain ⟨rfl, rfl, rfl, rfl, rfl⟩ := heq
    simp [h, hhigh, hlow]
  case h_5 hother heq =>
    simp only [List.cons.injEq, true_and] at heq
    exact absurd heq.2.symm (hother a b c d rest heq.1.symm)
  case h_6 hother heq =>
    simp only [List.cons.injEq] at heq
    exact absurd heq.2.symm (hother 'u' _ heq.1.symm)
  all_goals simp_all

theorem unquote?_simpleEscape {letter c : Char} (h : simpleEscape? letter = some c) :
    unquote? ('\\' :: letter :: rest) = (unquote? rest).map (fun r => (c :: r.1, r.2)) := by
  have hletter : letter ≠ 'u' := by
    rintro rfl
    contradiction
  rw [unquote?.eq_def]
  split
  case h_5 heq =>
    simp only [List.cons.injEq, true_and] at heq
    obtain ⟨rfl, rfl⟩ := heq
    simp [h]
  case h_6 hother heq =>
    simp only [List.cons.injEq] at heq
    exact absurd heq.2.symm (hother letter rest heq.1.symm)
  all_goals simp_all

theorem unquote?_cons {c : Char} (hquote : c ≠ '"') (hslash : c ≠ '\\')
    (hcontrol : 0x20 ≤ c.toNat) :
    unquote? (c :: rest) = (unquote? rest).map (fun r => (c :: r.1, r.2)) := by
  rw [unquote?.eq_def]
  split
  case h_6 heq =>
    obtain ⟨rfl, rfl⟩ := List.cons.inj heq
    rw [if_neg]
    simp [hslash, Nat.not_lt.mpr hcontrol]
  all_goals simp_all

end Escapes

/-- What is written for a character is read as that character. -/
theorem unquote?_escape (c : Char) (rest : List Char) :
    unquote? (escape c ++ rest) = (unquote? rest).map (fun r => (c :: r.1, r.2)) := by
  have hdigits : ∀ n < 0x20,
      fourDigits? '0' '0' (hexDigit (n / 16)) (hexDigit n) = some n ∧
        isHighSurrogate n = false ∧ isLowSurrogate n = false := by decide
  unfold escape
  split_ifs with hquote hslash hback hfeed hline hreturn htab hcontrol
  · exact unquote?_simpleEscape (by rw [hquote]; rfl)
  · exact unquote?_simpleEscape (by rw [hslash]; rfl)
  · exact unquote?_simpleEscape (by rw [hback]; rfl)
  · exact unquote?_simpleEscape (by rw [hfeed]; rfl)
  · exact unquote?_simpleEscape (by rw [hline]; rfl)
  · exact unquote?_simpleEscape (by rw [hreturn]; rfl)
  · exact unquote?_simpleEscape (by rw [htab]; rfl)
  · obtain ⟨hcode, hhigh, hlow⟩ := hdigits c.toNat hcontrol
    refine (unquote?_fourDigits hcode hhigh hlow).trans ?_
    rw [Char.ofNat_toNat]
    rfl
  · exact unquote?_cons hquote hslash (Nat.le_of_not_lt hcontrol)

/-! ## Literals -/

theorem unquote?_flatMap_escape (cs rest : List Char) :
    unquote? (cs.flatMap escape ++ '"' :: rest) = some (cs, rest) := by
  induction cs with
  | nil => rw [List.flatMap_nil, List.nil_append, unquote?]
  | cons c others ih =>
      rw [List.flatMap_cons, List.append_assoc, unquote?_escape, ih]
      rfl

/-- A literal ends by itself: what stands behind it is known with it. -/
theorem quoted_append_inj {cs others rest more : List Char}
    (h : quoted cs ++ rest = quoted others ++ more) : cs = others ∧ rest = more := by
  have hbody : cs.flatMap escape ++ '"' :: rest = others.flatMap escape ++ '"' :: more := by
    simpa [quoted] using h
  have hread := unquote?_flatMap_escape cs rest
  rw [hbody, unquote?_flatMap_escape] at hread
  obtain ⟨hcs, hrest⟩ := Prod.mk.inj (Option.some.inj hread)
  exact ⟨hcs.symm, hrest.symm⟩

theorem quoted_injective : Function.Injective quoted := by
  intro cs others heq
  exact (quoted_append_inj (congrArg (· ++ []) heq)).1

/-- The literal of a text is a whole structured value, and that value is the text. -/
theorem read?_quoted (cs : List Char) :
    read? (String.ofList (quoted cs)) = some (.str (String.ofList cs)) := by
  have hskip : skipSpace ('"' :: (cs.flatMap escape ++ ['"'])) =
      '"' :: (cs.flatMap escape ++ ['"']) := rfl
  unfold read?
  simp only [String.toList_ofList, quoted, List.cons_append, readValue, hskip,
    unquote?_flatMap_escape, Option.map_some]
  rfl

end Json
end Provision
