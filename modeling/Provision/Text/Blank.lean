/-!
# Blank characters and trimming

A character is blank when it has the white-space property.  Trimming removes the blank
characters at both ends of a text and nothing else.
-/

namespace Provision
namespace Text

def isBlank (c : Char) : Bool :=
  let code := c.toNat
  (0x09 ≤ code && code ≤ 0x0D) || code == 0x20 || code == 0x85 || code == 0xA0 ||
    code == 0x1680 || (0x2000 ≤ code && code ≤ 0x200A) || code == 0x2028 || code == 0x2029 ||
    code == 0x202F || code == 0x205F || code == 0x3000

def trimStart (cs : List Char) : List Char :=
  cs.dropWhile isBlank

def trimEnd : List Char → List Char
  | [] => []
  | c :: rest =>
      match trimEnd rest with
      | [] => if isBlank c then [] else [c]
      | kept => c :: kept

def trim (cs : List Char) : List Char :=
  trimEnd (trimStart cs)

/-- Whether a text has no character apart from blank ones. -/
def isBlankText (text : String) : Bool :=
  text.toList.all isBlank

theorem trimEnd_eq_nil_iff (cs : List Char) : trimEnd cs = [] ↔ cs.all isBlank = true := by
  induction cs with
  | nil => simp [trimEnd]
  | cons c rest ih =>
      rw [trimEnd]
      split
      · next h => by_cases hc : isBlank c = true <;> simp [hc, ih.mp h]
      · next h =>
          have hrest : ¬ rest.all isBlank = true := fun hall => h (ih.mpr hall)
          simp only [List.all_cons, Bool.and_eq_true, reduceCtorEq, false_iff]
          exact fun hall => hrest hall.2

theorem isBlank_of_isWhitespace (c : Char) (hc : c.isWhitespace = true) : isBlank c = true := by
  simp only [Char.isWhitespace, Bool.or_eq_true, decide_eq_true_eq] at hc
  rcases hc with ((rfl | rfl) | rfl) | rfl <;> decide

end Text
end Provision
