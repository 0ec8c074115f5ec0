import Mathlib.Tactic.IntervalCases
import Provision.Decimal.Numeral

/-!
# Numerals as digits

The numeral of a number is the library's digit string to the base ten, so a number is told from its
numeral, and a factor of ten is one more zero at the end.
-/

namespace Provision
namespace Decimal

theorem digitChar_eq_digitChar {d : Nat} (h : d < 10) : digitChar d = d.digitChar := by
  interval_cases d <;> rfl

/-- Halving bounds the divisions: a division by ten takes away more than one by two. -/
theorem digitsOnto_eq (fuel n : Nat) (acc : List Char) (h : n < 2 ^ (fuel + 1)) :
    digitsOnto (fuel + 1) n acc = Nat.toDigits 10 n ++ acc := by
  induction fuel generalizing n acc with
  | zero =>
      have hn : n < 10 := by omega
      rw [digitsOnto, if_pos hn, Nat.mod_eq_of_lt hn, Nat.toDigits_of_lt_base hn,
        digitChar_eq_digitChar hn, List.singleton_append]
  | succ fuel ih =>
      rw [digitsOnto]
      by_cases hn : n < 10
      · rw [if_pos hn, Nat.mod_eq_of_lt hn, Nat.toDigits_of_lt_base hn, digitChar_eq_digitChar hn,
          List.singleton_append]
      · have hquotient : n / 10 < 2 ^ (fuel + 1) := by
          rw [Nat.pow_succ] at h
          omega
        rw [if_neg hn, ih _ _ hquotient, Nat.toDigits_of_base_le (by omega) (Nat.le_of_not_lt hn),
          digitChar_eq_digitChar (Nat.mod_lt n (by omega)), List.append_assoc,
          List.singleton_append]

theorem natDigits_eq_toDigits (n : Nat) : natDigits n = Nat.toDigits 10 n := by
  rw [natDigits, digitsOnto_eq _ _ _ Nat.lt_log2_self, List.append_nil]

theorem natText_eq_toString (n : Nat) : natText n = toString n := by
  rw [natText, natDigits_eq_toDigits, Nat.toString_eq_ofList_toDigits]

theorem intText_eq_toString (i : Int) : intText i = toString i := by
  rw [Int.toString_eq_repr, Int.repr_eq_if, intText]
  by_cases hi : i < 0
  · rw [if_pos hi, if_neg (by omega), natText_eq_toString, Nat.toString_eq_repr]
    congr 2
    omega
  · rw [if_neg hi, if_pos (by omega), natText_eq_toString, Nat.toString_eq_repr]
    congr 1
    omega

/-- A number is told from its numeral, which reads back as the number. -/
theorem natText_injective : Function.Injective natText := by
  intro m n h
  have hdigits : natDigits m = natDigits n := String.ofList_injective h
  rw [natDigits_eq_toDigits, natDigits_eq_toDigits] at hdigits
  calc
    m = Nat.ofDigitChars 10 (Nat.toDigits 10 m) 0 := Nat.ofDigitChars_ten_toDigits.symm
    _ = Nat.ofDigitChars 10 (Nat.toDigits 10 n) 0 := by rw [hdigits]
    _ = n := Nat.ofDigitChars_ten_toDigits

theorem natDigits_mul_ten {n : Nat} (h : 0 < n) : natDigits (n * 10) = natDigits n ++ ['0'] := by
  rw [natDigits_eq_toDigits, natDigits_eq_toDigits,
    Nat.toDigits_of_base_le (by omega) (by omega : 10 ≤ n * 10), Nat.mul_div_cancel _ (by omega),
    Nat.mul_mod_left]
  rfl

/-- A power of ten is so many zeros behind the digits. -/
theorem natDigits_mul_pow {n : Nat} (h : 0 < n) (k : Nat) :
    natDigits (n * 10 ^ k) = natDigits n ++ List.replicate k '0' := by
  induction k with
  | zero => simp
  | succ k ih =>
      have hpos : 0 < n * 10 ^ k := Nat.mul_pos h (Nat.pow_pos (by omega))
      rw [Nat.pow_succ, ← Nat.mul_assoc, natDigits_mul_ten hpos, ih, List.append_assoc,
        List.replicate_succ']

end Decimal
end Provision
