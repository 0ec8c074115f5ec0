import Provision.Proofs.Decimal.Shortest

/-!
# Unsigned words beyond the signed range

Binary fractions from `2 ^ 63` up to `2 ^ 64` are the multiples of `2048`.  The interval around one
of them meets the multiples of a thousand always, and it meets those of ten thousand at most once;
so the decimal of a number in that range ends in three zeros at least.
-/

namespace Provision
namespace Decimal

/-- The decimal of the binary fraction next to a number: the multiple of ten thousand that rounds to
the same fraction if there is one, and the nearest multiple of a thousand otherwise. -/
def shortestWord (n : Nat) : Nat :=
  let nearest := 2048 * roundDiv n 2048
  let coarse := 10000 * roundDiv nearest 10000
  if roundDiv coarse 2048 = roundDiv n 2048 then coarse else 1000 * roundDiv nearest 1000

example : shortestWord 18446744073709551615 = 18446744073709552000 := rfl

/-! ## Rounding -/

/-- Whether no other number is nearer to a ratio, and an odd one is the only one so near. -/
def IsNearest (num den q : Nat) : Prop :=
  if q % 2 = 0 then 2 * num ≤ 2 * (den * q) + den ∧ 2 * (den * q) ≤ 2 * num + den
  else 2 * num < 2 * (den * q) + den ∧ 2 * (den * q) < 2 * num + den

section Nearest

variable {num den p q : Nat}

theorem IsNearest.near (h : IsNearest num den q) :
    2 * num ≤ 2 * (den * q) + den ∧ 2 * (den * q) ≤ 2 * num + den := by
  rw [IsNearest] at h
  split at h
  · exact h
  · exact ⟨h.1.le, h.2.le⟩

theorem IsNearest.of_lt (habove : 2 * num < 2 * (den * q) + den)
    (hbelow : 2 * (den * q) < 2 * num + den) : IsNearest num den q := by
  rw [IsNearest]
  split
  · exact ⟨habove.le, hbelow.le⟩
  · exact ⟨habove, hbelow⟩

/-- Two numbers that are equally near stand next to each other, so one of them is odd. -/
theorem IsNearest.le (hden : 0 < den) (hp : IsNearest num den p) (hq : IsNearest num den q) :
    q ≤ p := by
  by_contra hlt
  have hstep := Nat.mul_le_mul_left den (Nat.lt_of_not_le hlt)
  rw [Nat.mul_succ] at hstep
  have hnear := hp.near
  have hnear' := hq.near
  have htie : den * q = den * (p + 1) := by
    rw [Nat.mul_succ]
    omega
  obtain rfl := Nat.eq_of_mul_eq_mul_left hden htie
  rw [IsNearest] at hp hq
  rw [Nat.mul_succ] at hq
  split at hp <;> split at hq <;> omega

theorem isNearest_roundDiv (num : Nat) (hden : 0 < den) :
    IsNearest num den (roundDiv num den) := by
  have hdivision := Nat.div_add_mod num den
  have hmod := Nat.mod_lt num hden
  simp only [roundDiv]
  split
  · exact .of_lt (by omega) (by omega)
  · split
    · exact .of_lt (by rw [Nat.mul_succ]; omega) (by rw [Nat.mul_succ]; omega)
    · split
      · next heven =>
          rw [IsNearest, if_pos heven]
          omega
      · next hodd =>
          rw [IsNearest, if_pos (by omega), Nat.mul_succ]
          omega

theorem roundDiv_eq_iff (hden : 0 < den) : roundDiv num den = q ↔ IsNearest num den q := by
  constructor
  · rintro rfl
    exact isNearest_roundDiv num hden
  · intro hq
    have hround := isNearest_roundDiv num hden
    exact Nat.le_antisymm (hq.le hden hround) (hround.le hden hq)

/-- The quotient that is less than half a step away is the rounded one. -/
theorem roundDiv_eq_of_near (hden : 0 < den) (habove : 2 * num < 2 * (den * q) + den)
    (hbelow : 2 * (den * q) < 2 * num + den) : roundDiv num den = q :=
  (roundDiv_eq_iff hden).mpr (.of_lt habove hbelow)

end Nearest

theorem dist_le_iff {a b k : Nat} : Nat.dist a b ≤ k ↔ a ≤ b + k ∧ b ≤ a + k := by
  rw [Nat.dist]
  omega

theorem roundDiv_bounds {n : Nat} (hlow : 2 ^ 63 ≤ n) (hhigh : n < 2 ^ 64) :
    2 ^ 52 ≤ roundDiv n 2048 ∧ roundDiv n 2048 ≤ 2 ^ 53 := by
  have hnear := (isNearest_roundDiv n (by decide : 0 < 2048)).near
  omega

theorem binade_word {n : Nat} (hlow : 2 ^ 63 ≤ n) (hhigh : n < 2 ^ 64) :
    Binary64.binade n 1 = 63 := by
  have hlog : n.log2 = 63 := (Nat.log2_eq_iff (by omega)).mpr ⟨hlow, hhigh⟩
  have hone : Nat.log2 1 = 0 := rfl
  rw [Binary64.binade, hlog, hone]
  exact if_pos (by rw [Nat.one_mul]; exact hlow.trans (Nat.le_mul_of_pos_right n (by decide)))

/-- The binary fraction next to a word; one that is carried is the next power of two. -/
theorem ofInt_word {n : Nat} (hlow : 2 ^ 63 ≤ n) (hhigh : n < 2 ^ 64) :
    Binary64.ofInt n =
      if roundDiv n 2048 = 2 ^ 53 then .finite false (2 ^ 52) 12
      else .finite false (roundDiv n 2048) 11 := by
  have hexponent : max Binary64.minExponent (Binary64.binade n 1 - 52) = 11 := by
    rw [binade_word hlow hhigh]
    rfl
  have hdown : n * twoTo (-11) = n := Nat.mul_one n
  have hup : 1 * twoTo 11 = 2048 := rfl
  have hcarried : twoTo 53 = 2 ^ 53 := rfl
  rw [Binary64.ofInt, Binary64.ofRatio, Int.natAbs_natCast, if_neg (by omega),
    decide_eq_false (by omega)]
  simp only [hexponent, hdown, hup, hcarried]
  by_cases hround : roundDiv n 2048 = 2 ^ 53
  · simp only [if_pos hround]
    rfl
  · simp only [if_neg hround]
    rfl

/-! ## The interval around a multiple of 2048 -/

section Interval

variable {m : Nat} (hlow : 2 ^ 52 < m) (hhigh : m < 2 ^ 53)

include hlow in
theorem ofFinite_word :
    Rounding.ofFinite m 11 =
      { low := (4 * m - 2) * 2048
        value := 4 * m * 2048
        high := (4 * m + 2) * 2048
        den := 4
        closed := m % 2 = 0 } := by
  have hne : m ≠ twoTo 52 := hlow.ne'
  rw [Rounding.ofFinite, if_neg hne]
  rfl

include hlow in
/-- A number lies in the interval exactly when it is rounded to the number in its middle. -/
theorem contains_word_iff (x : Nat) :
    (Rounding.ofFinite m 11).Contains x ↔ roundDiv x 2048 = m := by
  rw [ofFinite_word hlow, Rounding.Contains, roundDiv_eq_iff (by decide)]
  rw [IsNearest]
  by_cases heven : m % 2 = 0
  · rw [if_pos (decide_eq_true heven), if_pos heven]
    dsimp only
    constructor <;> rintro ⟨hbelow, habove⟩ <;> constructor <;> omega
  · rw [if_neg (by simpa using heven), if_neg heven]
    dsimp only
    constructor <;> rintro ⟨hbelow, habove⟩ <;> constructor <;> omega

include hlow hhigh in
theorem decade_word :
    ∃ decade : Nat, (Rounding.ofFinite m 11).decade = decade ∧ (decade = 18 ∨ decade = 19) := by
  have hlog : (4 * m * 2048).log2 = 65 := (Nat.log2_eq_iff (by omega)).mpr (by omega)
  have hfour : Nat.log2 4 = 2 := by decide
  have hguess : (((65 : Nat) : Int) - (2 : Nat)) * 1233 / 4096 = 18 := by decide
  have hreaches : 4 * tenTo 18 ≤ 4 * m * 2048 * tenTo (-18) := by
    have hup : tenTo 18 = 10 ^ 18 := rfl
    have hdown : tenTo (-18) = 1 := rfl
    rw [hup, hdown]
    omega
  rw [ofFinite_word hlow, Rounding.decade]
  simp only [hlog, hfour, hguess, decide_eq_true_eq]
  rw [if_pos hreaches]
  split
  · exact ⟨19, rfl, Or.inr rfl⟩
  · exact ⟨18, rfl, Or.inl rfl⟩

/-- Half a step of a thousand is less than half a step of 2048. -/
theorem roundDiv_thousand (m : Nat) :
    roundDiv (1000 * roundDiv (2048 * m) 1000) 2048 = m := by
  have hnear := (isNearest_roundDiv (2048 * m) (by decide : 0 < 1000)).near
  exact roundDiv_eq_of_near (by decide) (by omega) (by omega)

theorem eq_of_roundDiv {x : Nat} (hx : roundDiv (10000 * x) 2048 = m) :
    roundDiv (2048 * m) 10000 = x := by
  have hnear := (isNearest_roundDiv (10000 * x) (by decide : 0 < 2048)).near
  rw [hx] at hnear
  exact roundDiv_eq_of_near (by decide) (by omega) (by omega)

/-- No multiple of 2048 is half way between two multiples of a thousand. -/
theorem eq_of_dist {x : Nat}
    (hx : Nat.dist (m * 2 ^ 11) (x * 10 ^ 3) ≤
      Nat.dist (m * 2 ^ 11) (roundDiv (2048 * m) 1000 * 10 ^ 3)) :
    roundDiv (2048 * m) 1000 = x := by
  have hnear := (isNearest_roundDiv (2048 * m) (by decide : 0 < 1000)).near
  have hhalf : Nat.dist (m * 2 ^ 11) (roundDiv (2048 * m) 1000 * 10 ^ 3) ≤ 500 :=
    dist_le_iff.mpr ⟨by omega, by omega⟩
  obtain ⟨hbelow, habove⟩ := dist_le_iff.mp (hx.trans hhalf)
  exact roundDiv_eq_of_near (by decide) (by omega) (by omega)

include hlow hhigh in
theorem text_finite_word {n : Nat} (hn : roundDiv n 2048 = m) :
    (Binary64.finite false m 11).text = natText (shortestWord n) := by
  obtain ⟨decade, hdecade, hvalue⟩ := decade_word hlow hhigh
  have hthousand : (Rounding.ofFinite m 11).Contains (roundDiv (2048 * m) 1000 * 10 ^ 3) := by
    rw [contains_word_iff hlow, Nat.mul_comm]
    exact roundDiv_thousand m
  obtain ⟨digits, k, hk, hcontains, hnearest, hcoarser, htext⟩ :=
    Binary64.text_eq_of_whole 11 (by omega) rfl rfl hdecade (by omega) (by omega) hthousand
  rw [shortestWord, hn]
  refine htext.trans (congrArg natText ?_)
  rcases Nat.lt_or_ge 3 k with hlt | hge
  · obtain ⟨j, rfl⟩ := Nat.exists_eq_add_of_lt hlt
    have hscale : digits * 10 ^ (3 + j + 1) = 10000 * (digits * 10 ^ j) := by
      rw [Nat.add_right_comm, Nat.pow_add, Nat.mul_left_comm]
    rw [hscale] at hcontains ⊢
    have hround := (contains_word_iff hlow _).mp hcontains
    rw [eq_of_roundDiv hround, if_pos hround]
  · obtain rfl : k = 3 := by omega
    have hcoarse : ¬ roundDiv (10000 * roundDiv (2048 * m) 10000) 2048 = m := by
      rw [← contains_word_iff hlow, Nat.mul_comm]
      exact hcoarser 4 _ (by omega) (by omega)
    rw [if_neg hcoarse, eq_of_dist (hnearest _ hthousand), Nat.mul_comm]
    rfl

end Interval

/-! ## The ends of the range -/

theorem text_finite_first {n : Nat} (hn : roundDiv n 2048 = 2 ^ 52) :
    (Binary64.finite false (2 ^ 52) 11).text = natText (shortestWord n) := by
  rw [shortestWord, hn]
  rfl

theorem text_finite_last {n : Nat} (hn : roundDiv n 2048 = 2 ^ 53) :
    (Binary64.finite false (2 ^ 52) 12).text = natText (shortestWord n) := by
  rw [shortestWord, hn]
  rfl

/-- The decimal of a word beyond the signed range. -/
theorem text_ofInt_word {n : Nat} (hlow : 2 ^ 63 ≤ n) (hhigh : n < 2 ^ 64) :
    (Binary64.ofInt n).text = natText (shortestWord n) := by
  obtain ⟨hfirst, hlast⟩ := roundDiv_bounds hlow hhigh
  rw [ofInt_word hlow hhigh]
  by_cases hcarried : roundDiv n 2048 = 2 ^ 53
  · rw [if_pos hcarried]
    exact text_finite_last hcarried
  · rw [if_neg hcarried]
    rcases Nat.eq_or_lt_of_le hfirst with heq | hlt
    · rw [← heq]
      exact text_finite_first heq.symm
    · exact text_finite_word hlt (by omega) rfl

/-! ## The words that are kept -/

/-- Whether a word is the decimal of the binary fraction next to it. -/
def IsShortest (n : Nat) : Prop :=
  10000 ∣ n ∨
    (1000 ∣ n ∧ Nat.dist n (2048 * roundDiv n 2048) < 500 ∧
      ∀ x, 10000 ∣ x → roundDiv x 2048 ≠ roundDiv n 2048)

theorem shortestWord_eq_self_iff (n : Nat) : shortestWord n = n ↔ IsShortest n := by
  rw [shortestWord, IsShortest]
  constructor
  · intro h
    split at h
    · exact Or.inl ⟨_, h.symm⟩
    · next hcoarse =>
        have hnear := (isNearest_roundDiv (2048 * roundDiv n 2048) (by decide : 0 < 1000)).near
        rw [h] at hnear
        refine Or.inr ⟨⟨_, h.symm⟩, ?_, ?_⟩
        · exact Nat.lt_succ_of_le (dist_le_iff.mpr ⟨by omega, by omega⟩)
        · rintro _ ⟨x, rfl⟩ hx
          rw [eq_of_roundDiv hx] at hcoarse
          exact hcoarse hx
  · rintro (⟨x, rfl⟩ | ⟨⟨x, rfl⟩, hdist, hcoarse⟩)
    · rw [eq_of_roundDiv rfl, if_pos rfl]
    · rw [if_neg (hcoarse _ (Nat.dvd_mul_right _ _))]
      obtain ⟨hbelow, habove⟩ := dist_le_iff.mp (Nat.le_of_lt_succ hdist)
      congr 1
      exact roundDiv_eq_of_near (by decide) (by omega) (by omega)

end Decimal
end Provision
