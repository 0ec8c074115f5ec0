import Mathlib.Data.Nat.Dist
import Provision.Decimal.Shortest
import Provision.Proofs.Decimal.Numeral

/-!
# Shortest decimals of whole numbers

For a binary fraction that is a whole number, the grids of powers of ten are whole numbers too.  The
search goes through them from the coarsest one and stops at the first that meets the interval, so
the decimal it answers lies in the interval, is the nearest one of its grid, and no coarser grid
meets the interval at all.
-/

namespace Provision
namespace Decimal

@[simp] theorem tenTo_natCast (k : Nat) : tenTo k = 10 ^ k := rfl

@[simp] theorem tenTo_neg_natCast (k : Nat) : tenTo (-(k : Int)) = 1 := by
  rw [tenTo, Int.toNat_of_nonpos (by omega)]

@[simp] theorem twoTo_natCast (k : Nat) : twoTo k = 2 ^ k := rfl

@[simp] theorem twoTo_neg_natCast (k : Nat) : twoTo (-(k : Int)) = 1 := by
  rw [twoTo, Int.toNat_of_nonpos (by omega)]

namespace Rounding

/-- Whether a whole number lies in the interval. -/
def Contains (r : Rounding) (x : Nat) : Prop :=
  if r.closed then r.low ≤ x * r.den ∧ x * r.den ≤ r.high
  else r.low < x * r.den ∧ x * r.den < r.high

/-- The interval around a whole number. -/
structure Whole (r : Rounding) (v : Nat) : Prop where
  den_pos : 0 < r.den
  value_eq : r.value = v * r.den
  contains : r.Contains v

section Grids

variable {r : Rounding} {v : Nat}

theorem holds_iff (up digits : Nat) : r.holds up 1 digits = true ↔ r.Contains (digits * up) := by
  rw [holds, Contains]
  split <;> simp

theorem Contains.of_between {x y z : Nat} (hx : r.Contains x) (hz : r.Contains z) (hxy : x ≤ y)
    (hyz : y ≤ z) : r.Contains y := by
  have hlow : x * r.den ≤ y * r.den := Nat.mul_le_mul_right _ hxy
  have hhigh : y * r.den ≤ z * r.den := Nat.mul_le_mul_right _ hyz
  unfold Contains at *
  split at hx
  · next hclosed =>
      rw [if_pos hclosed] at hz ⊢
      omega
  · next hclosed =>
      rw [if_neg hclosed] at hz ⊢
      omega

/-- The points that are looked at: the one below the number and the one above it. -/
theorem onGrid_cases (h : r.Whole v) (k : Nat) {below above : Nat} (hbelow : below = v / 10 ^ k)
    (habove : above = below + 1) :
    (r.onGrid k = none ∧ ¬ r.Contains (below * 10 ^ k) ∧ ¬ r.Contains (above * 10 ^ k)) ∨
      (r.onGrid k = some (below, (k : Int)) ∧ r.Contains (below * 10 ^ k) ∧
        (r.Contains (above * 10 ^ k) → v * 2 < below * 10 ^ k + above * 10 ^ k)) ∨
      (r.onGrid k = some (above, (k : Int)) ∧ r.Contains (above * 10 ^ k) ∧
        (r.Contains (below * 10 ^ k) → below * 10 ^ k + above * 10 ^ k ≤ v * 2)) := by
  have hquotient : r.value * 1 / (r.den * 10 ^ k) = below := by
    rw [Nat.mul_one, h.value_eq, Nat.mul_comm v, Nat.mul_div_mul_left _ _ h.den_pos, hbelow]
  have hnear : r.value * 1 * 2 < (below + above) * 10 ^ k * r.den ↔
      v * 2 < below * 10 ^ k + above * 10 ^ k := by
    rw [Nat.mul_one, h.value_eq, Nat.mul_right_comm, Nat.mul_lt_mul_right h.den_pos,
      Nat.add_mul]
  rw [onGrid, tenTo_natCast, tenTo_neg_natCast, ← holds_iff, ← holds_iff]
  simp only [hquotient, ← habove, hnear]
  cases r.holds (10 ^ k) 1 below <;> cases r.holds (10 ^ k) 1 above
  · exact Or.inl ⟨rfl, Bool.false_ne_true, Bool.false_ne_true⟩
  · exact Or.inr (Or.inr ⟨rfl, rfl, fun hfalse => nomatch hfalse⟩)
  · exact Or.inr (Or.inl ⟨rfl, rfl, fun hfalse => nomatch hfalse⟩)
  · by_cases hlt : v * 2 < below * 10 ^ k + above * 10 ^ k
    · exact Or.inr (Or.inl ⟨if_pos hlt, rfl, fun _ => hlt⟩)
    · exact Or.inr (Or.inr ⟨if_neg hlt, rfl, fun _ => Nat.le_of_not_lt hlt⟩)

/-- Every point of a grid is beyond the one below a number or the one above it. -/
theorem grid_side (v q k : Nat) :
    v / 10 ^ k * 10 ^ k ≤ v ∧ v ≤ (v / 10 ^ k + 1) * 10 ^ k ∧
      (q * 10 ^ k ≤ v / 10 ^ k * 10 ^ k ∨ (v / 10 ^ k + 1) * 10 ^ k ≤ q * 10 ^ k) := by
  refine ⟨Nat.div_mul_le_self v _, ?_, ?_⟩
  · exact (Nat.lt_mul_of_div_lt (Nat.lt_succ_self _) (Nat.pow_pos (by omega))).le
  · exact (Nat.lt_or_ge (v / 10 ^ k) q).symm.imp (Nat.mul_le_mul_right _) (Nat.mul_le_mul_right _)

/-- A grid on which nothing is found does not meet the interval. -/
theorem not_contains_of_onGrid (h : r.Whole v) {k : Nat} (hnone : r.onGrid k = none) (q : Nat) :
    ¬ r.Contains (q * 10 ^ k) := by
  intro hq
  obtain ⟨hbelow, habove, hside⟩ := grid_side v q k
  rcases onGrid_cases h k rfl rfl with ⟨-, hnb, hna⟩ | ⟨hsome, -⟩ | ⟨hsome, -⟩
  · rcases hside with hside | hside
    · exact hnb (hq.of_between h.contains hside hbelow)
    · exact hna (h.contains.of_between hq habove hside)
  · rw [hsome] at hnone
    cases hnone
  · rw [hsome] at hnone
    cases hnone

/-- What is found on a grid is the point of the interval that is nearest to the number. -/
theorem of_onGrid (h : r.Whole v) {k : Nat} {found : Nat × Int} (hfound : r.onGrid k = some found) :
    found.2 = k ∧ r.Contains (found.1 * 10 ^ k) ∧
      ∀ q, r.Contains (q * 10 ^ k) → Nat.dist v (found.1 * 10 ^ k) ≤ Nat.dist v (q * 10 ^ k) := by
  rcases onGrid_cases h k rfl rfl with ⟨hnone, -⟩ | ⟨hsome, hbelow, hnear⟩ | ⟨hsome, habove, hnear⟩
  · rw [hnone] at hfound
    cases hfound
  · rw [hsome] at hfound
    cases hfound
    refine ⟨rfl, hbelow, fun q hq => ?_⟩
    obtain ⟨hle, hge, hside⟩ := grid_side v q k
    simp only [Nat.dist]
    rcases hside with hside | hside
    · omega
    · have hlt := hnear (h.contains.of_between hq hge hside)
      omega
  · rw [hsome] at hfound
    cases hfound
    refine ⟨rfl, habove, fun q hq => ?_⟩
    obtain ⟨hle, hge, hside⟩ := grid_side v q k
    simp only [Nat.dist]
    rcases hside with hside | hside
    · have hge' := hnear (hq.of_between h.contains hside hle)
      omega
    · omega

/-- The search answers with the coarsest grid that meets the interval. -/
theorem search_eq {decade : Int} {fuel count first last : Nat} (hfirst : decade + 1 - count = first)
    (hle : last ≤ first) (hfuel : first < last + fuel) (hlast : r.onGrid last ≠ none) :
    ∃ k : Nat, last ≤ k ∧ k ≤ first ∧ r.onGrid k = some (r.search decade fuel count) ∧
      ∀ i : Nat, k < i → i ≤ first → r.onGrid i = none := by
  induction fuel generalizing count first with
  | zero => omega
  | succ fuel ih =>
      rw [search, hfirst]
      cases hgrid : r.onGrid first with
      | some found => exact ⟨first, hle, le_rfl, hgrid, fun i hlt hge => by omega⟩
      | none =>
          have hne : last ≠ first := by
            rintro rfl
            exact hlast hgrid
          obtain ⟨k, hlastk, hk, hsome, hcoarser⟩ :=
            @ih (count + 1) (first - 1) (by omega) (by omega) (by omega)
          refine ⟨k, hlastk, by omega, hsome, fun i hlt hge => ?_⟩
          by_cases hi : i = first
          · rw [hi, hgrid]
          · exact hcoarser i hlt (by omega)

end Grids

/-! ## Zeros at the end -/

theorem positional_natCast {digits : Nat} (h : 0 < digits) (k : Nat) :
    positional digits k = natDigits (digits * 10 ^ k) := by
  rw [positional, if_pos (Int.natCast_nonneg k), Int.toNat_natCast, natDigits_mul_pow h]

/-- Zeros go from the digits to the power and back. -/
theorem positional_withoutZeros (count : Nat) {digits : Nat} (h : 0 < digits) (k : Nat) :
    positional (withoutZeros count (digits, (k : Int))).1
        (withoutZeros count (digits, (k : Int))).2 =
      natDigits (digits * 10 ^ k) := by
  induction count generalizing digits k with
  | zero => exact positional_natCast h k
  | succ count ih =>
      rw [withoutZeros]
      split
      · next hzero =>
          have hten : digits / 10 * 10 = digits := by
            simp at hzero
            omega
          have hscale : digits / 10 * 10 ^ (k + 1) = digits * 10 ^ k := by
            rw [Nat.pow_succ', ← Nat.mul_assoc, hten]
          rw [← hscale]
          exact ih (by omega) (k + 1)
      · exact positional_natCast h k

end Rounding

/-! ## Binary fractions that are whole numbers -/

section Whole

variable {significand : Nat} (exponent : Nat)

theorem Rounding.low_ofFinite (h : significand ≠ 0) :
    0 < (Rounding.ofFinite significand exponent).low ∧
      (Rounding.ofFinite significand exponent).low < 4 * significand * 2 ^ exponent := by
  have hpow : 0 < 2 ^ exponent := Nat.two_pow_pos exponent
  rw [Rounding.ofFinite, twoTo_natCast]
  constructor
  · refine Nat.mul_pos ?_ hpow
    split <;> omega
  · refine Nat.mul_lt_mul_of_pos_right ?_ hpow
    split <;> omega

theorem Rounding.whole_ofFinite (h : significand ≠ 0) :
    (Rounding.ofFinite significand exponent).Whole (significand * 2 ^ exponent) := by
  have hscale : significand * 2 ^ exponent * (4 * 1) = 4 * significand * 2 ^ exponent := by
    rw [Nat.mul_one, Nat.mul_comm, Nat.mul_assoc]
  have hhigh : 4 * significand * 2 ^ exponent < (4 * significand + 2) * 2 ^ exponent :=
    Nat.mul_lt_mul_of_pos_right (by omega) (Nat.two_pow_pos exponent)
  have hden : (Rounding.ofFinite significand exponent).den = 4 * 1 := by
    rw [Rounding.ofFinite, twoTo_neg_natCast]
  refine ⟨by omega, by rw [hden, hscale]; rfl, ?_⟩
  have hlow := (Rounding.low_ofFinite exponent h).2
  rw [Rounding.Contains, hden, hscale]
  split
  · exact ⟨hlow.le, hhigh.le⟩
  · exact ⟨hlow, hhigh⟩

theorem Rounding.not_contains_zero (h : significand ≠ 0) :
    ¬ (Rounding.ofFinite significand exponent).Contains 0 := by
  have hlow := (Rounding.low_ofFinite exponent h).1
  rw [Rounding.Contains, Nat.zero_mul]
  split <;> omega

/-- The text of a whole number is the numeral of a point of the coarsest grid that meets the
interval around it, if seventeen grids are enough to meet it. -/
theorem Binary64.text_eq_of_whole {r : Rounding} {v : Nat} (h : significand ≠ 0)
    (hr : r = Rounding.ofFinite significand exponent) (hv : v = significand * 2 ^ exponent)
    {decade last : Nat} (hdecade : r.decade = decade) (hle : last ≤ decade)
    (hfuel : decade < last + 17) {q : Nat} (hq : r.Contains (q * 10 ^ last)) :
    ∃ digits k : Nat, last ≤ k ∧ r.Contains (digits * 10 ^ k) ∧
      (∀ q, r.Contains (q * 10 ^ k) → Nat.dist v (digits * 10 ^ k) ≤ Nat.dist v (q * 10 ^ k)) ∧
      (∀ i q, k < i → i ≤ decade → ¬ r.Contains (q * 10 ^ i)) ∧
      (Binary64.finite false significand exponent).text = natText (digits * 10 ^ k) := by
  have hwhole : r.Whole v := hr ▸ hv ▸ Rounding.whole_ofFinite exponent h
  have hlast : r.onGrid last ≠ none := fun hnone =>
    Rounding.not_contains_of_onGrid hwhole hnone q hq
  obtain ⟨k, hk, -, hsome, hcoarser⟩ :=
    @Rounding.search_eq r r.decade 17 1 decade last (by omega) hle hfuel hlast
  obtain ⟨hpower, hcontains, hnearest⟩ := Rounding.of_onGrid hwhole hsome
  generalize hfound : r.search r.decade 17 1 = found at hsome hpower hcontains hnearest
  obtain ⟨digits, power⟩ := found
  dsimp only at hpower hcontains hnearest
  subst hpower
  have hdigits : 0 < digits := by
    refine Nat.pos_of_ne_zero fun hzero => Rounding.not_contains_zero exponent h ?_
    rwa [hzero, Nat.zero_mul, hr] at hcontains
  refine ⟨digits, k, hk, hcontains, hnearest, fun i q hlt hge =>
    Rounding.not_contains_of_onGrid hwhole (hcoarser i hlt hge) q, ?_⟩
  have hpositional := Rounding.positional_withoutZeros 17 hdigits k
  rw [← hfound] at hpositional
  rw [Binary64.text, if_neg h, ← hr, Rounding.shortest]
  dsimp only
  rw [hpositional]
  exact String.empty_append

end Whole

end Decimal
end Provision
