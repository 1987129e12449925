import Mathlib
import Polyhedra.Numeral

/-!
# Rounding to billionths

The grid point of a rational number is the integer nearest to its billionfold, of two equally near ones the even one. This
determines the integer, so two numbers lie on one grid point exactly if they round to the same billionth, and then they
are at most a billionth apart.
-/

namespace Polyhedra

/-- The nearest integer to a number; of two equally near ones it is the even one. -/
def IsNearest (x : Rat) (k : Int) : Prop :=
  |x - k| ≤ 1 / 2 ∧ (|x - k| = 1 / 2 → Even k)

namespace IsNearest

variable {x : Rat} {k l : Int}

theorem neg (h : IsNearest x k) : IsNearest (-x) (-k) := by
  have same : |-x - ((-k : Int) : Rat)| = |x - k| := by
    rw [Int.cast_neg, neg_sub_neg, abs_sub_comm]
  rw [IsNearest, same, even_neg]
  exact h

theorem not_lt (hk : IsNearest x k) (hl : IsNearest x l) : ¬k < l := by
  intro less
  obtain ⟨nearK, evenK⟩ := hk
  obtain ⟨nearL, evenL⟩ := hl
  have step : (k : Rat) + 1 ≤ l := by exact_mod_cast less
  have aboveK := (abs_le.1 nearK).2
  have belowL := (abs_le.1 nearL).1
  -- Both integers are half a unit away, so both are even although they are neighbours.
  have halfK : |x - k| = 1 / 2 := by
    rw [abs_of_nonneg (by linarith)]
    linarith
  have halfL : |x - l| = 1 / 2 := by
    rw [abs_of_nonpos (by linarith)]
    linarith
  have neighbours : l = k + 1 := by
    have : (l : Rat) = k + 1 := by linarith
    exact_mod_cast this
  obtain ⟨i, hi⟩ := evenK halfK
  obtain ⟨j, hj⟩ := evenL halfL
  omega

theorem unique (hk : IsNearest x k) (hl : IsNearest x l) : k = l :=
  le_antisymm (Int.not_lt.1 (hl.not_lt hk)) (Int.not_lt.1 (hk.not_lt hl))

theorem intCast_iff : IsNearest (k : Rat) l ↔ k = l := by
  have itself : IsNearest (k : Rat) k := ⟨by norm_num, by norm_num⟩
  exact ⟨fun h => itself.unique h, fun h => h ▸ itself⟩

end IsNearest

section Quotient

variable {q r den : Nat}

theorem isNearest_below (positive : 0 < den) (near : 2 * r ≤ den) (tie : 2 * r = den → Even q) :
    IsNearest ((q : Rat) + r / den) q := by
  have den_pos : (0 : Rat) < den := Nat.cast_pos.2 positive
  have near : 2 * (r : Rat) ≤ den := by exact_mod_cast near
  have gap : |(q : Rat) + r / den - (q : Int)| = r / den := by
    rw [Int.cast_natCast, add_sub_cancel_left, abs_of_nonneg (div_nonneg (Nat.cast_nonneg r) den_pos.le)]
  rw [IsNearest, gap, div_le_iff₀ den_pos, div_eq_iff den_pos.ne', Int.even_coe_nat]
  refine ⟨by linarith, fun half => tie ?_⟩
  have : 2 * (r : Rat) = den := by linarith
  exact_mod_cast this

theorem isNearest_above (positive : 0 < den) (inside : r < den) (near : den ≤ 2 * r) (tie : 2 * r = den → ¬Even q) :
    IsNearest ((q : Rat) + r / den) (q + 1 : Nat) := by
  have den_pos : (0 : Rat) < den := Nat.cast_pos.2 positive
  have inside : (r : Rat) < den := by exact_mod_cast inside
  have near : (den : Rat) ≤ 2 * r := by exact_mod_cast near
  have gap : |(q : Rat) + r / den - ((q + 1 : Nat) : Int)| = (den - r) / den := by
    rw [Int.cast_natCast, Nat.cast_succ, add_sub_add_left_eq_sub, abs_sub_comm, sub_div, div_self den_pos.ne']
    exact abs_of_nonneg (sub_nonneg.2 ((div_le_one den_pos).2 inside.le))
  rw [IsNearest, gap, div_le_iff₀ den_pos, div_eq_iff den_pos.ne', Int.even_coe_nat, Nat.even_add_one]
  refine ⟨by linarith, fun half => tie ?_⟩
  have : 2 * (r : Rat) = den := by linarith
  exact_mod_cast this

end Quotient

theorem isNearest_nearest (num : Nat) {den : Nat} (positive : 0 < den) :
    IsNearest ((num : Rat) / den) (Decimal.nearest num den) := by
  have inside := Nat.mod_lt num positive
  have quotient : (num : Rat) / den = (num / den : Nat) + (num % den : Nat) / den := by
    have whole : (num : Rat) = den * (num / den : Nat) + (num % den : Nat) := by
      exact_mod_cast (Nat.div_add_mod num den).symm
    have den_ne : (den : Rat) ≠ 0 := Nat.cast_ne_zero.2 positive.ne'
    rw [div_eq_iff den_ne, add_mul, div_mul_cancel₀ _ den_ne, mul_comm]
    exact whole
  rw [Decimal.nearest, quotient]
  split
  · apply isNearest_above positive inside (by omega)
    intro tie
    rw [Nat.even_iff]
    omega
  · apply isNearest_below positive (by omega)
    intro tie
    rw [Nat.even_iff]
    omega

def SameBillionths (x y : Rat) : Prop :=
  ∃ k : Int, IsNearest (x * 1000000000) k ∧ IsNearest (y * 1000000000) k

theorem exists_gridPoint? (x : Rat) :
    ∃ k : Int, Numeral.gridPoint? x = some (.billionths k) ∧ IsNearest (x * 1000000000) k := by
  have size : ((x.num.natAbs * 1000000000 : Nat) : Rat) / x.den = |x| * 1000000000 := by
    rw [Nat.cast_mul, Nat.cast_natAbs, Int.cast_abs, mul_div_right_comm]
    congr 1
    rw [← Nat.abs_cast x.den, ← abs_div, Rat.num_div_den]
  have near := isNearest_nearest (x.num.natAbs * 1000000000) x.den_pos
  rw [size] at near
  refine ⟨_, rfl, ?_⟩
  by_cases negative : x < 0
  · rw [abs_of_neg negative, neg_mul] at near
    rw [if_pos (decide_eq_true negative), ← neg_neg (x * 1000000000)]
    exact near.neg
  · rw [abs_of_nonneg (not_lt.1 negative)] at near
    rw [if_neg (by simpa using negative)]
    exact near

theorem gridPoint?_eq_iff {x y : Rat} : Numeral.gridPoint? x = Numeral.gridPoint? y ↔ SameBillionths x y := by
  obtain ⟨k, foundX, nearX⟩ := exists_gridPoint? x
  obtain ⟨l, foundY, nearY⟩ := exists_gridPoint? y
  rw [foundX, foundY]
  refine ⟨?_, ?_⟩
  · intro same
    obtain rfl : k = l := GridPoint.billionths.inj (Option.some.inj same)
    exact ⟨k, nearX, nearY⟩
  · intro h
    obtain ⟨i, nearX', nearY'⟩ := h
    rw [nearX.unique nearX', nearY.unique nearY']

/-- Numbers that round to the same billionth are at most a billionth apart. -/
theorem SameBillionths.abs_sub_le {x y : Rat} (h : SameBillionths x y) : |x - y| ≤ 1 / 1000000000 := by
  obtain ⟨k, ⟨nearX, _⟩, nearY, _⟩ := h
  rw [abs_le] at nearX nearY ⊢
  refine ⟨?_, ?_⟩
  · linarith
  · linarith

end Polyhedra
