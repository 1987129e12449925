import Mathlib
import Polyhedra.Extended

/-!
# The order of extended numbers

Extended numbers compare as the numbers that they stand for, with the infinities beyond all others. A comparison looks at
signs and leading digits first, and significands are brought to one exponent only where these do not tell. NaN compares
with nothing, not even with itself.
-/

namespace Polyhedra.Extended

variable {bits : Nat}

noncomputable def real (significand exponent : Int) : ℝ :=
  significand * 2 ^ exponent

/-- What a number stands for. There is nothing that NaN stands for; it is given zero. -/
noncomputable def value : Extended bits → EReal
  | nan => 0
  | infinite negative => if negative then ⊥ else ⊤
  | finite m e => real m e

section Finite

variable {m e m' e' : Int}

theorem real_pos_iff : 0 < real m e ↔ 0 < m := by
  rw [real, mul_pos_iff_of_pos_right (zpow_pos two_pos e), Int.cast_pos]

theorem real_neg_iff : real m e < 0 ↔ m < 0 := by
  rw [← not_le, ← not_le, real, mul_nonneg_iff_of_pos_right (zpow_pos two_pos e), Int.cast_nonneg_iff]

theorem real_aligned (m : Int) {e least : Int} (below : least ≤ e) : real (aligned m e least) least = real m e := by
  have shift : ((e - least).toNat : Int) = e - least := Int.toNat_of_nonneg (sub_nonneg.2 below)
  have power : ((Nat.pow 2 (e - least).toNat : Nat) : ℝ) = 2 ^ (e - least) := by
    rw [← shift, zpow_natCast]
    exact Nat.cast_pow 2 _
  rw [real, real, aligned, Int.cast_mul, Int.cast_natCast, power, mul_assoc, ← zpow_add₀ two_ne_zero, sub_add_cancel]

/-- The leading digit tells a magnitude up to a factor of two. -/
theorem leading_bounds (nonzero : m ≠ 0) :
    (2 : ℝ) ^ leading m e ≤ |real m e| ∧ |real m e| < 2 ^ (leading m e + 1) := by
  have size : |real m e| = (m.natAbs : ℝ) * 2 ^ e := by
    rw [real, abs_mul, abs_of_pos (zpow_pos two_pos e : (0 : ℝ) < 2 ^ e), Nat.cast_natAbs, Int.cast_abs]
  have low : (2 : ℝ) ^ Nat.log2 m.natAbs ≤ m.natAbs := by
    exact_mod_cast Nat.log2_self_le (Int.natAbs_ne_zero.2 nonzero)
  have high : (m.natAbs : ℝ) < 2 ^ (Nat.log2 m.natAbs + 1) := by
    exact_mod_cast Nat.lt_log2_self
  rw [size, leading, add_right_comm, zpow_add₀ two_ne_zero, zpow_add₀ two_ne_zero]
  constructor
  · rw [zpow_natCast]
    gcongr
  · gcongr
    exact_mod_cast high

theorem abs_lt_of_leading_lt (nonzero : m ≠ 0) (nonzero' : m' ≠ 0) (less : leading m e < leading m' e') :
    |real m e| < |real m' e'| := by
  calc |real m e| < 2 ^ (leading m e + 1) := (leading_bounds nonzero).2
    _ ≤ 2 ^ leading m' e' := zpow_le_zpow_right₀ one_le_two less
    _ ≤ |real m' e'| := (leading_bounds nonzero').1

theorem leading_lt_iff (nonzero : m ≠ 0) (nonzero' : m' ≠ 0) (differ : leading m e ≠ leading m' e') :
    leading m e < leading m' e' ↔ |real m e| < |real m' e'| := by
  refine ⟨abs_lt_of_leading_lt nonzero nonzero', fun less => ?_⟩
  -- Were the leading digits the other way round, so would the magnitudes be.
  rcases lt_or_gt_of_ne differ with before | after
  · exact before
  · exact absurd (abs_lt_of_leading_lt nonzero' nonzero after) less.le.not_gt

/-- Significands decide by their signs, unless both are positive or both are negative. -/
theorem lt_iff_of_apart (apart : m = 0 ∨ m' = 0 ∨ (m < 0) ≠ (m' < 0)) : m < m' ↔ real m e < real m' e' := by
  have negative : real m e < 0 ↔ m < 0 := real_neg_iff
  have positive : 0 < real m e ↔ 0 < m := real_pos_iff
  have negative' : real m' e' < 0 ↔ m' < 0 := real_neg_iff
  have positive' : 0 < real m' e' ↔ 0 < m' := real_pos_iff
  constructor
  · intro less
    by_cases h : m < 0
    · have : ¬real m' e' < 0 := by rw [negative']; grind
      linarith [negative.2 h]
    · have : 0 < m' := by omega
      have : ¬0 < real m e := by rw [positive]; grind
      linarith [positive'.2 ‹0 < m'›]
  · intro less
    grind

/-- A comparison of finite numbers is one of integers that stand in the same order. -/
theorem exists_compareFinite (m e m' e' : Int) : ∃ a b : Int,
    (∀ related, compareFinite related m e m' e' = related a b) ∧
      (a < b ↔ real m e < real m' e') ∧ (b < a ↔ real m' e' < real m e) := by
  -- Signs decide if they differ, then leading digits, and significands at the lesser exponent if these are level.
  by_cases apart : m = 0 ∨ m' = 0 ∨ (m < 0) ≠ (m' < 0)
  · have apart' : m' = 0 ∨ m = 0 ∨ (m' < 0) ≠ (m < 0) := by tauto
    exact ⟨m, m', fun related => if_pos apart, lt_iff_of_apart apart, lt_iff_of_apart apart'⟩
  have nonzero : m ≠ 0 := fun h => apart (.inl h)
  have nonzero' : m' ≠ 0 := fun h => apart (.inr (.inl h))
  by_cases level : leading m e = leading m' e'
  · have unit : (0 : ℝ) < 2 ^ min e e' := zpow_pos two_pos _
    have order (a b : Int) : real a (min e e') < real b (min e e') ↔ a < b := by
      rw [real, real, mul_lt_mul_iff_left₀ unit, Int.cast_lt]
    refine ⟨aligned m e (min e e'), aligned m' e' (min e e'), fun related => ?_, ?_, ?_⟩
    · rw [compareFinite, if_neg apart, if_pos level]
    · rw [← order, real_aligned m (min_le_left e e'), real_aligned m' (min_le_right e e')]
    · rw [← order, real_aligned m (min_le_left e e'), real_aligned m' (min_le_right e e')]
  have order := leading_lt_iff nonzero nonzero' level
  have order' := leading_lt_iff nonzero' nonzero (Ne.symm level)
  by_cases negative : m < 0
  · have negative' : m' < 0 := by tauto
    rw [abs_of_neg (real_neg_iff.2 negative), abs_of_neg (real_neg_iff.2 negative'), neg_lt_neg_iff] at order order'
    refine ⟨leading m' e', leading m e, fun related => ?_, order', order⟩
    rw [compareFinite, if_neg apart, if_neg level, if_pos negative]
  · have positive : 0 < m := by omega
    have positive' : 0 < m' := by grind
    rw [abs_of_pos (real_pos_iff.2 positive), abs_of_pos (real_pos_iff.2 positive')] at order order'
    refine ⟨leading m e, leading m' e', fun related => ?_, order, order'⟩
    rw [compareFinite, if_neg apart, if_neg level, if_neg negative]

end Finite

/-! ### The comparisons -/

variable {x y : Extended bits}

theorem exists_compare (hx : x ≠ nan) (hy : y ≠ nan) : ∃ a b : Int,
    (∀ related, compare related x y = related a b) ∧ (a < b ↔ x.value < y.value) ∧ (b < a ↔ y.value < x.value) := by
  cases x with
  | nan => exact absurd rfl hx
  | infinite s =>
    cases y with
    | nan => exact absurd rfl hy
    | infinite s' => exact ⟨_, _, fun related => rfl, by cases s <;> cases s' <;> simp [value]⟩
    | finite m' e' => exact ⟨_, _, fun related => rfl, by cases s <;> simp [value]⟩
  | finite m e =>
    cases y with
    | nan => exact absurd rfl hy
    | infinite s' => exact ⟨_, _, fun related => rfl, by cases s' <;> simp [value]⟩
    | finite m' e' =>
      simp only [value, EReal.coe_lt_coe_iff]
      exact exists_compareFinite m e m' e'

theorem ne_nan_of_compare {related : Int → Int → Bool} (h : compare related x y = true) : x ≠ nan ∧ y ≠ nan := by
  cases x <;> cases y <;> simp_all [compare]

@[simp] theorem lt_iff : Scalar.lt x y = true ↔ x ≠ nan ∧ y ≠ nan ∧ x.value < y.value := by
  change compare (fun m m' => decide (m < m')) x y = true ↔ _
  constructor
  · intro h
    obtain ⟨hx, hy⟩ := ne_nan_of_compare h
    obtain ⟨a, b, same, less, _⟩ := exists_compare hx hy
    rw [same, decide_eq_true_iff] at h
    exact ⟨hx, hy, less.1 h⟩
  · intro h
    obtain ⟨a, b, same, less, _⟩ := exists_compare h.1 h.2.1
    rw [same, decide_eq_true_iff]
    exact less.2 h.2.2

@[simp] theorem le_iff : Scalar.le x y = true ↔ x ≠ nan ∧ y ≠ nan ∧ x.value ≤ y.value := by
  change compare (fun m m' => decide (m ≤ m')) x y = true ↔ _
  constructor
  · intro h
    obtain ⟨hx, hy⟩ := ne_nan_of_compare h
    obtain ⟨a, b, same, _, less⟩ := exists_compare hx hy
    rw [same, decide_eq_true_iff, ← not_lt] at h
    exact ⟨hx, hy, not_lt.1 fun above => h (less.2 above)⟩
  · intro h
    obtain ⟨a, b, same, _, less⟩ := exists_compare h.1 h.2.1
    rw [same, decide_eq_true_iff, ← not_lt]
    exact fun above => (less.1 above).not_ge h.2.2

end Polyhedra.Extended
