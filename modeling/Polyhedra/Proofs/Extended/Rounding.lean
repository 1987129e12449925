import Mathlib
import Polyhedra.Proofs.Decimal.Nearest
import Polyhedra.Proofs.Extended.Finite
import Polyhedra.Proofs.Extended.Order

/-!
# Rounded arithmetic

Sums, differences, products and quotients of finite extended numbers are the exact ones rounded to the digits there are:
to a multiple of the unit in the last place that is nearest, and to the even one of two equally near. What is lost is at
most one part in as many as there are significands, and nothing of a number that has no more digits.
-/

namespace Polyhedra

open Decimal

/-! ### Numbers of so many digits -/

/-- A rational number with at most so many binary digits, wherever they stand. -/
def HasDigits (bits : Nat) (x : Rat) : Prop :=
  ∃ m e : Int, x = m * 2 ^ e ∧ |m| < 2 ^ bits

/-- `y` is `x` rounded to so many binary digits: a nearest multiple of the unit that their last one counts, of two equally
near ones the even multiple. -/
def RoundsTo (bits : Nat) (x y : Rat) : Prop :=
  ∃ k e : Int, |x| < 2 ^ (e + bits) ∧ (x = 0 ∨ 2 ^ (e + bits - 1) ≤ |x|) ∧ IsNearest (x / 2 ^ e) k ∧ y = k * 2 ^ e

variable {bits : Nat} {x y z : Rat}

theorem hasDigits_zero (bits : Nat) : HasDigits bits 0 :=
  ⟨0, 0, by simp, by simp⟩

/-- Digits are counted from the leading one on, so a number of few digits is a multiple of the last one's unit. -/
theorem HasDigits.exists_multiple (h : HasDigits bits x) {e : Int} (large : x = 0 ∨ 2 ^ (e + bits - 1) ≤ |x|) :
    ∃ k : Int, x = k * 2 ^ e := by
  obtain rfl | large := large
  · exact ⟨0, by simp⟩
  obtain ⟨m, f, rfl, few⟩ := h
  have few : |(m : Rat)| < 2 ^ (bits : Int) := by
    rw [zpow_natCast]
    exact_mod_cast few
  have reach : (2 : Rat) ^ (e + bits - 1) < 2 ^ (bits + f) := by
    calc (2 : Rat) ^ (e + bits - 1) ≤ |(m : Rat)| * 2 ^ f := by
          rwa [abs_mul, abs_of_pos (zpow_pos two_pos f : (0 : Rat) < 2 ^ f)] at large
      _ < 2 ^ (bits : Int) * 2 ^ f := by gcongr
      _ = 2 ^ (bits + f) := (zpow_add₀ two_ne_zero _ _).symm
  have order : e ≤ f := by
    have := (zpow_lt_zpow_iff_right₀ (one_lt_two : (1 : Rat) < 2)).1 reach
    omega
  refine ⟨m * 2 ^ (f - e).toNat, ?_⟩
  have shift : ((f - e).toNat : Int) = f - e := Int.toNat_of_nonneg (sub_nonneg.2 order)
  rw [Int.cast_mul, Int.cast_pow, Int.cast_ofNat, ← zpow_natCast, shift, mul_assoc, ← zpow_add₀ two_ne_zero,
    sub_add_cancel]

namespace RoundsTo

/-- The unit in the last place is fixed by the leading digit. -/
theorem unique (hy : RoundsTo bits x y) (hz : RoundsTo bits x z) : y = z := by
  obtain ⟨k, e, small, large, near, rfl⟩ := hy
  obtain ⟨k', e', small', large', near', rfl⟩ := hz
  by_cases zero : x = 0
  · subst zero
    rw [zero_div, ← Int.cast_zero, IsNearest.intCast_iff] at near near'
    rw [← near, ← near', Int.cast_zero, zero_mul, zero_mul]
  · have above := (large.resolve_left zero).trans_lt small'
    have above' := (large'.resolve_left zero).trans_lt small
    rw [zpow_lt_zpow_iff_right₀ one_lt_two] at above above'
    obtain rfl : e = e' := by omega
    rw [near.unique near']

theorem neg (h : RoundsTo bits x y) : RoundsTo bits (-x) (-y) := by
  obtain ⟨k, e, small, large, near, rfl⟩ := h
  refine ⟨-k, e, by rwa [abs_neg], by rwa [abs_neg, neg_eq_zero], ?_, by rw [Int.cast_neg, neg_mul]⟩
  rw [neg_div]
  exact near.neg

theorem mul_zpow (h : RoundsTo bits x y) (s : Int) : RoundsTo bits (x * 2 ^ s) (y * 2 ^ s) := by
  obtain ⟨k, e, small, large, near, rfl⟩ := h
  have unit : (0 : Rat) < 2 ^ s := zpow_pos two_pos s
  refine ⟨k, e + s, ?_, ?_, ?_, ?_⟩
  · rw [abs_mul, abs_of_pos unit, add_right_comm, zpow_add₀ two_ne_zero]
    exact mul_lt_mul_of_pos_right small unit
  · refine large.imp (fun zero => by rw [zero, zero_mul]) fun large => ?_
    rw [abs_mul, abs_of_pos unit, show e + s + bits - 1 = e + bits - 1 + s by ring, zpow_add₀ two_ne_zero]
    exact mul_le_mul_of_nonneg_right large unit.le
  · rwa [zpow_add₀ two_ne_zero, mul_div_mul_right _ _ unit.ne']
  · rw [zpow_add₀ two_ne_zero, mul_assoc]

/-- Rounding moves a number by at most half a unit in its last place. -/
theorem abs_sub_le (h : RoundsTo bits x y) : |y - x| ≤ 1 / 2 ^ bits * |x| := by
  obtain ⟨k, e, _, large, ⟨near, _⟩, rfl⟩ := h
  obtain rfl | large := large
  · rw [zero_div, ← Int.cast_zero, ← Int.cast_sub, zero_sub, Int.cast_neg, abs_neg] at near
    have small : |k| < 1 := by
      have : |(k : Rat)| < 1 := near.trans_lt one_half_lt_one
      exact_mod_cast this
    rw [Int.abs_lt_one_iff.1 small]
    simp
  have unit : (0 : Rat) < 2 ^ e := zpow_pos two_pos e
  have last : (2 : Rat) ^ (e + bits - 1) = 2 ^ e / 2 * 2 ^ bits := by
    rw [sub_eq_add_neg, zpow_add₀ two_ne_zero, zpow_add₀ two_ne_zero, zpow_neg_one, zpow_natCast]
    ring
  have gap : |k * 2 ^ e - x| = |x / 2 ^ e - k| * 2 ^ e := by
    rw [← abs_of_pos unit, ← abs_mul, abs_of_pos unit, sub_mul, div_mul_cancel₀ _ unit.ne', abs_sub_comm]
  rw [one_div_mul_eq_div, le_div_iff₀ (by positivity)]
  calc |k * 2 ^ e - x| * 2 ^ bits ≤ 1 / 2 * 2 ^ e * 2 ^ bits := by rw [gap]; gcongr
    _ = 2 ^ (e + bits - 1) := by rw [last]; ring
    _ ≤ |x| := large

variable (positive : 0 < bits)
include positive

theorem eq_zero_iff (h : RoundsTo bits x y) : y = 0 ↔ x = 0 := by
  constructor
  · intro zero
    have moved := h.abs_sub_le
    rw [zero, zero_sub, abs_neg, one_div_mul_eq_div, le_div_iff₀ (by positivity)] at moved
    have two : (2 : Rat) ≤ 2 ^ bits := by
      exact_mod_cast Nat.pow_le_pow_right two_pos positive
    have : |x| ≤ 0 := by nlinarith [abs_nonneg x]
    exact abs_nonpos_iff.1 this
  · intro zero
    have moved := h.abs_sub_le
    rwa [zero, abs_zero, mul_zero, sub_zero, abs_nonpos_iff] at moved

theorem hasDigits (h : RoundsTo bits x y) : HasDigits bits y := by
  obtain ⟨k, e, small, _, ⟨near, _⟩, rfl⟩ := h
  have unit : (0 : Rat) < 2 ^ e := zpow_pos two_pos e
  have size : |x / 2 ^ e| < 2 ^ bits := by
    rw [abs_div, abs_of_pos unit, div_lt_iff₀ unit, ← zpow_natCast, ← zpow_add₀ two_ne_zero, add_comm]
    exact small
  have bound : |k| ≤ 2 ^ bits := by
    have : |(k : Rat)| < 2 ^ bits + 1 := by
      calc |(k : Rat)| = |x / 2 ^ e - (x / 2 ^ e - k)| := by rw [sub_sub_cancel]
        _ ≤ |x / 2 ^ e| + |x / 2 ^ e - k| := abs_sub _ _
        _ < 2 ^ bits + 1 := by linarith
    exact Int.lt_add_one_iff.1 (by exact_mod_cast this)
  obtain few | full := bound.lt_or_eq
  · exact ⟨k, e, rfl, few⟩
  -- Where rounding carries into a further digit, the significand is a power of two.
  · obtain ⟨s, hs, rfl⟩ : ∃ s : Int, |s| = 1 ∧ k = s * 2 ^ bits := by
      obtain h | h := (abs_eq (by positivity)).1 full
      · exact ⟨1, by simp, by rw [h, one_mul]⟩
      · exact ⟨-1, by simp, by rw [h, neg_one_mul]⟩
    refine ⟨s, e + bits, ?_, ?_⟩
    · rw [zpow_add₀ two_ne_zero, zpow_natCast, Int.cast_mul, Int.cast_pow, Int.cast_ofNat]
      ring
    · rw [hs]
      exact_mod_cast Nat.one_lt_two_pow positive.ne'

end RoundsTo

/-- A number that has no more digits stays as it is. -/
theorem HasDigits.roundsTo (h : HasDigits bits x) : RoundsTo bits x x := by
  have bounds : ∃ e : Int, |x| < 2 ^ (e + bits) ∧ (x = 0 ∨ 2 ^ (e + bits - 1) ≤ |x|) := by
    by_cases zero : x = 0
    · exact ⟨0, by rw [zero, abs_zero]; positivity, .inl zero⟩
    · refine ⟨Int.log 2 |x| + 1 - bits, ?_, .inr ?_⟩
      · rw [sub_add_cancel]
        exact_mod_cast Int.lt_zpow_succ_log_self one_lt_two |x|
      · rw [sub_add_cancel, add_sub_cancel_right]
        exact_mod_cast Int.zpow_log_le_self one_lt_two (abs_pos.2 zero)
  obtain ⟨e, small, large⟩ := bounds
  obtain ⟨k, rfl⟩ := h.exists_multiple large
  refine ⟨k, e, small, large, ?_, rfl⟩
  rw [mul_div_cancel_right₀ _ (zpow_ne_zero e two_ne_zero), IsNearest.intCast_iff]

theorem roundsTo_zero (bits : Nat) : RoundsTo bits 0 0 :=
  (hasDigits_zero bits).roundsTo

/-! ### Rounding a quotient -/

theorem scaled_pos {num den : Nat} (positive : 0 < den) (s : Int) : 0 < (scaled 2 s num den).2 := by
  rw [scaled]
  split
  · exact positive
  · exact Nat.mul_pos positive (Nat.two_pow_pos _)

theorem cast_natPow (k : Nat) : ((Nat.pow 2 k : Nat) : Rat) = 2 ^ (k : Int) := by
  rw [zpow_natCast]
  exact Nat.cast_pow 2 k

theorem scaled_quotient (num den : Nat) (s : Int) :
    ((scaled 2 s num den).1 : Rat) / (scaled 2 s num den).2 = num / den * 2 ^ s := by
  rw [scaled]
  split
  · rename_i up
    rw [Nat.cast_mul, cast_natPow, Int.toNat_of_nonneg up, mul_div_right_comm]
  · rename_i down
    rw [Nat.cast_mul, cast_natPow, Int.toNat_of_nonneg (by omega), zpow_neg, ← div_div, div_inv_eq_mul]

/-- A quotient of full size rounds by its nearest integer. -/
theorem roundsTo_nearest {num den : Nat} (positive : 0 < den) (small : (num / den : Rat) < 2 ^ bits)
    (large : (2 : Rat) ^ ((bits : Int) - 1) ≤ num / den) : RoundsTo bits (num / den) (nearest num den) := by
  have nonneg : (0 : Rat) ≤ num / den := by positivity
  refine ⟨nearest num den, 0, ?_, .inr ?_, ?_, ?_⟩
  · rwa [zero_add, abs_of_nonneg nonneg, zpow_natCast]
  · rwa [zero_add, abs_of_nonneg nonneg]
  · rw [zpow_zero, div_one]
    exact isNearest_nearest num positive
  · rw [zpow_zero, mul_one, Int.cast_natCast]

theorem log2_bounds {n : Nat} (nonzero : n ≠ 0) : (2 : Rat) ^ n.log2 ≤ n ∧ (n : Rat) < 2 ^ (n.log2 + 1) :=
  ⟨by exact_mod_cast Nat.log2_self_le nonzero, by exact_mod_cast Nat.lt_log2_self⟩

/-- The leading digits of two numbers give that of their quotient up to one place. -/
theorem log2_quotient_bounds {num den : Nat} (hn : num ≠ 0) (hd : den ≠ 0) :
    (2 : Rat) ^ ((num.log2 : Int) - den.log2 - 1) ≤ num / den ∧
      (num / den : Rat) < 2 ^ ((num.log2 : Int) - den.log2 + 1) := by
  obtain ⟨lowN, highN⟩ := log2_bounds hn
  obtain ⟨lowD, highD⟩ := log2_bounds hd
  have den_pos : (0 : Rat) < den := by positivity
  have nonneg (e : Int) : (0 : Rat) ≤ 2 ^ e := (zpow_pos two_pos e).le
  rw [le_div_iff₀ den_pos, div_lt_iff₀ den_pos]
  constructor
  · calc (2 : Rat) ^ ((num.log2 : Int) - den.log2 - 1) * den
        ≤ 2 ^ ((num.log2 : Int) - den.log2 - 1) * 2 ^ (den.log2 + 1) := mul_le_mul_of_nonneg_left highD.le (nonneg _)
      _ = 2 ^ num.log2 := by
        rw [← zpow_natCast, ← zpow_natCast, ← zpow_add₀ two_ne_zero]
        congr 1
        push_cast
        ring
      _ ≤ num := lowN
  · calc (num : Rat) < 2 ^ (num.log2 + 1) := highN
      _ = 2 ^ ((num.log2 : Int) - den.log2 + 1) * 2 ^ den.log2 := by
        rw [← zpow_natCast, ← zpow_natCast, ← zpow_add₀ two_ne_zero]
        congr 1
        push_cast
        ring
      _ ≤ 2 ^ ((num.log2 : Int) - den.log2 + 1) * den := mul_le_mul_of_nonneg_left lowD (nonneg _)

theorem binaryExponent_bounds {num den : Nat} (hn : num ≠ 0) (hd : den ≠ 0) :
    (2 : Rat) ^ binaryExponent num den ≤ num / den ∧ (num / den : Rat) < 2 ^ (binaryExponent num den + 1) := by
  obtain ⟨low, high⟩ := log2_quotient_bounds hn hd
  rw [binaryExponent]
  generalize (num.log2 : Int) - den.log2 = e at low high
  have second : (0 : Rat) < (scaled 2 (-e) num den).2 := Nat.cast_pos.2 (scaled_pos (Nat.pos_of_ne_zero hd) _)
  have test : (scaled 2 (-e) num den).1 < (scaled 2 (-e) num den).2 ↔ (num / den : Rat) < 2 ^ e := by
    rw [← Nat.cast_lt (α := Rat), ← div_lt_one second, scaled_quotient, zpow_neg, ← div_eq_mul_inv,
      div_lt_one (zpow_pos two_pos e)]
  split
  · rename_i less
    rw [sub_add_cancel]
    exact ⟨low, test.1 less⟩
  · rename_i least
    exact ⟨not_lt.1 fun less => least (test.2 less), high⟩

theorem roundsTo_roundBinary (bits : Nat) {num den : Nat} (hn : num ≠ 0) (hd : den ≠ 0) :
    RoundsTo bits (num / den) ((roundBinary bits none num den).1 * 2 ^ (roundBinary bits none num den).2) := by
  obtain ⟨low, high⟩ := binaryExponent_bounds hn hd
  simp only [roundBinary]
  generalize binaryExponent num den = e at low high
  have unit (k : Int) : (0 : Rat) < 2 ^ k := zpow_pos two_pos k
  have rounds : RoundsTo bits (num / den * 2 ^ (-(e - bits + 1)))
      (nearest (scaled 2 (-(e - bits + 1)) num den).1 (scaled 2 (-(e - bits + 1)) num den).2) := by
    rw [← scaled_quotient]
    apply roundsTo_nearest (scaled_pos (Nat.pos_of_ne_zero hd) _)
    · rw [scaled_quotient, zpow_neg, ← div_eq_mul_inv, div_lt_iff₀ (unit _), ← zpow_natCast, ← zpow_add₀ two_ne_zero]
      rwa [show (bits : Int) + (e - bits + 1) = e + 1 by ring]
    · rw [scaled_quotient, zpow_neg, ← div_eq_mul_inv, le_div_iff₀ (unit _), ← zpow_add₀ two_ne_zero]
      rwa [show (bits : Int) - 1 + (e - bits + 1) = e by ring]
  have back := rounds.mul_zpow (e - bits + 1)
  rwa [mul_assoc, ← zpow_add₀ two_ne_zero, neg_add_cancel, zpow_zero, mul_one] at back

/-! ### The operations -/

namespace Extended

/-- The rational number that a finite number is. Special values are none; they are given zero. -/
def rational : Extended bits → Rat
  | finite m e => m * 2 ^ e
  | _ => 0

theorem rational_aligned (m : Int) {e least : Int} (below : least ≤ e) :
    (aligned m e least * 2 ^ least : Rat) = m * 2 ^ e := by
  have same := real_aligned m below
  rw [real, real] at same
  apply Rat.cast_injective (α := ℝ)
  push_cast
  exact same

/-- A result that is rounded in magnitude is given its sign afterwards. -/
theorem roundsTo_signed {k : Nat} {e : Int} (h : RoundsTo bits x (k * 2 ^ e)) (negative : Prop) [Decidable negative] :
    RoundsTo bits (if negative then -x else x)
      (finite (if negative then -(k : Int) else (k : Int)) e : Extended bits).rational := by
  split
  · rw [rational, Int.cast_neg, neg_mul]
    exact h.neg
  · exact h

theorem signed_natAbs (m : Int) (unit : Rat) :
    (if m < 0 then -(m.natAbs * unit) else m.natAbs * unit) = m * unit := by
  rw [Nat.cast_natAbs]
  split
  · rename_i negative
    rw [abs_of_neg negative, Int.cast_neg, neg_mul, neg_neg]
  · rename_i nonneg
    rw [abs_of_nonneg (not_lt.1 nonneg)]

theorem roundsTo_rounded (m e : Int) : RoundsTo bits (m * 2 ^ e) (rounded m e : Extended bits).rational := by
  simp only [rounded]
  split
  · rename_i zero
    rw [zero, Int.cast_zero, zero_mul, rational, Int.cast_zero, zero_mul]
    exact roundsTo_zero bits
  rename_i nonzero
  have size_ne : m.natAbs ≠ 0 := Int.natAbs_ne_zero.2 nonzero
  split
  · refine HasDigits.roundsTo ⟨m, e, rfl, ?_⟩
    have few : m.natAbs < 2 ^ bits := (Nat.log2_lt size_ne).1 (by omega)
    rw [Int.abs_eq_natAbs]
    exact_mod_cast few
  · rename_i more
    obtain ⟨low, high⟩ := log2_bounds size_ne
    obtain ⟨k, excess⟩ : ∃ k : Nat, m.natAbs.log2 + 1 - bits = k := ⟨_, rfl⟩
    have digits : (m.natAbs.log2 : Int) = bits - 1 + k := by omega
    have unit : (0 : Rat) < 2 ^ (k : Int) := zpow_pos two_pos _
    have rounds : RoundsTo bits (m.natAbs / (Nat.pow 2 k : Nat)) (nearest m.natAbs (Nat.pow 2 k)) := by
      have positive : 0 < Nat.pow 2 k := Nat.two_pow_pos k
      apply roundsTo_nearest positive
      · rw [cast_natPow, div_lt_iff₀ unit, ← zpow_natCast, ← zpow_add₀ two_ne_zero,
          show (bits : Int) + k = (m.natAbs.log2 + 1 : Nat) by omega, zpow_natCast]
        exact high
      · rw [cast_natPow, le_div_iff₀ unit, ← zpow_add₀ two_ne_zero, ← digits, zpow_natCast]
        exact low
    have scaled := roundsTo_signed (rounds.mul_zpow (e + k)) (m < 0)
    have exact_value : (m.natAbs / (Nat.pow 2 k : Nat) * 2 ^ (e + k) : Rat) = m.natAbs * 2 ^ e := by
      rw [cast_natPow, add_comm, zpow_add₀ two_ne_zero, ← mul_assoc, div_mul_cancel₀ _ unit.ne']
    rw [exact_value, signed_natAbs] at scaled
    rw [excess]
    exact scaled

variable {x y : Extended bits}

theorem roundsTo_mul (hx : x.IsFinite) (hy : y.IsFinite) : RoundsTo bits (x.rational * y.rational) (x * y).rational := by
  obtain ⟨m, e, rfl⟩ := hx
  obtain ⟨m', e', rfl⟩ := hy
  have rounds : RoundsTo bits _ _ := roundsTo_rounded (m * m') (e + e')
  rw [Int.cast_mul, zpow_add₀ two_ne_zero, mul_mul_mul_comm] at rounds
  exact rounds

theorem roundsTo_add (hx : x.IsFinite) (hy : y.IsFinite) : RoundsTo bits (x.rational + y.rational) (x + y).rational := by
  obtain ⟨m, e, rfl⟩ := hx
  obtain ⟨m', e', rfl⟩ := hy
  change RoundsTo bits (m * 2 ^ e + m' * 2 ^ e') (Extended.add (finite m e) (finite m' e')).rational
  simp only [Extended.add]
  split
  · rename_i zero
    rw [zero, Int.cast_zero, zero_mul, zero_add]
    exact roundsTo_rounded m' e'
  · split
    · rename_i zero
      rw [zero, Int.cast_zero, zero_mul, add_zero]
      exact roundsTo_rounded m e
    · rw [← rational_aligned m (min_le_left e e'), ← rational_aligned m' (min_le_right e e'), ← add_mul, ← Int.cast_add]
      exact roundsTo_rounded _ _

theorem roundsTo_sub (hx : x.IsFinite) (hy : y.IsFinite) : RoundsTo bits (x.rational - y.rational) (x - y).rational := by
  obtain ⟨m, e, rfl⟩ := hy
  have negated : (finite (-m) e : Extended bits).rational = -(finite m e : Extended bits).rational := by
    rw [rational, rational, Int.cast_neg, neg_mul]
  have rounds := roundsTo_add hx ⟨-m, e, rfl⟩
  rw [negated, ← sub_eq_add_neg] at rounds
  exact rounds

theorem rational_eq_zero_iff (m e : Int) : (finite m e : Extended bits).rational = 0 ↔ m = 0 := by
  rw [rational, mul_eq_zero_iff_right (zpow_ne_zero e two_ne_zero), Int.cast_eq_zero]

theorem rational_zero : (0 : Extended bits).rational = 0 :=
  (rational_eq_zero_iff 0 0).2 rfl

theorem signed_quotient (m m' : Int) (unit : Rat) :
    (if (m < 0) ≠ (m' < 0) then -(m.natAbs / m'.natAbs * unit) else m.natAbs / m'.natAbs * unit) = m / m' * unit := by
  rw [Nat.cast_natAbs, Nat.cast_natAbs]
  obtain negative | nonneg := lt_or_ge m 0
  · obtain negative' | nonneg' := lt_or_ge m' 0
    · rw [if_neg (by simp [negative, negative']), abs_of_neg negative, abs_of_neg negative', Int.cast_neg, Int.cast_neg,
        neg_div_neg_eq]
    · rw [if_pos (by simp [negative, nonneg']), abs_of_neg negative, abs_of_nonneg nonneg', Int.cast_neg, neg_div,
        neg_mul, neg_neg]
  · obtain negative' | nonneg' := lt_or_ge m' 0
    · rw [if_pos (by simp [nonneg, negative']), abs_of_nonneg nonneg, abs_of_neg negative', Int.cast_neg, div_neg,
        neg_mul, neg_neg]
    · rw [if_neg (by simp [nonneg.not_gt, nonneg'.not_gt]), abs_of_nonneg nonneg, abs_of_nonneg nonneg']

/-- Division by a power of two moves the exponent. -/
theorem quotient_of_power (m : Int) {m' : Int} (shift : Int)
    (power : m'.natAbs = Nat.pow 2 (Nat.log2 m'.natAbs)) :
    (m / m' * 2 ^ shift : Rat) = ((if m' < 0 then -m else m : Int) : Rat) * 2 ^ (shift - Nat.log2 m'.natAbs) := by
  have size : (m'.natAbs : Rat) = 2 ^ (Nat.log2 m'.natAbs : Int) :=
    (congrArg Nat.cast power).trans (cast_natPow _)
  rw [zpow_sub₀ two_ne_zero, ← size, Nat.cast_natAbs]
  split
  · rename_i negative
    rw [abs_of_neg negative, Int.cast_neg, Int.cast_neg]
    ring
  · rename_i nonneg
    rw [abs_of_nonneg (not_lt.1 nonneg)]
    ring

theorem roundsTo_div (hx : x.IsFinite) (hy : y.IsFinite) (nonzero : y.rational ≠ 0) :
    RoundsTo bits (x.rational / y.rational) (x / y).rational := by
  obtain ⟨m, e, rfl⟩ := hx
  obtain ⟨m', e', rfl⟩ := hy
  rw [Ne, rational_eq_zero_iff] at nonzero
  have nonzero_cast : (m' : Rat) ≠ 0 := Int.cast_ne_zero.2 nonzero
  have quotient : (finite m e : Extended bits).rational / (finite m' e' : Extended bits).rational =
      m / m' * 2 ^ (e - e') := by
    rw [rational, rational, zpow_sub₀ two_ne_zero, mul_div_mul_comm]
  rw [quotient]
  change RoundsTo bits _ (Extended.div (finite m e) (finite m' e')).rational
  rw [Extended.div, if_neg nonzero]
  split
  · rename_i zero
    rw [zero, Int.cast_zero, zero_div, zero_mul, rational, Int.cast_zero, zero_mul]
    exact roundsTo_zero bits
  rename_i dividend
  split
  · rename_i power
    have rounds : RoundsTo bits _ _ := roundsTo_rounded (if m' < 0 then -m else m)
      (e - e' - (Nat.log2 m'.natAbs : Int))
    rwa [quotient_of_power m (e - e') power]
  · have rounds := roundsTo_roundBinary bits (Int.natAbs_ne_zero.2 dividend) (Int.natAbs_ne_zero.2 nonzero)
    have moved := rounds.mul_zpow (e - e')
    rw [mul_assoc, ← zpow_add₀ two_ne_zero, add_comm] at moved
    have scaled := roundsTo_signed moved ((m < 0) ≠ (m' < 0))
    rwa [signed_quotient] at scaled

/-! ### Numbers that fit -/

theorem IsFinite.eq_zero_iff (hx : x.IsFinite) : Scalar.eq x 0 = true ↔ x.rational = 0 := by
  obtain ⟨m, e, rfl⟩ := hx
  rw [eq_finite_zero, decide_eq_true_iff, rational_eq_zero_iff]

structure IsProper (x : Extended bits) : Prop where
  finite : x.IsFinite
  digits : HasDigits bits x.rational

theorem isProper_finite {m : Int} (e : Int) (few : |m| < 2 ^ bits) : (finite m e : Extended bits).IsProper :=
  ⟨⟨m, e, rfl⟩, m, e, rfl, few⟩

variable (positive : 0 < bits)
include positive

theorem IsProper.sub (hx : x.IsProper) (hy : y.IsProper) : (x - y).IsProper :=
  ⟨hx.finite.sub hy.finite, (roundsTo_sub hx.finite hy.finite).hasDigits positive⟩

theorem IsProper.mul (hx : x.IsProper) (hy : y.IsProper) : (x * y).IsProper :=
  ⟨hx.finite.mul hy.finite, (roundsTo_mul hx.finite hy.finite).hasDigits positive⟩

theorem IsProper.div (hx : x.IsProper) (hy : y.IsProper) (nonzero : y.rational ≠ 0) : (x / y).IsProper where
  finite := by
    apply hx.finite.div hy.finite
    rwa [← Bool.not_eq_true, hy.finite.eq_zero_iff]
  digits := (roundsTo_div hx.finite hy.finite nonzero).hasDigits positive

end Extended

end Polyhedra
