import Mathlib
import Polyhedra.Proofs.Decimal.Special

/-!
# Finite doubles

A double is finite unless all bits of its exponent are set, and then it decodes to a significand and an exponent. Turning
the sign by a multiplication is exact: the product has the significand shifted to the left by the hidden bit of one, and
rounding shifts the zeros out again.
-/

namespace Polyhedra.Decimal

open Float.Model Float.Model.UnpackedFloat

theorem unpackExponent_eq_neg_one_iff (b : BitVec 64) :
    (unpackExponent b : BitVec Format.binary64.exponentBits) = -1 ↔ b.toNat / Binary64.hiddenBit % 2048 = 2047 := by
  rw [← BitVec.toNat_inj, toNat_unpackExponent]
  rfl

theorem isFinite_unpack_iff (b : BitVec 64) : (UnpackedFloat.unpack .binary64 b).isFinite = true ↔
    (unpackExponent b : BitVec Format.binary64.exponentBits) ≠ -1 := by
  rw [UnpackedFloat.unpack]
  split
  · split <;> simp_all [UnpackedFloat.isFinite]
  · split
    · split <;> simp_all [UnpackedFloat.isFinite]
    · simp_all [UnpackedFloat.isFinite]

theorem isFinite_iff {x : Float} : x.isFinite = true ↔ ∃ negative m e, Binary64.decode x = .finite negative m e := by
  have field : x.isFinite = true ↔ ¬x.toBits.toNat / Binary64.hiddenBit % 2048 = 2047 :=
    (isFinite_unpack_iff x.toBits.toBitVec).trans (unpackExponent_eq_neg_one_iff _).not
  rw [field, Binary64.decode]
  constructor
  · intro inside
    rw [if_neg inside]
    split <;> exact ⟨_, _, _, rfl⟩
  · intro h special
    rw [if_pos special] at h
    split at h <;> simp at h

theorem decode_eq_nan_iff {x : Float} : Binary64.decode x = .nan ↔ x.isNaN = true := by
  constructor
  · intro h
    rw [eq_quietNaN_of_decode h]
    rfl
  · intro h
    cases decoded : Binary64.decode x with
    | nan => rfl
    | infinite negative =>
      rw [eq_infinity_of_decode decoded] at h
      cases negative <;> cases h
    | finite negative m e =>
      have finite : x.toModel.unpack.isFinite = true := isFinite_iff.2 ⟨negative, m, e, decoded⟩
      change x.toModel.unpack.isNaN = true at h
      cases unpacked : x.toModel.unpack <;> simp [unpacked, UnpackedFloat.isFinite, UnpackedFloat.isNaN] at finite h

/-! ### Turning the sign -/

section Exact

variable {sign : Sign} {m : Nat} {e : Int} {positive : 0 < m}

/-- What is unpacked has the exponent that rounding would give it, and one that can be packed. -/
theorem exponent_of_unpack {b : BitVec 64} (h : UnpackedFloat.unpack .binary64 b = .finite sign m e positive) :
    Format.binary64.targetExponent (totalExponent m e) = e ∧ e ≤ 971 := by
  change max ((Nat.log2 m : Int) + 1 + e - 53) (-1074) = e ∧ e ≤ 971
  have bias : (Format.binary64.exponentBias : Int) + (Format.binary64.mantissaBitsWithoutImplicit : Int) = 1075 := by decide
  have field := (unpackExponent b : BitVec Format.binary64.exponentBits).isLt
  change _ < 2048 at field
  rw [UnpackedFloat.unpack] at h
  split at h
  · split at h <;> cases h
  · rename_i special
    have below : (unpackExponent b : BitVec Format.binary64.exponentBits).toNat ≠ 2047 :=
      fun same => special (BitVec.eq_of_toNat_eq same)
    split at h
    · rename_i subnormal
      have zero := congrArg BitVec.toNat subnormal
      change _ = 0 at zero
      split at h
      · cases h
      · cases h
        have size := (Nat.log2_lt positive.ne').2
          (unpackMantissa b : BitVec Format.binary64.mantissaBitsWithoutImplicit).isLt
        change _ < 52 at size
        omega
    · rename_i normal
      cases h
      have above : (unpackExponent b : BitVec Format.binary64.exponentBits).toNat ≠ 0 :=
        fun same => normal (BitVec.eq_of_toNat_eq same)
      have size := (Nat.log2_lt positive.ne').2
        (1#1 ++ (unpackMantissa b : BitVec Format.binary64.mantissaBitsWithoutImplicit)).isLt
      have hidden : 52 ≤ Nat.log2 (1#1 ++ (unpackMantissa b : BitVec Format.binary64.mantissaBitsWithoutImplicit)).toNat := by
        rw [Nat.le_log2 positive.ne', BitVec.toNat_append]
        exact Nat.left_le_or
      change _ < 53 at size
      omega

theorem isFinite_pack (bound : e ≤ 971) :
    (UnpackedFloat.unpack .binary64 (UnpackedFloat.pack .binary64 (.finite sign m e positive))).isFinite = true := by
  rw [isFinite_unpack_iff, UnpackedFloat.pack]
  -- The field of all ones is 2047.
  have fits : (e + Format.binary64.exponentBias + Format.binary64.mantissaBitsWithoutImplicit).toNat ≤ 2046 := by
    change (e + 1023 + 52).toNat ≤ 2046
    omega
  rw [if_neg (by change ¬2048 ≤ _; omega)]
  split
  · rw [unpackExponent_packComponents]
    intro all
    have same := congrArg BitVec.toNat all
    rw [BitVec.toNat_ofNat, Nat.mod_eq_of_lt (by change _ < 2048; omega)] at same
    change _ = 2047 at same
    omega
  · rw [unpackExponent_packComponents]
    decide

theorem shiftRight_exact (m k : Nat) : ExtendedMantissa.ofMantissaAndAccuracy (m * 2 ^ k) .exact >>> k =
    ExtendedMantissa.ofMantissaAndAccuracy m .exact := by
  change k.repeat ExtendedMantissa.shiftRightOne ⟨m * 2 ^ k, false, false⟩ = ⟨m, false, false⟩
  induction k generalizing m with
  | zero => simp [Nat.repeat]
  | succ k ih =>
    rw [Nat.repeat, show m * 2 ^ (k + 1) = (2 * m) * 2 ^ k by ring, ih]
    simp [ExtendedMantissa.shiftRightOne]

theorem roundWithAccuracy_mul_pow (k : Nat) (target : Format.binary64.targetExponent (totalExponent m e) = e) :
    roundWithAccuracy .binary64 sign (m * 2 ^ k) (e - k) .exact = .finite sign m e positive := by
  -- The appended zeros leave the leading digit in its place, so rounding returns to the exponent `e` and drops them.
  have size : totalExponent (m * 2 ^ k) (e - k) = totalExponent m e := by
    have log : Nat.log2 (m * 2 ^ k) = Nat.log2 m + k := by
      rw [Nat.log2_eq_iff (by positivity), add_right_comm, pow_add, pow_add]
      exact ⟨Nat.mul_le_mul_right _ (Nat.log2_self_le positive.ne'), by gcongr; exact Nat.lt_log2_self⟩
    rw [totalExponent, totalExponent, log]
    omega
  have gained : (e - (e - k)).toNat = k := by omega
  have unmoved (x : ExtendedMantissa) : x >>> 0 = x := rfl
  have rounded : (ExtendedMantissa.ofMantissaAndAccuracy m .exact).roundedMantissa = m := rfl
  simp only [roundWithAccuracy, shiftToTargetExponent, shiftToExponent, size, target, gained, shiftRight_exact, rounded]
  simp [target, unmoved, ExtendedMantissa.ofMantissaAndAccuracy, positive.ne']

end Exact

theorem isFinite_mul_neg_one {x : Float} (finite : x.isFinite = true) : (x * -1).isFinite = true := by
  have one : (-1 : Float).toModel.unpack = .finite .negative (2 ^ 52) (-52) (by decide) := rfl
  change (UnpackedFloat.unpack .binary64 (UnpackedFloat.pack .binary64
    (UnpackedFloat.mul .binary64 x.toModel.unpack (-1 : Float).toModel.unpack))).isFinite = true
  change x.toModel.unpack.isFinite = true at finite
  rw [one]
  cases unpacked : x.toModel.unpack with
  | notANumber => simp [unpacked, UnpackedFloat.isFinite] at finite
  | infinity sign => simp [unpacked, UnpackedFloat.isFinite] at finite
  | zero sign => cases sign <;> decide
  | finite sign m e positive =>
    obtain ⟨target, bound⟩ := exponent_of_unpack unpacked
    have product : UnpackedFloat.mul .binary64 (.finite sign m e positive) (.finite .negative (2 ^ 52) (-52) (by decide)) =
        .finite (sign * .negative) m e positive := roundWithAccuracy_mul_pow 52 target
    rw [product]
    exact isFinite_pack bound

end Polyhedra.Decimal
