import Mathlib
import Polyhedra.Decimal.Written
import Polyhedra.Decimal.Reading

/-!
# Doubles that are not finite

A double is its bits, and there is one NaN only: the bits of every other one are not valid. So NaN and the infinities are
known once they are decoded, and their words read back.
-/

namespace Polyhedra.Decimal

open Float.Model Float.Model.UnpackedFloat

theorem ext_toBits {x y : Float} (h : x.toBits.toNat = y.toBits.toNat) : x = y := by
  obtain ⟨⟨b, hb⟩⟩ := x
  obtain ⟨⟨c, hc⟩⟩ := y
  have : b = c := UInt64.toNat_inj.1 h
  subst this
  rfl

theorem toNat_unpackExponent (b : BitVec 64) :
    (unpackExponent b : BitVec Format.binary64.exponentBits).toNat = b.toNat / 4503599627370496 % 2048 := by
  simp [unpackExponent, BitVec.extractLsb, Nat.shiftRight_eq_div_pow]

theorem toNat_unpackMantissa (b : BitVec 64) :
    (unpackMantissa b : BitVec Format.binary64.mantissaBitsWithoutImplicit).toNat = b.toNat % 4503599627370496 := by
  simp [unpackMantissa, BitVec.extractLsb]

/-- There is only one NaN. -/
theorem eq_quietNaN_of_decode {x : Float} (h : Binary64.decode x = .nan) : x = Binary64.quietNaN := by
  have bits : x.toBits.toNat / 4503599627370496 % 2048 = 2047 ∧ x.toBits.toNat % 4503599627370496 ≠ 0 := by
    rw [Binary64.decode] at h
    split at h
    · rename_i field
      split at h
      · cases h
      · rename_i fraction
        exact ⟨field, fraction⟩
    · split at h <;> cases h
  have exponent : (unpackExponent x.toBits.toBitVec : BitVec Format.binary64.exponentBits) = -1 := by
    apply BitVec.eq_of_toNat_eq
    rw [toNat_unpackExponent]
    exact bits.1
  have mantissa : (unpackMantissa x.toBits.toBitVec : BitVec Format.binary64.mantissaBitsWithoutImplicit) ≠ 0 := by
    intro empty
    have := congrArg BitVec.toNat empty
    rw [toNat_unpackMantissa] at this
    exact bits.2 this
  have canonical := x.toModel.valid.eq_packedNaN exponent mantissa
  apply ext_toBits
  exact (congrArg BitVec.toNat canonical).trans (by decide)

theorem eq_infinity_of_decode {x : Float} {negative : Bool} (h : Binary64.decode x = .infinite negative) :
    x = Binary64.infinity negative := by
  apply ext_toBits
  have size := x.toBits.toNat_lt
  rw [Binary64.decode] at h
  split at h
  · rename_i field
    split at h
    · rename_i fraction
      have same := Binary64.infinite.inj h
      cases negative with
      | false =>
        have sign := of_decide_eq_false same
        have value : (Binary64.infinity false).toBits.toNat = 0x7FF0000000000000 := by decide
        rw [value]
        simp only [Binary64.hiddenBit] at sign field fraction
        omega
      | true =>
        have sign := of_decide_eq_true same
        have value : (Binary64.infinity true).toBits.toNat = 0xFFF0000000000000 := by decide
        rw [value]
        simp only [Binary64.hiddenBit] at sign field fraction
        omega
    · cases h
  · split at h <;> cases h

/-- A double that is not finite reads back. -/
theorem float?_shortestText_of_special {x : Float} (special : ∀ negative m e, Binary64.decode x ≠ .finite negative m e) :
    float? (shortestText x).toList = some x := by
  cases decoded : Binary64.decode x with
  | nan =>
    rw [eq_quietNaN_of_decode decoded]
    decide
  | infinite negative =>
    rw [eq_infinity_of_decode decoded]
    cases negative <;> decide
  | finite negative m e => exact absurd decoded (special negative m e)

end Polyhedra.Decimal
