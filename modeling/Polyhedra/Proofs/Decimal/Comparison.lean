import Mathlib
import Polyhedra.Proofs.Decimal.Finite
import Polyhedra.Scalar

/-!
# Comparing doubles

Two doubles are not comparable exactly if one of them is NaN, and exchanging them turns the answer round. So a number
that is not less than another is at least as great, or one of the two is NaN. Turning the sign makes no NaN and removes
none.
-/

namespace Polyhedra

namespace Decimal

open Float.Model Float.Model.UnpackedFloat

variable {x y : Float}

theorem map_swap_compare (x y : UnpackedFloat) : (x.compare y).map Ordering.swap = y.compare x := by
  -- Finite numbers of one sign alone are compared by more than their kind and sign.
  have finite (m m' : Nat) (e e' : Int) :
      ((compare e e').then (compare m m')).swap = (compare e' e).then (compare m' m) := by
    rw [Ordering.swap_then, ← Std.OrientedCmp.eq_swap, ← Std.OrientedCmp.eq_swap]
  rcases x with (_ | _) | _ | _ | ⟨_ | _, m, e, _⟩ <;> rcases y with (_ | _) | _ | _ | ⟨_ | _, m', e', _⟩ <;>
    first | rfl | simp [UnpackedFloat.compare, finite]

theorem compare_eq_none_iff (x y : UnpackedFloat) : x.compare y = none ↔ x.isNaN = true ∨ y.isNaN = true := by
  rcases x with (_ | _) | _ | _ | ⟨_ | _, m, e, _⟩ <;> rcases y with (_ | _) | _ | _ | ⟨_ | _, m', e', _⟩ <;>
    simp [UnpackedFloat.compare, UnpackedFloat.isNaN]

theorem lt_iff : x < y ↔ x.toModel.unpack.compare y.toModel.unpack = some .lt := by
  change decide ((x.toModel.unpack.compare y.toModel.unpack == some .lt) = true) = true ↔ _
  rw [decide_eq_true_iff, beq_iff_eq]

theorem le_iff : x ≤ y ↔ (x.toModel.unpack.compare y.toModel.unpack).any (·.isLE) = true := by
  change decide ((x.toModel.unpack.compare y.toModel.unpack).any (·.isLE) = true) = true ↔ _
  rw [decide_eq_true_iff]

theorem not_lt_iff : ¬x < y ↔ x.isNaN = true ∨ y.isNaN = true ∨ y ≤ x := by
  rw [lt_iff, le_iff, ← map_swap_compare x.toModel.unpack, ← or_assoc]
  change _ ↔ (x.toModel.unpack.isNaN = true ∨ y.toModel.unpack.isNaN = true) ∨ _
  rw [← compare_eq_none_iff]
  cases x.toModel.unpack.compare y.toModel.unpack with
  | none => simp
  | some order => cases order <;> decide

theorem not_isNaN_of_le (h : x ≤ y) : x.isNaN = false ∧ y.isNaN = false := by
  have comparable : ¬(x.isNaN = true ∨ y.isNaN = true) := by
    change ¬(x.toModel.unpack.isNaN = true ∨ y.toModel.unpack.isNaN = true)
    rw [← compare_eq_none_iff]
    intro incomparable
    rw [le_iff, incomparable] at h
    cases h
  rwa [not_or, Bool.not_eq_true, Bool.not_eq_true] at comparable

theorem isNaN_neg (x : Float) : (-x).isNaN = x.isNaN := by
  change (UnpackedFloat.unpack .binary64 (UnpackedFloat.pack .binary64 x.toModel.unpack.neg)).isNaN =
    x.toModel.unpack.isNaN
  cases unpacked : x.toModel.unpack with
  | notANumber => rfl
  | infinity sign => cases sign <;> rfl
  | zero sign => cases sign <;> rfl
  | finite sign m e positive =>
    have finite : (UnpackedFloat.unpack .binary64
        (UnpackedFloat.pack .binary64 (.finite (-sign) m e positive))).isFinite = true :=
      isFinite_pack (exponent_of_unpack unpacked).2
    rw [UnpackedFloat.neg]
    generalize UnpackedFloat.unpack .binary64 _ = packed at finite ⊢
    cases packed <;> first | rfl | cases finite

end Decimal

theorem Scalar.lt_eq_false_iff {x y : Float} : Scalar.lt x y = false ↔ x.isNaN = true ∨ y.isNaN = true ∨ y ≤ x :=
  decide_eq_false_iff_not.trans Decimal.not_lt_iff

end Polyhedra
