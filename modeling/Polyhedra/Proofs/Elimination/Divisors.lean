import Mathlib
import Polyhedra.Elimination.Solution
import Polyhedra.Proofs.Decimal.Comparison

/-!
# What elimination divides by

Over rounded numbers nothing can be said about the quotients, but a divisor is never zero: a pivot has just been
compared with the tolerance, and a pivot that was divided by itself stays away from zero too, since the quotient is
one or, for an infinite pivot, NaN.
-/

namespace Polyhedra

namespace System

variable {α : Type} [Scalar α] {n k : Nat}

/-- Everything that the downward run divides by, column after column: the pivot, when its row is made to start with one,
and what stands in its place then, when the rows below are cleared. -/
def divisors (tolerance : α) : List (Fin n) → System α n n k → List α
  | [], _ => []
  | p :: rest, s =>
    match s.pivot tolerance p with
    | .error _ => []
    | .ok t =>
      t.left.entry p p :: (t.normalize p p).left.entry p p :: divisors tolerance rest ((t.normalize p p).clearBelow p p)

end System

/-- Everything that inverting a square grid divides by. Clearing above the diagonal divides by nothing. -/
def Grid.divisors {α : Type} [Scalar α] {n : Nat} (tolerance : α) (g : Grid α n n) : List α :=
  System.divisors tolerance (List.finRange n) ⟨g, (.identity : Grid α n n)⟩

namespace Scalar

variable {α : Type} [Scalar α]

/-- A tolerance that keeps zero from serving as a pivot, over numbers whose quotient by themselves is not zero. -/
structure BarsZero (tolerance : α) : Prop where
  negligible : ∀ x : α, eq x 0 = true → isNegligible tolerance x = true
  notSizeable : ∀ x : α, eq x 0 = true → isSizeable tolerance x = false
  div_self : ∀ x : α, eq x 0 = false → eq (x / x) 0 = false

end Scalar

namespace System

variable {α : Type} [Scalar α] {n k : Nat} {tolerance : α} {s t : System α n n k} {p : Fin n}

/-- A pivot that was found is not zero. -/
theorem eq_zero_of_pivot (bars : Scalar.BarsZero tolerance) (found : s.pivot tolerance p = .ok t) :
    Scalar.eq (t.left.entry p p) 0 = false := by
  rw [pivot] at found
  rw [← Bool.not_eq_true]
  intro zero
  split at found
  · split at found
    · rename_i i chosen
      cases found
      have sizeable := List.find?_some chosen
      rw [Bool.and_eq_true] at sizeable
      rw [swapRows, Grid.entry_swapRows, if_pos rfl] at zero
      rw [bars.notSizeable _ zero] at sizeable
      cases sizeable.2
    · cases found
  · rename_i large
    cases found
    exact large (bars.negligible _ zero)

theorem eq_zero_of_normalize (bars : Scalar.BarsZero tolerance) (nonzero : Scalar.eq (s.left.entry p p) 0 = false) :
    Scalar.eq ((s.normalize p p).left.entry p p) 0 = false := by
  rw [normalize]
  split
  · exact nonzero
  · rw [Grid.entry_divideRow, if_pos ⟨rfl, le_rfl⟩]
    exact bars.div_self _ nonzero

theorem eq_zero_of_mem_divisors (bars : Scalar.BarsZero tolerance) {x : α} {columns : List (Fin n)}
    (mem : x ∈ divisors tolerance columns s) : Scalar.eq x 0 = false := by
  induction columns generalizing s with
  | nil => cases mem
  | cons p rest ih =>
    rw [divisors] at mem
    cases found : s.pivot tolerance p with
    | error column =>
      rw [found] at mem
      cases mem
    | ok t =>
      rw [found] at mem
      have nonzero := eq_zero_of_pivot bars found
      rcases List.mem_cons.1 mem with rfl | mem
      · exact nonzero
      · rcases List.mem_cons.1 mem with rfl | mem
        · exact eq_zero_of_normalize bars nonzero
        · exact ih mem

end System

theorem Grid.eq_zero_of_mem_divisors {α : Type} [Scalar α] {n : Nat} {tolerance : α} (bars : Scalar.BarsZero tolerance)
    {g : Grid α n n} {x : α} (mem : x ∈ g.divisors tolerance) : Scalar.eq x 0 = false :=
  System.eq_zero_of_mem_divisors bars mem

/-! ### Doubles -/

namespace Scalar

open Float.Model Float.Model.UnpackedFloat

theorem unpack_of_eq_zero {x : Float} (zero : eq x 0 = true) : ∃ sign, x.toModel.unpack = .zero sign := by
  change (x.toModel.unpack.compare (0.0 : Float).toModel.unpack == some .eq) = true at zero
  rw [show (0.0 : Float).toModel.unpack = .zero .positive from rfl] at zero
  cases unpacked : x.toModel.unpack with
  | zero sign => exact ⟨sign, rfl⟩
  | notANumber =>
    rw [unpacked] at zero
    cases zero
  | infinity sign =>
    rw [unpacked] at zero
    cases sign <;> cases zero
  | finite sign mantissa exponent positive =>
    rw [unpacked] at zero
    cases sign <;> cases zero

theorem abs_of_eq_zero {x : Float} (zero : eq x 0 = true) : abs x = 0 := by
  obtain ⟨sign, unpacked⟩ := unpack_of_eq_zero zero
  change Float.ofModel (pack x.toModel.unpack.abs) = 0.0
  rw [unpacked]
  rfl

theorem not_lt_zero {x : Float} (nonneg : (0.0 : Float) ≤ x) : lt x 0 = false :=
  lt_eq_false_iff.2 (.inr (.inr nonneg))

/-- A finite number divided by itself is exactly one. -/
theorem div_self_finite (sign : Sign) (mantissa : Nat) (exponent : Int) (positive : 0 < mantissa) :
    UnpackedFloat.div .binary64 (.finite sign mantissa exponent positive) (.finite sign mantissa exponent positive) =
      .finite .positive (2 ^ 52) (-52) (by decide) := by
  -- The exponents cancel, so that the numerator is shifted by the same 53 bits for every number.
  have target : min (exponent - exponent)
      (Format.binary64.targetExponent (totalExponent mantissa exponent - totalExponent mantissa exponent)) = -53 := by
    rw [Int.sub_self, Int.sub_self]
    decide
  have shift : (exponent - exponent - -53).toNat = 53 := by omega
  have quotient : divCore .binary64 mantissa exponent mantissa exponent = (2 ^ 53, -53, .exact) := by
    rw [divCore, target, shift, Nat.shiftLeft_eq, Nat.mul_div_cancel_left _ positive, Nat.mul_mod_right]
    rfl
  rw [UnpackedFloat.div, quotient]
  cases sign <;> rfl

theorem div_self_ne_zero {x : Float} (nonzero : eq x 0 = false) : eq (x / x) 0 = false := by
  change ((Float.Model.pack (UnpackedFloat.div .binary64 x.toModel.unpack x.toModel.unpack)).unpack.compare
    (0.0 : Float).toModel.unpack == some .eq) = false
  cases unpacked : x.toModel.unpack with
  | zero sign =>
    change (x.toModel.unpack.compare (0.0 : Float).toModel.unpack == some .eq) = false at nonzero
    rw [unpacked] at nonzero
    cases nonzero
  | notANumber => rfl
  | infinity sign => cases sign <;> rfl
  | finite sign mantissa exponent positive =>
    rw [div_self_finite]
    decide

/-- A tolerance for doubles that is zero or more keeps zero from serving as a pivot. -/
theorem barsZero_of_nonneg {tolerance : Float} (nonneg : (0.0 : Float) ≤ tolerance) : BarsZero tolerance where
  negligible x zero := by
    rw [isNegligible, abs_of_eq_zero zero]
    exact decide_eq_true nonneg
  notSizeable x zero := by
    rw [isSizeable, abs_of_eq_zero zero]
    exact not_lt_zero nonneg
  div_self _ := div_self_ne_zero

end Scalar

end Polyhedra
