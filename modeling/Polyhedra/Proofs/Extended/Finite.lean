import Mathlib
import Polyhedra.Proofs.Decimal.Finite
import Polyhedra.Proofs.Elimination.Scaled
import Polyhedra.Verification.Digits

/-!
# Finite extended numbers

No exponent is too large to be held, so finite numbers give finite numbers, unless zero divides. As elimination never
divides by zero, its solutions of finite systems are finite.
-/

namespace Polyhedra

namespace Extended

variable {bits : Nat} {x y : Extended bits}

def IsFinite (x : Extended bits) : Prop :=
  ∃ m e, x = finite m e

theorem IsFinite.ne_nan (h : x.IsFinite) : x ≠ nan := by
  obtain ⟨m, e, rfl⟩ := h
  simp

theorem isFinite_rounded (m e : Int) : (rounded m e : Extended bits).IsFinite := by
  simp only [rounded]
  split_ifs <;> exact ⟨_, _, rfl⟩

theorem isFinite_zero : (0 : Extended bits).IsFinite :=
  ⟨0, 0, rfl⟩

theorem isFinite_one : (1 : Extended bits).IsFinite :=
  ⟨1, 0, rfl⟩

theorem IsFinite.add (hx : x.IsFinite) (hy : y.IsFinite) : (x + y).IsFinite := by
  obtain ⟨m, e, rfl⟩ := hx
  obtain ⟨m', e', rfl⟩ := hy
  change (Extended.add (finite m e) (finite m' e')).IsFinite
  simp only [Extended.add]
  split
  · exact isFinite_rounded _ _
  · split <;> exact isFinite_rounded _ _

theorem IsFinite.sub (hx : x.IsFinite) (hy : y.IsFinite) : (x - y).IsFinite := by
  obtain ⟨m, e, rfl⟩ := hy
  exact hx.add ⟨-m, e, rfl⟩

theorem IsFinite.mul (hx : x.IsFinite) (hy : y.IsFinite) : (x * y).IsFinite := by
  obtain ⟨m, e, rfl⟩ := hx
  obtain ⟨m', e', rfl⟩ := hy
  exact isFinite_rounded _ _

theorem eq_finite_zero (m e : Int) : Scalar.eq (finite m e : Extended bits) 0 = decide (m = 0) := by
  change compareFinite _ m e 0 0 = _
  rw [compareFinite, if_pos (.inr (.inl rfl))]
  rfl

theorem IsFinite.div (hx : x.IsFinite) (hy : y.IsFinite) (nonzero : Scalar.eq y 0 = false) : (x / y).IsFinite := by
  obtain ⟨m, e, rfl⟩ := hx
  obtain ⟨m', e', rfl⟩ := hy
  rw [eq_finite_zero] at nonzero
  change (Extended.div (finite m e) (finite m' e')).IsFinite
  rw [Extended.div, if_neg (of_decide_eq_false nonzero)]
  split
  · exact ⟨_, _, rfl⟩
  · split
    · exact isFinite_rounded _ _
    · exact ⟨_, _, rfl⟩

theorem IsFinite.recast {bits' : Nat} (hx : x.IsFinite) : (x.recast : Extended bits').IsFinite := by
  obtain ⟨m, e, rfl⟩ := hx
  exact ⟨m, e, rfl⟩

theorem IsFinite.abs (hx : x.IsFinite) : (Scalar.abs x).IsFinite := by
  obtain ⟨m, e, rfl⟩ := hx
  exact isFinite_rounded _ _

theorem isFinite_ofFloat {x : Float} (finite : x.isFinite = true) : (ofFloat x : Extended bits).IsFinite := by
  obtain ⟨negative, m, e, decoded⟩ := Decimal.isFinite_iff.1 finite
  simp only [ofFloat, threshold, decoded]
  by_cases zero : m = 0
  · rw [if_pos zero]
    exact isFinite_rounded _ _
  · rw [if_neg zero]
    exact isFinite_rounded _ _

theorem isFinite_sum {l : List (Extended bits)} (h : ∀ x ∈ l, x.IsFinite) : (Scalar.sum l).IsFinite :=
  List.foldlRecOn l _ isFinite_zero fun _ total x mem => total.add (h x mem)

end Extended

/-- A solver that finds only numbers in systems of numbers. -/
def LinearSolver.KeepsFinite {bits : Nat} (solve : LinearSolver (Extended bits)) : Prop :=
  ∀ (k : Nat) (g : Grid (Extended bits) k k) (b x : Vector (Extended bits) k),
    (∀ i j, (g.entry i j).IsFinite) → (∀ i, (b.get i).IsFinite) → solve k g b = some x → ∀ i, (x.get i).IsFinite

namespace Verification

open Extended

theorem keeps_digitSolver (bits : Nat) : (digitSolver bits fun x y => .ok (x / y)).Keeps IsFinite where
  zero := isFinite_zero
  sub := IsFinite.sub
  mul := IsFinite.mul
  quotient hx hy nonzero quotient := by
    obtain rfl := Except.ok.inj quotient
    exact hx.div hy nonzero

theorem keepsFinite_guardedSolver (bits : Nat) : (guardedSolver bits).KeepsFinite := by
  intro k g b x hg hb run i
  rw [guardedSolver, Option.map_eq_some_iff] at run
  obtain ⟨y, found, rfl⟩ := run
  rw [Vector.get_map]
  cases solved : (digitSolver (bits + 10) fun x y => .ok (x / y)).solve (g.map recast) (b.map recast) with
  | error e =>
    rw [solved] at found
    cases found
  | ok z =>
    rw [solved] at found
    obtain rfl : z = y := Option.some.inj found
    apply IsFinite.recast
    apply ScaledSolver.solve_keeps (keeps_digitSolver _) ?_ ?_ solved
    · intro a j
      rw [Grid.entry_map]
      exact (hg a j).recast
    · intro a
      rw [Vector.get_map]
      exact (hb a).recast

end Verification

end Polyhedra
