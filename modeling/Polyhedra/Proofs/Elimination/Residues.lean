import Mathlib
import Polyhedra.Proofs.Elimination.Recurrence
import Polyhedra.Proofs.Elimination.Triangular
import Polyhedra.Proofs.Extended.Rounding

/-!
# Columns cleared in rounded arithmetic

An entry beneath a pivot is cleared by taking from it the pivot times their quotient. Quotient, product and difference
are each rounded, so the entry need not become zero: it does so exactly if the product comes out as the entry again.
What is left otherwise is of the size of the entry's last digit.
-/

namespace Polyhedra

/-- What is left of `x` when it is cleared by a pivot: it loses the pivot times their quotient, in arithmetic of so many
binary digits. -/
structure Residue (bits : Nat) (x pivot multiple rest : Rat) : Prop where
  quotient : RoundsTo bits (x / pivot) multiple
  difference : ∃ product, RoundsTo bits (multiple * pivot) product ∧ RoundsTo bits (x - product) rest

namespace Residue

variable {bits : Nat} {x pivot multiple rest : Rat}

theorem zero (bits : Nat) (pivot : Rat) : Residue bits 0 pivot 0 0 where
  quotient := by
    rw [zero_div]
    exact roundsTo_zero bits
  difference := by
    refine ⟨0, ?_, ?_⟩
    · rw [zero_mul]
      exact roundsTo_zero bits
    · rw [sub_zero]
      exact roundsTo_zero bits

theorem eq_zero_iff (h : Residue bits x pivot multiple rest) (positive : 0 < bits) :
    rest = 0 ↔ RoundsTo bits (multiple * pivot) x := by
  obtain ⟨_, product, back, rests⟩ := h
  rw [rests.eq_zero_iff positive, sub_eq_zero]
  exact ⟨fun same => same ▸ back, fun same => same.unique back⟩

/-- Nothing is left where the multiple is the quotient itself. -/
theorem eq_zero_of_exact (h : Residue bits x pivot multiple rest) (positive : 0 < bits) (digits : HasDigits bits x)
    (exact_quotient : multiple * pivot = x) : rest = 0 := by
  rw [h.eq_zero_iff positive, exact_quotient]
  exact digits.roundsTo

/-- Each of the three roundings loses at most half a unit in the last place, the last one of what the others left. -/
theorem abs_le (h : Residue bits x pivot multiple rest) (two_le : 2 ≤ bits) (nonzero : pivot ≠ 0) :
    |rest| ≤ 3 / 2 ^ bits * |x| := by
  obtain ⟨quotient, product, back, rests⟩ := h
  have small : (1 : Rat) / 2 ^ bits ≤ 1 / 4 := by
    have : (4 : Rat) ≤ 2 ^ bits := by exact_mod_cast Nat.pow_le_pow_right two_pos two_le
    gcongr
  have unit_pos : (0 : Rat) < 1 / 2 ^ bits := by positivity
  have quotient := quotient.abs_sub_le
  have back := back.abs_sub_le
  have rests := rests.abs_sub_le
  rw [show (3 : Rat) / 2 ^ bits = 3 * (1 / 2 ^ bits) by ring]
  generalize (1 : Rat) / 2 ^ bits = u at small unit_pos quotient back rests ⊢
  have returned : |multiple * pivot - x| ≤ u * |x| := by
    calc |multiple * pivot - x| = |multiple - x / pivot| * |pivot| := by
          rw [← abs_mul, sub_mul, div_mul_cancel₀ _ nonzero]
      _ ≤ u * |x / pivot| * |pivot| := by gcongr
      _ = u * |x| := by rw [mul_assoc, ← abs_mul, div_mul_cancel₀ _ nonzero]
  have size : |multiple * pivot| ≤ (1 + u) * |x| := by
    linarith [abs_sub_abs_le_abs_sub (multiple * pivot) x]
  have apart : |x - product| ≤ (2 * u + u * u) * |x| := by
    calc |x - product| ≤ |x - multiple * pivot| + |multiple * pivot - product| := abs_sub_le x _ product
      _ ≤ u * |x| + u * ((1 + u) * |x|) := by
        rw [abs_sub_comm x, abs_sub_comm _ product]
        gcongr
        exact back.trans (by gcongr)
      _ = (2 * u + u * u) * |x| := by ring
  calc |rest| ≤ (1 + u) * |x - product| := by linarith [abs_sub_abs_le_abs_sub rest (x - product)]
    _ ≤ (1 + u) * ((2 * u + u * u) * |x|) := by gcongr
    _ = u * (2 + u * (3 + u)) * |x| := by ring
    _ ≤ u * (2 + 1 / 4 * (3 + 1 / 4)) * |x| := by gcongr
    _ ≤ 3 * u * |x| := by
      rw [mul_comm 3 u]
      gcongr
      norm_num

end Residue

/-- Zero is never a pivot, whatever else counts as zero. -/
theorem Extended.rational_ne_zero {bits : Nat} {tolerance x : Extended bits} (nonneg : Scalar.le 0 tolerance = true)
    (hx : x.IsFinite) (large : Scalar.isNegligible tolerance x = false) : x.rational ≠ 0 := by
  obtain ⟨m, e, rfl⟩ := hx
  rw [Ne, rational_eq_zero_iff]
  rintro rfl
  have negligible : Scalar.isNegligible tolerance (finite 0 e) = true := nonneg
  rw [negligible] at large
  cases large

namespace Factors.Recurs

open Extended

variable {bits r c : Nat} {tolerance : Extended bits} {f : Factors (Extended bits) r c} {g : Grid (Extended bits) r c}
  (h : f.Recurs g tolerance (min r c)) (positive : 0 < bits) (nonneg : Scalar.le 0 tolerance = true)
  (proper : ∀ i j, (g.entry i j).IsProper)

include h positive nonneg proper

/-- Nothing overflows, and every number is rounded to the digits there are. -/
theorem isProper_remaining {k : Nat} (inside : k ≤ min r c) {i : Fin r} (hi : k ≤ i) (j : Fin c) :
    (f.remaining g i k j).IsProper := by
  -- Multiples and pivot rows are themselves what was left some columns earlier.
  induction k using Nat.strong_induction_on generalizing i j with
  | _ k ih =>
    cases k with
    | zero =>
      rw [remaining]
      exact proper _ j
    | succ k =>
      obtain ⟨p, rfl⟩ : ∃ p : Fin (min r c), (p : Nat) = k := ⟨⟨k, inside⟩, rfl⟩
      have before (j : Fin c) : (f.remaining g i p j).IsProper := ih p p.val.lt_succ_self p.isLt.le (by omega) j
      have row (j : Fin c) : (f.upper.entry (Grid.diagonal p).1 j).IsProper := by
        have row_val : ((Grid.diagonal p).1 : Nat) = p := rfl
        rw [h.upper]
        exact ih _ (by omega) (by omega) (by omega) j
      rw [remaining_succ]
      split
      · exact before j
      · rename_i nonzero
        have pivot := rational_ne_zero nonneg (row (Grid.diagonal p).2).finite (h.pivots p p.isLt)
        have multiple := (before (Grid.diagonal p).2).div positive (row (Grid.diagonal p).2) pivot
        rw [h.lower i p p.isLt hi, if_neg nonzero]
        exact (before j).sub positive (multiple.mul positive (row j))

theorem isProper_upper (i : Fin r) (j : Fin c) : (f.upper.entry i j).IsProper := by
  rw [h.upper]
  exact h.isProper_remaining positive nonneg proper (by omega) (by omega) j

theorem pivot_ne_zero (p : Fin (min r c)) :
    (f.upper.entry (Grid.diagonal p).1 (Grid.diagonal p).2).rational ≠ 0 :=
  rational_ne_zero nonneg (h.isProper_upper positive nonneg proper _ _).finite (h.pivots p p.isLt)

/-- Beneath its pivot an entry is what clearing leaves of it. -/
theorem residue (p : Fin (min r c)) {i : Fin r} (hi : (p : Nat) < i) :
    Residue bits (f.remaining g i p (Grid.diagonal p).2).rational
      (f.upper.entry (Grid.diagonal p).1 (Grid.diagonal p).2).rational (f.lower.entry i (Grid.diagonal p).1).rational
      (f.upper.entry i (Grid.diagonal p).2).rational := by
  have entry := h.isProper_remaining positive nonneg proper p.isLt.le hi.le (Grid.diagonal p).2
  have pivot := h.isProper_upper positive nonneg proper (Grid.diagonal p).1 (Grid.diagonal p).2
  have pivot_ne := h.pivot_ne_zero positive nonneg proper p
  have col_val : ((Grid.diagonal p).2 : Nat) = p := rfl
  rw [h.upper i, show min (min r c) (min (i : Nat) ((Grid.diagonal p).2 + 1)) = p + 1 by omega, remaining_succ,
    h.lower i p p.isLt hi]
  cases zero : Scalar.eq (f.remaining g i p (Grid.diagonal p).2) 0 with
  | true =>
    rw [if_pos rfl, if_pos rfl, rational_zero, entry.finite.eq_zero_iff.1 zero]
    exact .zero bits _
  | false =>
    rw [if_neg Bool.false_ne_true, if_neg Bool.false_ne_true]
    have multiple := entry.div positive pivot pivot_ne
    have product := multiple.mul positive pivot
    exact ⟨roundsTo_div entry.finite pivot.finite pivot_ne, _, roundsTo_mul multiple.finite pivot.finite,
      roundsTo_sub entry.finite product.finite⟩

end Factors.Recurs

namespace DenseMatrix

open Extended

/-- Over numbers of 53 binary digits, triangular form is the upper factor of a run without exchanges, and what stands in
an upper factor beneath a pivot is what clearing leaves of an entry: of the matrix's own in the row that came there, less
the multiples of the rows above. It is zero exactly if the multiple recorded for it, times the pivot, rounds to the entry,
which it does if the quotient is exact, and it never is more than three parts in `2 ^ 53` of the entry. -/
theorem clearing_leaves_residues {tolerance : Extended 53} (nonneg : Scalar.le 0 tolerance = true)
    {a : DenseMatrix (Extended 53)} (proper : ∀ i j, (a.entries.entry i j).IsProper) :
    (∀ t, a.upperTriangular? tolerance = .ok t ↔
      ∃ f, a.factor? tolerance = .ok f ∧ f.swaps = 0 ∧ t = ⟨a.rows, a.cols, f.upper⟩) ∧
    ∀ f, a.factor? tolerance = .ok f → ∀ (i d : Fin a.rows) (j : Fin a.cols), (d : Nat) = j → d < i →
      let entry := (f.remaining a.entries i j j).rational
      let pivot := (f.upper.entry d j).rational
      let multiple := (f.lower.entry i d).rational
      let rest := (f.upper.entry i j).rational
      (f.upper.entry i j).IsProper ∧ Residue 53 entry pivot multiple rest ∧
        (rest = 0 ↔ RoundsTo 53 (multiple * pivot) entry) ∧ (multiple * pivot = entry → rest = 0) ∧
        |rest| ≤ 3 / 2 ^ 53 * |entry| := by
  refine ⟨fun t => upperTriangular?_eq_ok_iff, ?_⟩
  intro f run i d j hd hi entry pivot multiple rest
  have recurs := Factors.recurs_factor (factor?_eq_ok_iff.1 run)
  obtain ⟨p, rfl, rfl⟩ : ∃ p : Fin (min a.rows a.cols), d = (Grid.diagonal p).1 ∧ j = (Grid.diagonal p).2 :=
    ⟨⟨j, by omega⟩, Fin.ext hd, rfl⟩
  have positive : 0 < 53 := by decide
  have residue := recurs.residue positive nonneg proper p hi
  have digits := (recurs.isProper_remaining positive nonneg proper p.isLt.le (le_of_lt hi) (Grid.diagonal p).2).digits
  exact ⟨recurs.isProper_upper positive nonneg proper i _, residue, residue.eq_zero_iff positive,
    residue.eq_zero_of_exact positive digits, residue.abs_le (by decide) (recurs.pivot_ne_zero positive nonneg proper p)⟩

/-- A column in which seven has to clear twenty-nine, and the rounded seventh times seven is more than that. -/
def sevenths : Grid (Extended 53) 2 2 :=
  .ofLists 0 [[finite 7 0, finite 1 0], [finite 29 0, finite 1 0]]

theorem isProper_sevenths (i j : Fin 2) : (sevenths.entry i j).IsProper := by
  fin_cases i <;> fin_cases j <;> exact isProper_finite 0 (by decide)

/-- What becomes of it: beneath the seven remains a unit that is forty-eight places behind the point. -/
def clearedSevenths : Grid (Extended 53) 2 2 :=
  .ofLists 0 [[finite 7 0, finite 1 0], [finite (-1) (-48), finite (-3538542564362533) (-50)]]

theorem upperTriangular?_sevenths : upperTriangular? 0 ⟨2, 2, sevenths⟩ = .ok ⟨2, 2, clearedSevenths⟩ := by
  have run : sevenths.upperTriangular 0 = .ok clearedSevenths := by decide +kernel
  rw [upperTriangular?, run, ofReduction]

theorem rest_of_sevenths : (clearedSevenths.entry 1 0).rational ≠ 0 := by
  have rest : clearedSevenths.entry 1 0 = finite (-1) (-48) := by decide +kernel
  rw [rest, Ne, rational_eq_zero_iff]
  decide

theorem residues_of_sevenths : Scalar.le 0 (0 : Extended 53) = true ∧
    (∀ i j, (sevenths.entry i j).IsProper) ∧
    ∃ f, factor? 0 ⟨2, 2, sevenths⟩ = .ok f ∧ (f.upper.entry 1 0).rational ≠ 0 ∧
      |(f.upper.entry 1 0).rational| ≤ 3 / 2 ^ 53 * |(f.remaining sevenths 1 0 0).rational| := by
  have nonneg : Scalar.le 0 (0 : Extended 53) = true := by decide +kernel
  obtain ⟨triangular, residues⟩ := clearing_leaves_residues nonneg (a := ⟨2, 2, sevenths⟩) isProper_sevenths
  obtain ⟨f, run, _, same⟩ := (triangular _).1 upperTriangular?_sevenths
  obtain ⟨_, _, _, _, bound⟩ := residues f run 1 0 0 rfl Nat.zero_lt_one
  have upper : clearedSevenths = f.upper := by simpa using same
  exact ⟨nonneg, isProper_sevenths, f, run, upper ▸ rest_of_sevenths, bound⟩

/-- So neither triangular form nor an upper factor need be zero beneath the diagonal. -/
theorem clearing_leaves_more_than_zero :
    (¬∀ (tolerance : Extended 53) (a t : DenseMatrix (Extended 53)), Scalar.le 0 tolerance = true →
      (∀ i j, (a.entries.entry i j).IsProper) → a.upperTriangular? tolerance = .ok t →
        ∀ (i : Fin t.rows) (j : Fin t.cols), (j : Nat) < i → (t.entries.entry i j).rational = 0) ∧
    ¬∀ (tolerance : Extended 53) (a : DenseMatrix (Extended 53)) (f : Factors (Extended 53) a.rows a.cols),
      Scalar.le 0 tolerance = true → (∀ i j, (a.entries.entry i j).IsProper) → a.factor? tolerance = .ok f →
        ∀ (i : Fin a.rows) (j : Fin a.cols), (j : Nat) < i → (f.upper.entry i j).rational = 0 := by
  have nonneg : Scalar.le 0 (0 : Extended 53) = true := by decide +kernel
  constructor
  · intro claim
    have zero := claim 0 ⟨2, 2, sevenths⟩ _ nonneg isProper_sevenths upperTriangular?_sevenths 1 0 Nat.zero_lt_one
    exact rest_of_sevenths zero
  · intro claim
    obtain ⟨f, run, _, same⟩ := upperTriangular?_eq_ok_iff.1 upperTriangular?_sevenths
    have zero := claim 0 ⟨2, 2, sevenths⟩ f nonneg isProper_sevenths run 1 0 Nat.zero_lt_one
    have upper : clearedSevenths = f.upper := by simpa using same
    rw [← upper] at zero
    exact rest_of_sevenths zero

end DenseMatrix

end Polyhedra
