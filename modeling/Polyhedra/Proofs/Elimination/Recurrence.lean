import Mathlib
import Polyhedra.Proofs.Elimination.Factors

/-!
# Factors as a recurrence

The factors that a run returns satisfy a recurrence, over any scalars. An entry of the upper factor is that of the grid in
the row that came to its place, less the recorded multiples of the rows above, which are taken off one after another; and
a recorded multiple is what was left of an entry by the turn of its column, over the pivot. Exchanges show in the order of
the rows only, since a row takes its multiples along.
-/

namespace Polyhedra

variable {α : Type} [Scalar α] {r c : Nat} {tolerance : α}

namespace Factors

/-- What is left of an entry when the first columns have been cleared. A column whose entry in the row is zero when its
turn comes takes nothing. -/
def remaining (f : Factors α r c) (g : Grid α r c) (i : Fin r) : Nat → Fin c → α
  | 0, j => g.entry (f.order.get i) j
  | k + 1, j =>
    if inside : k < min r c then
      let (row, col) := Grid.diagonal ⟨k, inside⟩
      if Scalar.eq (f.remaining g i k col) 0 then f.remaining g i k j
      else f.remaining g i k j - f.lower.entry i row * f.upper.entry row j
    else f.remaining g i k j

variable {f t : Factors α r c} {g : Grid α r c}

theorem remaining_succ (f : Factors α r c) (g : Grid α r c) (i : Fin r) (p : Fin (min r c)) (j : Fin c) :
    f.remaining g i (p + 1) j =
      if Scalar.eq (f.remaining g i p (Grid.diagonal p).2) 0 then f.remaining g i p j
      else f.remaining g i p j - f.lower.entry i (Grid.diagonal p).1 * f.upper.entry (Grid.diagonal p).1 j := by
  rw [remaining, dif_pos p.isLt]

/-- What is left depends on the first columns of the multiples and on the rows that belong to them. -/
theorem remaining_congr {i i' : Fin r} {k : Nat} (order : f.order.get i = t.order.get i')
    (lower : ∀ p : Fin (min r c), p < k → f.lower.entry i (Grid.diagonal p).1 = t.lower.entry i' (Grid.diagonal p).1)
    (upper : ∀ p : Fin (min r c), p < k → ∀ j, f.upper.entry (Grid.diagonal p).1 j = t.upper.entry (Grid.diagonal p).1 j)
    (j : Fin c) : f.remaining g i k j = t.remaining g i' k j := by
  induction k generalizing j with
  | zero => rw [remaining, remaining, order]
  | succ k ih =>
    have before := ih (fun p hp => lower p (hp.trans k.lt_succ_self)) fun p hp => upper p (hp.trans k.lt_succ_self)
    rw [remaining, remaining]
    split
    · rename_i inside
      dsimp only
      rw [before, before, lower ⟨k, inside⟩ k.lt_succ_self, upper ⟨k, inside⟩ k.lt_succ_self]
    · exact before j

/-- As far as some columns are cleared, the factors satisfy the recurrence, and no pivot is negligible. -/
structure Recurs (f : Factors α r c) (g : Grid α r c) (tolerance : α) (done : Nat) : Prop where
  upper : ∀ (i : Fin r) (j : Fin c), f.upper.entry i j = f.remaining g i (min done (min i (j + 1))) j
  lower : ∀ (i : Fin r) (p : Fin (min r c)), p < done → (p : Nat) < i → f.lower.entry i (Grid.diagonal p).1 =
    if Scalar.eq (f.remaining g i p (Grid.diagonal p).2) 0 then 0
    else f.remaining g i p (Grid.diagonal p).2 / f.upper.entry (Grid.diagonal p).1 (Grid.diagonal p).2
  pivots : ∀ p : Fin (min r c), p < done →
    Scalar.isNegligible tolerance (f.upper.entry (Grid.diagonal p).1 (Grid.diagonal p).2) = false

theorem recurs_start (g : Grid α r c) (tolerance : α) : (start g).Recurs g tolerance 0 where
  upper i j := by
    have place : (start g).order.get i = i := get_ofFn id i
    rw [Nat.zero_min, remaining, place]
    rfl
  lower i p hp := absurd hp (Nat.not_lt_zero _)
  pivots p hp := absurd hp (Nat.not_lt_zero _)

/-! ### Exchanging rows -/

section Exchange

variable {p : Fin (min r c)} {i : Fin r}

theorem remaining_exchange (below : (Grid.diagonal p).1 < i) (a : Fin r) {k : Nat} (hk : k ≤ p) (j : Fin c) :
    (f.exchange (Grid.diagonal p).1 i).remaining g a k j =
      f.remaining g (Equiv.swap (Grid.diagonal p).1 i a) k j := by
  apply remaining_congr
  · rw [exchange, get_ofFn, ← Equiv.swap_apply_def]
  · intro q hq
    have before : (Grid.diagonal q).1 < (Grid.diagonal p).1 := show (q : Nat) < p by omega
    rw [entry_lower_exchange, if_pos before]
  · intro q hq j
    have before : (Grid.diagonal q).1 < (Grid.diagonal p).1 := show (q : Nat) < p by omega
    rw [exchange, Grid.entry_swapRows, if_neg before.ne, if_neg (before.trans below).ne]

theorem recurs_exchange (h : f.Recurs g tolerance p) (below : (Grid.diagonal p).1 < i) :
    (f.exchange (Grid.diagonal p).1 i).Recurs g tolerance p := by
  have upper (a : Fin r) (j : Fin c) : (f.exchange (Grid.diagonal p).1 i).upper.entry a j =
      f.upper.entry (Equiv.swap (Grid.diagonal p).1 i a) j := by
    rw [exchange, Grid.entry_swapRows, ← Equiv.swap_apply_def]
  have unmoved {a : Fin r} (ha : a < (Grid.diagonal p).1) : Equiv.swap (Grid.diagonal p).1 i a = a :=
    Equiv.swap_apply_of_ne_of_ne ha.ne (ha.trans below).ne
  refine ⟨?_, ?_, ?_⟩
  · intro a j
    rw [upper, h.upper, remaining_exchange below a (by omega)]
    congr 1
    obtain before | after := lt_or_ge a (Grid.diagonal p).1
    · rw [unmoved before]
    · have moved := le_swap below after
      have after : (p : Nat) ≤ a := after
      have moved : (p : Nat) ≤ Equiv.swap (Grid.diagonal p).1 i a := moved
      omega
  · intro a q hq ha
    have before : (Grid.diagonal q).1 < (Grid.diagonal p).1 := hq
    have stays : Equiv.swap (Grid.diagonal p).1 i (Grid.diagonal q).1 = (Grid.diagonal q).1 := unmoved before
    have beneath : (q : Nat) < Equiv.swap (Grid.diagonal p).1 i a := by
      obtain first | later := lt_or_ge a (Grid.diagonal p).1
      · rwa [unmoved first]
      · exact before.trans_le (le_swap below later)
    rw [entry_lower_exchange, if_pos before, upper, stays, remaining_exchange below a hq.le]
    exact h.lower _ q hq beneath
  · intro q hq
    have before : (Grid.diagonal q).1 < (Grid.diagonal p).1 := hq
    rw [upper, unmoved before]
    exact h.pivots q hq

end Exchange

/-! ### Clearing a column -/

section Clear

variable {p : Fin (min r c)}

theorem entry_upper_clear (f : Factors α r c) (row i : Fin r) (col j : Fin c) :
    (f.clear row col).upper.entry i j =
      if row < i ∧ col ≤ j ∧ Scalar.eq (f.upper.entry i col) 0 = false then
        f.upper.entry i j - f.upper.entry i col / f.upper.entry row col * f.upper.entry row j
      else f.upper.entry i j := by
  rw [clear, Grid.entry_subtractMultiples, Grid.multipliersBelow, get_ofFn]
  by_cases taken : row < i ∧ Scalar.eq (f.upper.entry i col) 0 = false
  · rw [if_pos taken]
    exact if_congr ⟨fun h => ⟨taken.1, h, taken.2⟩, fun h => h.2.1⟩ rfl rfl
  · rw [if_neg taken, if_neg fun h => taken ⟨h.1, h.2.2⟩]

theorem entry_lower_clear (f : Factors α r c) (row i j : Fin r) (col : Fin c) :
    (f.clear row col).lower.entry i j =
      if row < i ∧ (j : Nat) = col then
        if Scalar.eq (f.upper.entry i col) 0 then 0 else f.upper.entry i col / f.upper.entry row col
      else f.lower.entry i j := by
  rw [clear, Grid.entry_build, Grid.multipliersBelow, get_ofFn]
  by_cases place : row < i ∧ (j : Nat) = col
  · rw [if_pos place, if_pos place]
    cases Scalar.eq (f.upper.entry i col) 0 with
    | false => rw [if_pos ⟨place.1, rfl⟩, if_neg Bool.false_ne_true, Option.getD_some]
    | true => rw [if_neg fun h => Bool.noConfusion h.2, if_pos rfl, Option.getD_none]
  · rw [if_neg place, if_neg place]

theorem remaining_clear (a : Fin r) {k : Nat} (hk : k ≤ p) (j : Fin c) :
    (f.clear (Grid.diagonal p).1 (Grid.diagonal p).2).remaining g a k j = f.remaining g a k j := by
  apply remaining_congr
  · rfl
  · intro q hq
    have before : (Grid.diagonal q).1 < (Grid.diagonal p).1 := show (q : Nat) < p by omega
    rw [entry_lower_clear, if_neg fun h => before.ne (Fin.ext h.2)]
  · intro q hq j
    have before : (Grid.diagonal q).1 < (Grid.diagonal p).1 := show (q : Nat) < p by omega
    rw [entry_upper_clear, if_neg fun h => before.not_gt h.1]

theorem recurs_clear (h : f.Recurs g tolerance p)
    (large : Scalar.isNegligible tolerance (f.upper.entry (Grid.diagonal p).1 (Grid.diagonal p).2) = false) :
    (f.clear (Grid.diagonal p).1 (Grid.diagonal p).2).Recurs g tolerance (p + 1) := by
  have row_val : ((Grid.diagonal p).1 : Nat) = p := rfl
  have col_val : ((Grid.diagonal p).2 : Nat) = p := rfl
  -- The rows down to the pivot are not touched, nor is what was left before this column.
  have above {a : Fin r} (ha : ¬(Grid.diagonal p).1 < a) (j : Fin c) :
      (f.clear (Grid.diagonal p).1 (Grid.diagonal p).2).upper.entry a j = f.upper.entry a j := by
    rw [entry_upper_clear, if_neg fun h => ha h.1]
  have reached {a : Fin r} (ha : (p : Nat) < a) {j : Fin c} (hj : (p : Nat) ≤ j) :
      f.upper.entry a j = f.remaining g a p j := by
    rw [h.upper, show min (p : Nat) (min a (j + 1)) = p by omega]
  refine ⟨?_, ?_, ?_⟩
  · intro a j
    by_cases done : (a : Nat) ≤ p ∨ (j : Nat) < p
    · have same : min ((p : Nat) + 1) (min a (j + 1)) = min (p : Nat) (min a (j + 1)) := by omega
      rw [same, remaining_clear a (min_le_left _ _), ← h.upper, entry_upper_clear, if_neg fun h => by omega]
    · have beneath : (p : Nat) < a := by omega
      have right : (p : Nat) ≤ j := by omega
      rw [show min ((p : Nat) + 1) (min a (j + 1)) = p + 1 by omega, remaining_succ, remaining_clear a le_rfl,
        remaining_clear a le_rfl, entry_upper_clear, entry_lower_clear, above (lt_irrefl _), reached beneath right,
        reached beneath le_rfl]
      cases zero : Scalar.eq (f.remaining g a p (Grid.diagonal p).2) 0 with
      | false =>
        rw [if_pos ⟨beneath, right, rfl⟩, if_neg Bool.false_ne_true, if_pos ⟨beneath, rfl⟩, if_neg Bool.false_ne_true]
      | true => rw [if_neg fun h => Bool.noConfusion h.2.2, if_pos rfl]
  · intro a q hq ha
    rw [remaining_clear a (Nat.lt_succ_iff.1 hq), above (not_lt.2 (Nat.lt_succ_iff.1 hq)), entry_lower_clear]
    rcases Nat.lt_succ_iff_lt_or_eq.1 hq with before | last
    · rw [if_neg fun h => before.ne h.2]
      exact h.lower a q before ha
    · obtain rfl : q = p := Fin.ext last
      rw [if_pos ⟨ha, rfl⟩, reached ha le_rfl]
  · intro q hq
    rw [above (not_lt.2 (Nat.lt_succ_iff.1 hq))]
    rcases Nat.lt_succ_iff_lt_or_eq.1 hq with hq | hq
    · exact h.pivots q hq
    · obtain rfl : q = p := Fin.ext hq
      exact large

end Clear

/-! ### The run over the columns -/

/-- Every step that succeeds clears its column beneath a pivot that is not negligible, after an exchange if need be. -/
theorem exists_clear_of_step {p : Fin (min r c)} (run : f.step tolerance p = .ok t) :
    ∃ u : Factors α r c, (u = f ∨ ∃ i, (Grid.diagonal p).1 < i ∧ u = f.exchange (Grid.diagonal p).1 i) ∧
      Scalar.isNegligible tolerance (u.upper.entry (Grid.diagonal p).1 (Grid.diagonal p).2) = false ∧
      t = u.clear (Grid.diagonal p).1 (Grid.diagonal p).2 := by
  have cleared {u : Factors α r c} (answer :
      (if Scalar.isNegligible tolerance (u.upper.entry (Grid.diagonal p).1 (Grid.diagonal p).2) then .error (p : Nat)
        else .ok (u.clear (Grid.diagonal p).1 (Grid.diagonal p).2)) = Except.ok t) :
      Scalar.isNegligible tolerance (u.upper.entry (Grid.diagonal p).1 (Grid.diagonal p).2) = false ∧
        t = u.clear (Grid.diagonal p).1 (Grid.diagonal p).2 := by
    split at answer
    · cases answer
    · rename_i large
      exact ⟨Bool.not_eq_true _ ▸ large, (Except.ok.inj answer).symm⟩
  rw [step] at run
  dsimp only at run
  split at run
  · split at run
    · rename_i i found
      exact ⟨_, .inr ⟨i, (Grid.passes_of_findPivot found).1, rfl⟩, cleared run⟩
    · exact ⟨_, .inl rfl, cleared run⟩
  · rename_i large
    exact ⟨_, .inl rfl, Bool.not_eq_true _ ▸ large, (Except.ok.inj run).symm⟩

theorem recurs_step {p : Fin (min r c)} (h : f.Recurs g tolerance p) (run : f.step tolerance p = .ok t) :
    t.Recurs g tolerance (p + 1) := by
  obtain ⟨u, origin, large, rfl⟩ := exists_clear_of_step run
  refine recurs_clear ?_ large
  obtain rfl | ⟨i, below, rfl⟩ := origin
  · exact h
  · exact recurs_exchange h below

theorem recurs_factor (run : g.factor tolerance = .ok f) : f.Recurs g tolerance (min r c) := by
  have sweep := sweep_induction (step tolerance) (start g) (fun p f => f.Recurs g tolerance p)
    (recurs_start g tolerance) fun p f t h run => recurs_step h run
  rw [Grid.factor] at run
  rwa [run] at sweep

end Factors

end Polyhedra
