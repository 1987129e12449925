import Mathlib
import Polyhedra.Elimination.Scaled
import Polyhedra.Proofs.Elimination.Solution

/-!
# Scaled pivots are never zero

A pivot was found to be sizeable before anything is divided by it, and a row whose pivot is found is not touched again.
So a solution is made of the numbers of the system by subtraction, multiplication and quotients that are not by zero, and
it shares what these preserve.
-/

namespace Polyhedra

section Except

variable {ε σ α β : Type}

theorem bind_eq_ok {x : Except ε α} {f : α → Except ε β} {y : β} :
    (x >>= f) = .ok y ↔ ∃ a, x = .ok a ∧ f a = .ok y := by
  cases x with
  | error e => simp [bind, Except.bind]
  | ok a => simp [bind, Except.bind]

theorem pure_eq_ok {x y : α} : (pure x : Except ε α) = .ok y ↔ x = y := by
  simp [pure, Except.pure]

theorem foldlM_induction {step : σ → α → Except ε σ} {motive : σ → Prop} {l : List α} {s t : σ} (start : motive s)
    (next : ∀ a ∈ l, ∀ s t, motive s → step s a = .ok t → motive t) (run : l.foldlM step s = .ok t) : motive t := by
  induction l generalizing s with
  | nil =>
    obtain rfl := Except.ok.inj run
    exact start
  | cons a l ih =>
    rw [List.foldlM_cons, bind_eq_ok] at run
    obtain ⟨u, first, rest⟩ := run
    exact ih (next a List.mem_cons_self s u start first) (fun b hb => next b (List.mem_cons_of_mem a hb)) rest

/-- A loop without a result that comes to its end has passed every turn. -/
theorem turn_of_forIn {f : α → Unit → Except ε (ForInStep Unit)} {l : List α} {u : Unit}
    (yields : ∀ a step, f a () = .ok step → step = .yield ()) (run : forIn l () f = .ok u) {a : α} (mem : a ∈ l) :
    f a () = .ok (.yield ()) := by
  induction l with
  | nil => cases mem
  | cons b l ih =>
    rw [List.forIn_cons, bind_eq_ok] at run
    obtain ⟨step, turn, rest⟩ := run
    obtain rfl := yields b step turn
    rcases List.mem_cons.1 mem with rfl | mem
    · exact turn
    · exact ih rest mem

theorem get_ofFnM {n : Nat} {f : Fin n → Except ε α} {v : Vector α n} (run : Vector.ofFnM f = .ok v) (i : Fin n) :
    f i = .ok (v.get i) := by
  induction n with
  | zero => exact i.elim0
  | succ n ih =>
    rw [Vector.ofFnM_succ, bind_eq_ok] at run
    obtain ⟨first, before, run⟩ := run
    rw [bind_eq_ok] at run
    obtain ⟨last, found, run⟩ := run
    obtain rfl := pure_eq_ok.1 run
    cases i using Fin.lastCases with
    | last =>
      change f (Fin.last n) = .ok ((first.push last)[n])
      rw [Vector.getElem_push_last, found]
    | cast i =>
      change f i.castSucc = .ok ((first.push last)[(i : Nat)])
      rw [Vector.getElem_push_lt i.isLt]
      exact ih before i

end Except

namespace ScaledSolver

variable {ω : Type} [Scalar ω] {n : Nat}

/-- Numbers that a solver does not leave as long as it divides by nothing that is zero. -/
structure Keeps (s : ScaledSolver ω) (P : ω → Prop) : Prop where
  zero : P 0
  sub : ∀ {x y}, P x → P y → P (x - y)
  mul : ∀ {x y}, P x → P y → P (x * y)
  quotient : ∀ {x y q}, P x → P y → Scalar.eq y 0 = false → s.quotient x y = .ok q → P q

variable {s : ScaledSolver ω} {P : ω → Prop} {threshold : ω} {g : Grid ω n n} {b : Vector ω n}

theorem eq_zero_of_needSizeable {x : ω} {u : Unit} (sizeable : needSizeable threshold x = .ok u) :
    Scalar.eq x 0 = false := by
  rw [needSizeable] at sizeable
  split at sizeable
  · cases sizeable
  · grind

theorem le_pivot {j i : Fin n} (found : s.pivot threshold g j = .ok i) : j ≤ i := by
  rw [pivot, bind_eq_ok] at found
  obtain ⟨best, run, chosen⟩ := found
  have below : ∀ i, best.2 = some i → j ≤ i := by
    apply foldlM_induction (motive := fun best : ω × Option (Fin n) => ∀ i, best.2 = some i → j ≤ i) ?_ ?_ run
    · intro i start
      cases start
    · intro a mem best best' h step i chosen
      simp only [bind_eq_ok, pure_eq_ok] at step
      obtain ⟨_, _, share, _, rfl⟩ := step
      split at chosen
      · obtain rfl := Option.some.inj chosen
        exact of_decide_eq_true (List.mem_filter.1 mem).2
      · exact h i chosen
  cases place : best.2 with
  | none =>
    rw [place] at chosen
    cases chosen
  | some i' =>
    rw [place] at chosen
    obtain rfl := pure_eq_ok.1 chosen
    exact below i' place

structure Holds (P : ω → Prop) (done : Nat) (system : Grid ω n n × Vector ω n) : Prop where
  left : ∀ i j, P (system.1.entry i j)
  right : ∀ i, P (system.2.get i)
  pivots : ∀ j : Fin n, (j : Nat) < done → Scalar.eq (system.1.entry j j) 0 = false

theorem holds_exchange {j i : Fin n} {done : Nat} (h : Holds P done (g, b)) (inside : done ≤ j) (below : j ≤ i) :
    Holds P done (g.swapRows j i, Vector.ofFn fun a => b.get (if a = j then i else if a = i then j else a)) := by
  refine ⟨fun a l => ?_, fun a => ?_, fun a ha => ?_⟩
  · rw [Grid.entry_swapRows]
    split_ifs <;> exact h.left _ _
  · rw [get_ofFn]
    exact h.right _
  · rw [Grid.entry_swapRows, if_neg (by omega), if_neg (by omega)]
    exact h.pivots a ha

theorem holds_cleared (keeps : s.Keeps P) {j : Fin n} {factors : Vector ω n} (h : Holds P (j + 1) (g, b))
    (found : s.factors g j = .ok factors) : Holds P (j + 1) (cleared g b j factors) := by
  have multiplier (i : Fin n) : P (factors.get i) := by
    have := get_ofFnM found i
    split at this
    · exact keeps.quotient (h.left i j) (h.left j j) (h.pivots j (Nat.lt_succ_self j)) this
    · rw [← Except.ok.inj this]
      exact keeps.zero
  refine ⟨fun i l => ?_, fun i => ?_, fun i hi => ?_⟩
  · rw [cleared, Grid.entry_build]
    split
    · exact keeps.sub (h.left i l) (keeps.mul (multiplier i) (h.left j l))
    · exact h.left i l
  · rw [cleared, get_ofFn]
    split
    · exact keeps.sub (h.right i) (keeps.mul (multiplier i) (h.right j))
    · exact h.right i
  · rw [cleared, Grid.entry_build, if_neg (by omega)]
    exact h.pivots i hi

theorem step_ok (keeps : s.Keeps P) {j : Fin n} {system system' : Grid ω n n × Vector ω n}
    (h : Holds P j system) (run : s.step threshold system j = .ok system') : Holds P (j + 1) system' := by
  simp only [step, bind_eq_ok, pure_eq_ok] at run
  obtain ⟨i, found, _, sizeable, factors, run, rfl⟩ := run
  have exchanged := holds_exchange h le_rfl (le_pivot found)
  apply holds_cleared keeps ⟨exchanged.left, exchanged.right, fun a ha => ?_⟩ run
  rcases Nat.lt_succ_iff_lt_or_eq.1 ha with ha | ha
  · exact exchanged.pivots a ha
  · obtain rfl : a = j := Fin.ext ha
    exact eq_zero_of_needSizeable sizeable

theorem backStep_ok (keeps : s.Keeps P) {x x' : Vector ω n} {i : Fin n} (hg : ∀ i j, P (g.entry i j))
    (pivot : Scalar.eq (g.entry i i) 0 = false) (hx : ∀ i, P (x.get i)) (run : s.backStep g x i = .ok x') :
    ∀ i, P (x'.get i) := by
  simp only [backStep, bind_eq_ok, pure_eq_ok] at run
  obtain ⟨q, quotient, rfl⟩ := run
  have rest (l : List (Fin n)) : P (l.foldl (fun rest l => rest - g.entry i l * x.get l) (x.get i)) :=
    List.foldlRecOn l _ (hx i) fun y hy a _ => keeps.sub hy (keeps.mul (hg i a) (hx a))
  intro k
  change P ((x.set i q i.isLt)[(k : Nat)])
  rw [Vector.getElem_set]
  split
  · exact keeps.quotient (rest _) (hg i i) pivot quotient
  · exact hx k

theorem holds_down (keeps : s.Keeps P) {system : Grid ω n n × Vector ω n} (h : Holds P 0 (g, b))
    (run : ((List.finRange n).filter fun j => j.val + 1 < n).foldlM (s.step threshold) (g, b) = .ok system) :
    Holds P (n - 1) system := by
  -- The last column has no row below and is left out: there the count of pivots stands still.
  rw [List.foldlM_filter] at run
  have sweep := sweep_induction
    (fun system (j : Fin n) => if decide (j.val + 1 < n) = true then s.step threshold system j else pure system)
    (g, b) (fun done => Holds P (min done (n - 1))) (by rwa [Nat.zero_min]) fun j system system' h run => by
      split at run
      · rename_i before
        have before := of_decide_eq_true before
        rw [min_eq_left (by omega)] at h ⊢
        exact step_ok keeps h run
      · rename_i last
        have last := of_decide_eq_false (Bool.not_eq_true _ ▸ last)
        rw [min_eq_right (by omega)] at h ⊢
        rwa [← pure_eq_ok.1 run]
  rw [run] at sweep
  rwa [min_eq_right (Nat.sub_le n 1)] at sweep

/-- A solution is made of numbers like those of the system. -/
theorem solve_keeps (keeps : s.Keeps P) (hg : ∀ i j, P (g.entry i j)) (hb : ∀ i, P (b.get i)) {x : Vector ω n}
    (run : s.solve g b = .ok x) : ∀ i, P (x.get i) := by
  simp only [solve, bind_eq_ok] at run
  obtain ⟨⟨g', b'⟩, down, _, loop, back⟩ := run
  have reduced := holds_down keeps ⟨hg, hb, fun j hj => absurd hj (Nat.not_lt_zero _)⟩ down
  -- The pivot of the last column is tested between the two runs.
  have last (j : Fin n) (hj : j.val + 1 = n) : Scalar.eq (g'.entry j j) 0 = false := by
    have turn := turn_of_forIn ?_ loop (List.mem_filter.2 ⟨List.mem_finRange j, decide_eq_true hj⟩)
    · split at turn
      · split at turn
        · cases turn
        · grind
      · rw [bind_eq_ok] at turn
        obtain ⟨_, sizeable, _⟩ := turn
        exact eq_zero_of_needSizeable sizeable
    · intro a step turn
      split at turn
      · split at turn
        · cases turn
        · exact (pure_eq_ok.1 turn).symm
      · rw [bind_eq_ok] at turn
        obtain ⟨_, _, turn⟩ := turn
        exact (pure_eq_ok.1 turn).symm
  have pivots (i : Fin n) : Scalar.eq (g'.entry i i) 0 = false := by
    by_cases hi : i.val + 1 = n
    · exact last i hi
    · exact reduced.pivots i (by omega)
  exact foldlM_induction (motive := fun x : Vector ω n => ∀ i, P (x.get i)) reduced.right
    (fun i _ y z hy step => backStep_ok keeps reduced.left (pivots i) hy step) back

end ScaledSolver

end Polyhedra
