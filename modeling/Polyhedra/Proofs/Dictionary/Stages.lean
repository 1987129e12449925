import Mathlib
import Polyhedra.Proofs.Dictionary.Certificate

/-!
# Stages of an evaluation

An evaluation stops at the first stage that fails. The flags, the status and the data of a dictionary are read off the
outcome one by one; here each flag is a set of statuses, and what data there are is decided by the flags. All of this
holds over any scalars, rounded ones with NaN among them, since no test of a number is used but its answer.
-/

namespace Polyhedra

theorem Status.name_injective : Function.Injective Status.name := by
  intro s t same
  cases s <;> cases t <;> first | rfl | exact absurd same (by decide)

theorem length_coordinates {α : Type} [Zero α] (basic : List Int) (values : List α) (numVars : Nat) :
    (coordinates basic values numVars).length = numVars :=
  (length_foldl_placed numVars _ _).trans List.length_replicate

/-- A coordinate is zero or one of the values. -/
theorem mem_coordinates {α : Type} [Zero α] {basic : List Int} {values : List α} {numVars : Nat} {x : α}
    (mem : x ∈ coordinates basic values numVars) : x = 0 ∨ x ∈ values := by
  rcases mem_foldl_placed mem with zero | ⟨entry, inside, same⟩
  · exact .inl (List.eq_of_mem_replicate zero)
  · exact .inr (same ▸ (List.of_mem_zip inside).2)

variable {α : Type}

/-- A ray that is found belongs to one of the columns. -/
theorem Tableau.exists_of_classify_eq_unbounded [Scalar α] {m n : Nat} {t : Tableau α m n} {tolerance : α}
    {basic nonBasic : List Int} {index : Int} (h : t.classify tolerance basic nonBasic = .unbounded index) :
    ∃ j : Fin n, index = nonBasic.getD j 0 := by
  rw [classify] at h
  split at h
  · cases h
  · split at h
    · cases h
    · split at h
      · rename_i j _
        exact ⟨j, (Verdict.unbounded.inj h).symm⟩
      · cases h

namespace Dictionary

/-! ### Flags as sets of statuses -/

section Flags

variable (d : Dictionary α)

theorem isValid_eq : d.isValid = decide (d.status ∈ [.notBasic, .infeasible, .suboptimal, .unbounded, .optimal]) := by
  rw [isValid, status]
  rcases d.outcome with _ | _ | ⟨_, _ | _ | _ | _⟩ <;> rfl

theorem isBasic_eq : d.isBasic = decide (d.status ∈ [.infeasible, .suboptimal, .unbounded, .optimal]) := by
  rw [isBasic, status]
  rcases d.outcome with _ | _ | ⟨_, _ | _ | _ | _⟩ <;> rfl

theorem isFeasible_eq : d.isFeasible = decide (d.status ∈ [.suboptimal, .unbounded, .optimal]) := by
  rw [isFeasible, status]
  rcases d.outcome with _ | _ | ⟨_, _ | _ | _ | _⟩ <;> rfl

theorem isOptimal_eq : d.isOptimal = decide (d.status = .optimal) := by
  rw [isOptimal, status]
  rcases d.outcome with _ | _ | ⟨_, _ | _ | _ | _⟩ <;> rfl

theorem isUnbounded_eq : d.isUnbounded = decide (d.status = .unbounded) := by
  rw [isUnbounded, status]
  rcases d.outcome with _ | _ | ⟨_, _ | _ | _ | _⟩ <;> rfl

/-! ### Which data there are -/

theorem isSome_tableau? : d.tableau?.isSome = d.isBasic := by
  rw [tableau?, isBasic]
  cases d.outcome <;> rfl

theorem isSome_zeta? : d.zeta?.isSome = d.isBasic := by
  rw [zeta?, Option.isSome_map, isSome_tableau?]

theorem isSome_unboundedVariable? : d.unboundedVariable?.isSome = d.isUnbounded := by
  rw [unboundedVariable?, isUnbounded]
  rcases d.outcome with _ | _ | ⟨_, _ | _ | _ | _⟩ <;> rfl

theorem length_point [Zero α] : d.point.length = if d.isBasic then d.numVars else 0 := by
  rw [point, ← isSome_tableau?]
  cases d.tableau? with
  | none => rfl
  | some t => exact length_coordinates _ _ _

end Flags

structure IsConsistent [Zero α] (d : Dictionary α) : Prop where
  evaluated : d.status ∈ [.notBasic, .infeasible, .suboptimal, .unbounded, .optimal]
  valid_of_basic : d.isBasic = true → d.isValid = true
  basic_of_feasible : d.isFeasible = true → d.isBasic = true
  feasible_of_optimal : d.isOptimal = true → d.isFeasible = true
  feasible_of_unbounded : d.isUnbounded = true → d.isFeasible = true
  not_both : ¬(d.isOptimal = true ∧ d.isUnbounded = true)
  zeta : d.zeta?.isSome = d.isBasic
  tableau : d.tableau?.isSome = d.isBasic
  point : d.point.length = d.numVars ↔ d.isBasic = true ∨ d.numVars = 0
  ray : d.unboundedVariable?.isSome = d.isUnbounded
  ray_mem : ∀ index ∈ d.unboundedVariable?, index ∈ d.nonBasic

/-- Beyond its status, only the variable of a ray has to be looked for. -/
theorem isConsistent_of_status [Zero α] {d : Dictionary α} (valid : d.status ≠ .invalid)
    (ray : ∀ index ∈ d.unboundedVariable?, index ∈ d.nonBasic) : d.IsConsistent where
  evaluated := by cases h : d.status <;> simp_all
  valid_of_basic := by
    rw [isBasic_eq, isValid_eq, decide_eq_true_iff, decide_eq_true_iff]
    exact List.mem_cons_of_mem _
  basic_of_feasible := by
    rw [isFeasible_eq, isBasic_eq, decide_eq_true_iff, decide_eq_true_iff]
    exact List.mem_cons_of_mem _
  feasible_of_optimal := by
    rw [isOptimal_eq, isFeasible_eq]
    grind
  feasible_of_unbounded := by
    rw [isUnbounded_eq, isFeasible_eq]
    grind
  not_both := by
    rw [isOptimal_eq, isUnbounded_eq]
    grind
  zeta := d.isSome_zeta?
  tableau := d.isSome_tableau?
  point := by
    rw [length_point]
    split <;> grind
  ray := d.isSome_unboundedVariable?
  ray_mem := ray

section Build

variable [Scalar α] {m n : Nat}

/-- Lists that the check accepts have a dictionary with the lists in order. -/
theorem build_of_check {basic nonBasic : List Int} (p : Program α m n) (tolerance pivotTolerance : α)
    (valid : Partition.check basic nonBasic n m = .ok ()) :
    build p basic nonBasic tolerance pivotTolerance =
      ⟨m, n, ascending basic, ascending nonBasic,
        evaluate p (ascending basic) (ascending nonBasic) tolerance pivotTolerance⟩ := by
  rw [build, valid]

theorem isConsistent_build {basic nonBasic : List Int} (p : Program α m n) (tolerance pivotTolerance : α)
    (valid : Partition.check basic nonBasic n m = .ok ()) :
    (build p basic nonBasic tolerance pivotTolerance).IsConsistent := by
  rw [build_of_check p tolerance pivotTolerance valid]
  apply isConsistent_of_status
  · rw [status, evaluate]
    dsimp only
    cases (p.columns (ascending basic) m).inverse pivotTolerance with
    | error =>
      intro invalid
      cases invalid
    | ok inverse =>
      dsimp only
      split <;> grind
  · intro index ray
    rw [unboundedVariable?, evaluate] at ray
    cases inverted : (p.columns (ascending basic) m).inverse pivotTolerance with
    | error fault => simp [inverted] at ray
    | ok inverse =>
      simp only [inverted] at ray
      split at ray
      · rename_i verdict
        obtain ⟨j, place⟩ := Tableau.exists_of_classify_eq_unbounded (Outcome.evaluated.inj verdict).2
        have length : (ascending nonBasic).length = n := by
          rw [length_ascending]
          exact (Partition.check_eq_ok_iff.1 valid).2.1
        obtain rfl := Option.some.inj ray
        rw [place, List.getD_eq_getElem _ _ (by omega)]
        exact List.getElem_mem _
      · cases ray

end Build

end Dictionary

end Polyhedra
