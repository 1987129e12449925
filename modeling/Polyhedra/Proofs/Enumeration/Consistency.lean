import Mathlib
import Polyhedra.Proofs.Dictionary.Stages
import Polyhedra.Proofs.Enumeration.Optimum
import Polyhedra.Proofs.Listing.Summary

/-!
# Consistency of a whole run

A run evaluates only partitions that pass the check, so none of its dictionaries is invalid. Each flag is a set of
statuses, and so the counts of the flags are sums of the counts of the statuses.
-/

namespace Polyhedra

namespace Listing

structure Summary.Balances (s : Summary) : Prop where
  valid : s.valid = s.total
  statuses : (s.statuses.map Prod.snd).sum = s.total
  messages : (s.messages.map Prod.snd).sum = s.total
  basic : s.basic + frequency s.statuses Status.notBasic.name = s.total
  feasible : s.feasible = frequency s.statuses Status.suboptimal.name + frequency s.statuses Status.unbounded.name +
    frequency s.statuses Status.optimal.name
  optimal : s.optimal = frequency s.statuses Status.optimal.name
  unbounded : s.unbounded = frequency s.statuses Status.unbounded.name

/-! ### Distinct points -/

section Points

variable {α : Type} [Numeral α]

theorem length_distinctPoints_le (seen : List (List GridPoint)) (points : List (List α)) :
    (distinctPoints seen points).length ≤ points.length := by
  induction points generalizing seen with
  | nil => exact Nat.le_refl _
  | cons point points ih =>
    rw [distinctPoints]
    split
    · exact Nat.succ_le_succ (ih seen)
    · split
      · exact (ih seen).trans (Nat.le_succ _)
      · exact Nat.succ_le_succ (ih _)

/-- Nothing is the same as an earlier point when there is none. -/
theorem distinctPoints_eq_nil_iff {points : List (List α)} : distinctPoints [] points = [] ↔ points = [] := by
  cases points with
  | nil => exact iff_of_true rfl rfl
  | cons point points =>
    rw [distinctPoints]
    split <;> simp

end Points

end Listing

namespace Enumeration

open Listing

variable {α : Type}

/-- The entries with some status among distinct ones are those with the first and those with one of the others. -/
theorem countP_status_cons (ds : List (Dictionary α)) {s : Status} {others : List Status} (new : s ∉ others) :
    (ds.countP fun d => d.status ∈ s :: others) =
      (ds.countP fun d => d.status = s) + ds.countP fun d => d.status ∈ others := by
  induction ds with
  | nil => rfl
  | cons d ds ih =>
    rw [List.countP_cons, List.countP_cons, List.countP_cons, ih]
    by_cases first : d.status = s
    · simp [first, new]
      omega
    · simp [first]
      omega

section Counts

variable [Scalar α] [Numeral α]

theorem frequency_statuses (e : Enumeration α) (s : Status) :
    frequency e.summary.statuses s.name = e.dictionaries.countP fun d => d.status = s := by
  rw [summary, Listing.summary, frequency_tally, entries, List.map_map, List.count, List.countP_map]
  apply List.countP_congr
  intro d _
  simp [Dictionary.entry, Status.name_injective.eq_iff]

theorem countP_entries (e : Enumeration α) (flag : Entry α → Bool) :
    e.entries.countP flag = e.dictionaries.countP fun d => flag d.entry :=
  List.countP_map

theorem feasible_summary (e : Enumeration α) : e.summary.feasible = e.dictionaries.countP Dictionary.isFeasible :=
  e.countP_entries _

theorem optimal_summary (e : Enumeration α) : e.summary.optimal = e.dictionaries.countP Dictionary.isOptimal :=
  e.countP_entries _

theorem summary_balances {e : Enumeration α} (evaluated : ∀ d ∈ e.dictionaries, d.isValid = true) :
    e.summary.Balances := by
  have total : e.summary.total = e.dictionaries.length := List.length_map _
  have valid : e.summary.valid = e.dictionaries.countP fun d => d.isValid := e.countP_entries _
  have basic : e.summary.basic = e.dictionaries.countP fun d => d.isBasic := e.countP_entries _
  have optimal := e.optimal_summary
  have unbounded : e.summary.unbounded = e.dictionaries.countP fun d => d.isUnbounded := e.countP_entries _
  have all : (e.dictionaries.countP fun d => d.isValid) = e.dictionaries.length := List.countP_eq_length.2 evaluated
  simp only [funext Dictionary.isOptimal_eq, ← frequency_statuses] at optimal
  simp only [Dictionary.isUnbounded_eq, ← frequency_statuses] at unbounded
  refine ⟨?_, ?_, ?_, ?_, ?_, optimal, unbounded⟩
  · rw [valid, all, total]
  · rw [total]
    exact (sum_tally _).trans (by simp [entries])
  · rw [total]
    exact (sum_tally _).trans (by simp [entries])
  · rw [basic, frequency_statuses, total, ← all]
    simp only [Dictionary.isBasic_eq, Dictionary.isValid_eq]
    rw [countP_status_cons (s := .notBasic) _ (by decide)]
    exact Nat.add_comm _ _
  · rw [feasible_summary]
    simp only [funext Dictionary.isFeasible_eq, frequency_statuses]
    rw [countP_status_cons _ (by decide), countP_status_cons _ (by decide)]
    simp [Nat.add_assoc]

theorem isSome_optimalPoint?_iff (e : Enumeration α) : e.optimalPoint?.isSome ↔ 0 < e.summary.optimal := by
  rw [optimal_summary, List.countP_pos_iff, optimalPoint?, Option.isSome_map, optimal?, List.find?_isSome]

theorem length_feasible (e : Enumeration α) :
    ((e.dictionaries.filter Dictionary.isFeasible).map Dictionary.point).length = e.summary.feasible := by
  rw [List.length_map, ← List.countP_eq_length_filter, feasible_summary]

theorem feasiblePoints_eq_nil_iff (e : Enumeration α) : e.feasiblePoints = [] ↔ e.summary.feasible = 0 := by
  rw [feasiblePoints, distinctPoints_eq_nil_iff, ← length_feasible, List.length_eq_zero_iff]

theorem length_feasiblePoints_le (e : Enumeration α) : e.feasiblePoints.length ≤ e.summary.feasible :=
  (length_distinctPoints_le [] _).trans_eq e.length_feasible

end Counts

/-- Over any scalars every dictionary of a run is consistent, and so are the counts of its summary, its optimal point and
its distinct feasible points. -/
theorem run_is_consistent [Scalar α] [Numeral α] {p : Problem α} {c : Config α} {probe : Probe} {progress : Progress}
    {e : Enumeration α} (run : enumerate? p c probe progress = .ok e) :
    (∀ d ∈ e.dictionaries, d.numVars = p.numVars ∧ d.IsConsistent) ∧ e.summary.Balances ∧
      (e.optimalPoint?.isSome ↔ 0 < e.summary.optimal) ∧ (e.feasiblePoints = [] ↔ e.summary.feasible = 0) ∧
      e.feasiblePoints.length ≤ e.summary.feasible := by
  have consistent : ∀ d ∈ e.dictionaries, d.numVars = p.numVars ∧ d.IsConsistent := by
    intro d mem
    obtain ⟨partition, covered, rfl⟩ := exists_of_mem_dictionaries run mem
    obtain ⟨s, rfl⟩ := Split.mem_all.1 covered
    refine ⟨?_, Dictionary.isConsistent_build p.program _ _ s.check_partition⟩
    rw [Config.evaluate, Dictionary.ofPartition, Dictionary.build_of_check _ _ _ s.check_partition]
  refine ⟨consistent, summary_balances fun d mem => ?_, e.isSome_optimalPoint?_iff, e.feasiblePoints_eq_nil_iff,
    e.length_feasiblePoints_le⟩
  obtain ⟨_, d_consistent⟩ := consistent d mem
  rw [Dictionary.isValid_eq, decide_eq_true_iff]
  exact d_consistent.evaluated

/-- One constraint on one variable whose coefficient is no number. -/
def blurred : Problem Float :=
  ⟨1, 1, .ofLists 0 [[Float.nan]], #v[1], #v[1], .max⟩

def rounded : Config Float where
  workers := 1
  workers_pos := Nat.one_pos
  chunkSize := 1
  chunkSize_pos := Nat.one_pos
  shard := none
  limit := none
  tolerance := 1e-9
  pivotTolerance := 1e-12
  verify := false
  verifyDigits := 50
  crosscheck := false
  output := none
  verbose := false

theorem run_of_blurred_is_consistent :
    ∃ e, enumerate? blurred rounded (fun _ => false) (fun _ _ => false) = .ok e ∧
      e.summary.total = 2 ∧ e.summary.valid = 2 ∧ ∀ d ∈ e.dictionaries, d.IsConsistent := by
  have run : enumerate? blurred rounded (fun _ => false) (fun _ _ => false) =
      .ok (enumerate blurred rounded (fun _ => false) fun _ _ => false) := rfl
  obtain ⟨consistent, balances, _⟩ := run_is_consistent run
  have total : (enumerate blurred rounded (fun _ => false) fun _ _ => false).summary.total = 2 := by
    rw [summary, Listing.summary, entries, List.length_map,
      dictionaries_of_run run (cancelled_of_run run fun _ => rfl), List.length_map]
    decide
  exact ⟨_, run, total, balances.valid.trans total, fun d mem => (consistent d mem).2⟩

example : (Dictionary.ofPartition blurred ⟨[0], [1]⟩ 1e-9 1e-12).status = .optimal := by decide +kernel

end Enumeration

end Polyhedra
