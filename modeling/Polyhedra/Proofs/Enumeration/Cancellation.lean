import Mathlib
import Polyhedra.Proofs.Enumeration.Optimum

/-!
# Cancelled runs

A probe is known by the number of its first yes. A single worker evaluates as many partitions as there are questions
before it, and a pool of workers as many chunks, while it never holds more chunks than its window is wide. So without a
yes the pool and the single worker evaluate the same. Chunks of more partitions than can be counted off are accepted too,
but no pool is started for them.
-/

namespace Polyhedra

/-- The number of the first question that is answered with yes, infinite if there is none. -/
noncomputable def Probe.firstYes (probe : Probe) : ℕ∞ :=
  ⨅ (k : Nat) (_ : probe k = true), (k : ℕ∞)

namespace Probe

variable {probe : Probe} {j : Nat}

theorem le_firstYes_iff : (j : ℕ∞) ≤ firstYes probe ↔ ∀ k < j, probe k = false := by
  simp only [firstYes, le_iInf_iff, Nat.cast_le]
  constructor
  · intro h k hk
    by_contra yes
    have := h k (Bool.eq_true_of_not_eq_false yes)
    omega
  · intro quiet k yes
    by_contra early
    simp [quiet k (by omega)] at yes

theorem firstYes_eq (yes : probe j = true) (quiet : ∀ k < j, probe k = false) : firstYes probe = j :=
  le_antisymm (iInf₂_le j yes) (le_firstYes_iff.2 quiet)

theorem eq_false_of_firstYes_eq_top (never : firstYes probe = ⊤) (k : Nat) : probe k = false :=
  le_firstYes_iff.1 (never ▸ le_top) k (Nat.lt_succ_self k)

end Probe

variable {β : Type} {evaluate : Partition → β} {probe : Probe} {progress : Progress} {size window : Nat}

/-! ### What a cut run has evaluated -/

theorem lt_ceilDiv_iff (positive : 0 < size) {n k : Nat} : k < n ⌈/⌉ size ↔ k * size < n := by
  rw [← not_le, ceilDiv_le_iff_le_mul positive, not_le, Nat.mul_comm]

namespace EndsAs

variable {all : List β} {e : Evaluated β}

theorem results_eq (positive : 0 < size) (h : EndsAs probe size all e) :
    e.results = all.take (min (Probe.firstYes probe * size) all.length).toNat := by
  cases h with
  | complete quiet =>
    have late : ((all.length ⌈/⌉ size : Nat) : ℕ∞) ≤ Probe.firstYes probe :=
      Probe.le_firstYes_iff.2 fun k hk => quiet k ((lt_ceilDiv_iff positive).1 hk)
    have enough : (all.length : ℕ∞) ≤ Probe.firstYes probe * size := by
      refine le_trans ?_ (mul_le_mul_left late (size : ℕ∞))
      exact_mod_cast not_lt.1 ((lt_ceilDiv_iff positive).not.1 (lt_irrefl (all.length ⌈/⌉ size)))
    rw [min_eq_right enough, ENat.toNat_natCast, List.take_length]
  | cut j yes quiet early =>
    have less : ((j * size : Nat) : ℕ∞) ≤ all.length := Nat.cast_le.2 early.le
    rw [Probe.firstYes_eq yes quiet, ← Nat.cast_mul, min_eq_left less, ENat.toNat_natCast]

theorem cancelled_iff (positive : 0 < size) (h : EndsAs probe size all e) :
    e.cancelled = true ↔ Probe.firstYes probe < (all.length ⌈/⌉ size : Nat) := by
  cases h with
  | complete quiet =>
    refine iff_of_false Bool.false_ne_true (not_lt.2 (Probe.le_firstYes_iff.2 ?_))
    exact fun k hk => quiet k ((lt_ceilDiv_iff positive).1 hk)
  | cut j yes quiet early =>
    rw [Probe.firstYes_eq yes quiet, Nat.cast_lt, lt_ceilDiv_iff positive]
    exact iff_of_true rfl early

end EndsAs

/-! ### The window -/

namespace Pool

/-- The jobs in flight at some moment of a run that goes on from a pool: between two turns, when a chunk was just handed
to the workers, and when some of the jobs were collected after the last turn. -/
inductive Holds (evaluate : Partition → β) (probe : Probe) (progress : Progress) (size window : Nat) :
    Pool β → List (Job β) → Prop where
  | now (p : Pool β) : Holds evaluate probe progress size window p p.inFlight
  | handed {p q : Pool β} (turn : p.turn evaluate probe progress size window = .goOn q) :
      Holds evaluate probe progress size window p (p.handed size).inFlight
  | later {p q : Pool β} {jobs : List (Job β)} (turn : p.turn evaluate probe progress size window = .goOn q)
      (holds : Holds evaluate probe progress size window q jobs) : Holds evaluate probe progress size window p jobs
  | drained {p q : Pool β} {cancelled : Bool} (turn : p.turn evaluate probe progress size window = .stop q cancelled)
      (collected : Nat) : Holds evaluate probe progress size window p (q.inFlight.drop collected)

theorem length_inFlight_work (p : Pool β) : (p.work evaluate progress).inFlight.length = p.inFlight.length :=
  List.length_mapIdx

theorem length_inFlight_collectIfFull {p : Pool β} (positive : 0 < window) (h : p.inFlight.length ≤ window) :
    (p.collectIfFull evaluate window).inFlight.length < window := by
  rw [collectIfFull]
  split
  · rename_i inFlight
    rwa [inFlight]
  · rename_i oldest others inFlight
    rw [inFlight, List.length_cons] at h
    split
    · exact h
    · rw [inFlight, List.length_cons]
      omega

theorem length_inFlight_next (p : Pool β) (room : p.inFlight.length < window) :
    (((p.handed size).work evaluate progress).collectIfFull evaluate window).inFlight.length < window := by
  apply length_inFlight_collectIfFull (Nat.zero_lt_of_lt room)
  rw [length_inFlight_work]
  simpa [handed] using room

theorem Holds.length_le (positive : 0 < size) {p : Pool β} {jobs : List (Job β)}
    (h : Holds evaluate probe progress size window p jobs) (room : p.inFlight.length < window) :
    jobs.length ≤ window := by
  induction h with
  | now p => exact room.le
  | handed => simpa [Pool.handed] using room
  | later turn _ ih =>
    rw [turn_eq positive] at turn
    split_ifs at turn
    obtain rfl := Turn.goOn.inj turn
    exact ih (length_inFlight_next _ room)
  | drained turn collected =>
    rw [turn_eq positive] at turn
    rw [List.length_drop]
    split_ifs at turn
    · obtain ⟨rfl, _⟩ := Turn.stop.inj turn
      omega
    · obtain ⟨rfl, _⟩ := Turn.stop.inj turn
      omega

end Pool

/-! ### Enumerations -/

/-- Two configurations that cover the same partitions with the same tolerances; their workers may differ. -/
structure Config.SameWork {α : Type} (c d : Config α) : Prop where
  shard : c.shard = d.shard
  limit : c.limit = d.limit
  tolerance : c.tolerance = d.tolerance
  pivotTolerance : c.pivotTolerance = d.pivotTolerance

namespace Enumeration

variable {α : Type} [Scalar α]

/-- However the workers progress, a pool that can be started evaluates the partitions of the chunks before the first yes,
in order, and a single worker those before the first yes; each is cancelled exactly if something is left then. The pool
never holds more than two chunks for each worker. Without a yes the results do not depend on the workers at all. -/
theorem pool_refines_single_worker (p : Problem α) (c : Config α) (free : c.obstacle? = none) (probe : Probe)
    (progress : Progress) :
    let run := c.run p.numVars p.numConstraints
    let all := run.toList.map (c.evaluate p)
    ∃ e, enumerate? p c probe progress = .ok e ∧
      (2 ≤ c.workers →
        e.dictionaries = all.take (min (probe.firstYes * c.chunkSize) all.length).toNat ∧
        (e.cancelled = true ↔ probe.firstYes < (all.length ⌈/⌉ c.chunkSize : Nat)) ∧
        ∀ jobs, Pool.Holds (c.evaluate p) probe progress c.chunkSize (2 * c.workers) (.start run) jobs →
          jobs.length ≤ 2 * c.workers) ∧
      (c.workers = 1 →
        e.dictionaries = all.take (min probe.firstYes all.length).toNat ∧
        (e.cancelled = true ↔ probe.firstYes < all.length)) ∧
      (probe.firstYes = ⊤ → e.dictionaries = all ∧ e.cancelled = false ∧
        ∀ d : Config α, d.SameWork c → d.obstacle? = none → ∀ progress' : Progress,
          ∃ e', enumerate? p d probe progress' = .ok e' ∧ e'.dictionaries = e.dictionaries) := by
  intro run all
  have ends := enumerate_endsAs p c probe progress
  have started : enumerate? p c probe progress = .ok (enumerate p c probe progress) := enumerate?_of_free free
  refine ⟨enumerate p c probe progress, started, ?_, ?_, ?_⟩
  · intro several
    rw [if_pos (show 1 < c.workers from several)] at ends
    refine ⟨ends.results_eq c.chunkSize_pos, ends.cancelled_iff c.chunkSize_pos, fun jobs holds => ?_⟩
    exact holds.length_le c.chunkSize_pos (Nat.mul_pos Nat.two_pos c.workers_pos)
  · intro single
    rw [if_neg (by omega)] at ends
    have results := ends.results_eq Nat.one_pos
    have cancelled := ends.cancelled_iff Nat.one_pos
    rw [Nat.cast_one, mul_one] at results
    rw [ceilDiv_one] at cancelled
    exact ⟨results, cancelled⟩
  · intro never
    have quiet := Probe.eq_false_of_firstYes_eq_top never
    have uncancelled := cancelled_of_run started quiet
    have whole := dictionaries_of_run started uncancelled
    refine ⟨whole, uncancelled, fun d work free' progress' => ?_⟩
    have started' : enumerate? p d probe progress' = .ok (enumerate p d probe progress') := enumerate?_of_free free'
    refine ⟨enumerate p d probe progress', started', ?_⟩
    rw [dictionaries_of_run started' (cancelled_of_run started' quiet), whole, Config.run, work.shard, work.limit,
      Config.evaluate_congr work.tolerance work.pivotTolerance]
    rfl

theorem pool_of_ramp_cut_at_one :
    (Config.exact 2 Nat.two_pos).obstacle? = none ∧ 2 ≤ (Config.exact 2 Nat.two_pos).workers ∧
      Probe.firstYes (fun k => k == 1) = 1 ∧
      ∃ e, enumerate? .ramp (.exact 2 Nat.two_pos) (fun k => k == 1) (fun _ _ => true) = .ok e ∧
        e.dictionaries.length = 1 ∧ e.cancelled = true := by
  have several : 2 ≤ (Config.exact 2 Nat.two_pos).workers := Nat.le_refl 2
  have first : Probe.firstYes (fun k => k == 1) = 1 := Probe.firstYes_eq rfl (by decide)
  have size : (((Config.exact 2 Nat.two_pos).run Problem.ramp.numVars Problem.ramp.numConstraints).toList.map
      ((Config.exact 2 Nat.two_pos).evaluate .ramp)).length = 2 := by
    rw [List.length_map]
    decide
  obtain ⟨e, run, pool, _⟩ :=
    pool_refines_single_worker .ramp (.exact 2 Nat.two_pos) rfl (fun k => k == 1) fun _ _ => true
  obtain ⟨results, cancelled, _⟩ := pool several
  rw [size, first] at results cancelled
  refine ⟨rfl, several, first, e, run, ?_, cancelled.2 ?_⟩
  · have cut : (min ((1 : ℕ∞) * ((1 : Nat) : ℕ∞)) ((2 : Nat) : ℕ∞)).toNat = 1 := by norm_num
    rw [results, List.length_take, size]
    exact congrArg (min · 2) cut
  · exact_mod_cast (lt_ceilDiv_iff Nat.one_pos).2 (by decide : 1 * 1 < 2)

/-- A request for two workers with chunks of one partition more than can be counted off. -/
def vastChunks : ConfigRequest Rat :=
  { workers := 2, chunkSize := 9223372036854775808, tolerance := 0, pivotTolerance := 0 }

/-- Accepted, with two partitions to evaluate where there is one variable and one constraint, and never started. -/
theorem run_of_vast_chunks_is_refused :
    ∃ c, vastChunks.config? = .ok c ∧ 2 ≤ c.workers ∧ 1 ≤ c.chunkSize ∧ (c.run 1 1).toList.length = 2 ∧
      ∀ (p : Problem Rat) probe progress, enumerate? p c probe progress = .error .uncountable := by
  refine ⟨_, rfl, by decide, by decide, by decide, fun p probe progress => rfl⟩

end Enumeration

end Polyhedra
