import Mathlib
import Polyhedra.Proofs.Decimal.Nearest
import Polyhedra.Proofs.Enumeration.Optimum

/-!
# The vertices that an enumeration lists

The points of the feasible dictionaries are the extreme points of the region, possibly with repetitions. The listing
keeps a point exactly if no earlier one rounds to the same billionths. So it has a point near every extreme point, and if
no two of these are too close to be told apart then it is the list of the extreme points.
-/

namespace Polyhedra

/-- Two points agree if their coordinates round to the same billionths. -/
def Agree {n : Nat} (x y : Fin n → Rat) : Prop :=
  ∀ j, SameBillionths (x j) (y j)

namespace Listing

variable {n : Nat}

/-! ### Keys -/

def gridPoint (x : Rat) : GridPoint :=
  .ofQuotient (decide (x < 0)) x.num.natAbs x.den

def key (x : Fin n → Rat) : List GridPoint :=
  List.ofFn fun j => gridPoint (x j)

theorem gridKey?_ofFn (x : Fin n → Rat) : gridKey? (List.ofFn x) = some (key x) := by
  have all (point : List Rat) : gridKey? point = some (point.map gridPoint) := by
    rw [gridKey?]
    induction point with
    | nil => rfl
    | cons x point ih =>
      rw [List.mapM_cons, ih]
      rfl
  rw [all, List.map_ofFn]
  rfl

theorem key_eq_iff {x y : Fin n → Rat} : key x = key y ↔ Agree x y := by
  rw [key, key, List.ofFn_inj, funext_iff]
  apply forall_congr'
  intro j
  rw [← gridPoint?_eq_iff]
  exact Option.some_inj.symm

/-! ### First occurrences -/

theorem distinctPoints_cons (seen : List (List GridPoint)) (x : Fin n → Rat) (rest : List (List Rat)) :
    distinctPoints seen (List.ofFn x :: rest) =
      if key x ∈ seen then distinctPoints seen rest else List.ofFn x :: distinctPoints (key x :: seen) rest := by
  rw [distinctPoints, gridKey?_ofFn]
  simp only [List.contains_iff_mem]

/-- The key at a place is neither among the given ones nor at an earlier place. -/
def IsNew (seen : List (List GridPoint)) (points : List (Fin n → Rat)) (i : Fin points.length) : Prop :=
  key (points.get i) ∉ seen ∧ ∀ k < i, key (points.get k) ≠ key (points.get i)

section IsNew

variable {seen : List (List GridPoint)} {x : Fin n → Rat} {points : List (Fin n → Rat)} {i : Fin points.length}

theorem isNew_zero : IsNew seen (x :: points) (0 : Fin (points.length + 1)) ↔ key x ∉ seen :=
  and_iff_left fun k hk => absurd hk (Fin.not_lt_zero k)

theorem isNew_succ : IsNew seen (x :: points) i.succ ↔ IsNew (key x :: seen) points i := by
  rw [IsNew, IsNew, List.mem_cons, not_or]
  refine ⟨?_, ?_⟩
  · intro h
    obtain ⟨fresh, earlier⟩ := h
    exact ⟨⟨(earlier (0 : Fin (points.length + 1)) (Fin.succ_pos i)).symm, fresh⟩,
      fun k hk => earlier k.succ (Fin.succ_lt_succ_iff.2 hk)⟩
  · intro h
    obtain ⟨⟨other, fresh⟩, earlier⟩ := h
    refine ⟨fresh, fun k => Fin.cases (fun _ => Ne.symm other) (fun k hk => ?_) k⟩
    exact earlier k (Fin.succ_lt_succ_iff.1 hk)

theorem isNew_cons_of_mem {known : List GridPoint} (mem : known ∈ seen) :
    IsNew (known :: seen) points i ↔ IsNew seen points i := by
  rw [IsNew, IsNew, List.mem_cons, or_iff_right_of_imp]
  intro same
  subst same
  exact mem

end IsNew

/-- The listing keeps the points at the places where the key is new, in order. -/
theorem distinctPoints_eq_map_get (seen : List (List GridPoint)) (points : List (Fin n → Rat)) :
    ∃ places : List (Fin points.length), places.Pairwise (· < ·) ∧
      distinctPoints seen (points.map List.ofFn) = (places.map points.get).map List.ofFn ∧
      ∀ i, i ∈ places ↔ IsNew seen points i := by
  induction points generalizing seen with
  | nil => exact ⟨[], .nil, rfl, fun i => i.elim0⟩
  | cons x points ih =>
    rw [List.map_cons, distinctPoints_cons]
    split
    · rename_i known
      obtain ⟨places, ascending, kept, mem⟩ := ih seen
      refine ⟨places.map Fin.succ, List.pairwise_map.2 (ascending.imp Fin.succ_lt_succ_iff.2), ?_,
        Fin.cases ?_ fun i => ?_⟩
      · rw [kept, List.map_map (f := Fin.succ)]
        rfl
      · refine iff_of_false (fun h => ?_) fun h => isNew_zero.1 h known
        obtain ⟨k, _, zero⟩ := List.mem_map.1 h
        exact Fin.succ_ne_zero k zero
      · rw [List.mem_map_of_injective (Fin.succ_injective _), mem, isNew_succ, isNew_cons_of_mem known]
    · rename_i fresh
      obtain ⟨places, ascending, kept, mem⟩ := ih (key x :: seen)
      refine ⟨(0 : Fin (points.length + 1)) :: places.map Fin.succ, List.pairwise_cons.2 ⟨fun i hi => ?_,
        List.pairwise_map.2 (ascending.imp Fin.succ_lt_succ_iff.2)⟩, ?_, Fin.cases ?_ fun i => ?_⟩
      · obtain ⟨k, _, rfl⟩ := List.mem_map.1 hi
        exact Fin.succ_pos k
      · rw [kept, List.map_cons, List.map_map (f := Fin.succ)]
        rfl
      · exact iff_of_true List.mem_cons_self (isNew_zero.2 fresh)
      · rw [List.mem_cons, or_iff_right (Fin.succ_ne_zero i), List.mem_map_of_injective (Fin.succ_injective _), mem,
          isNew_succ]

end Listing

/-! ### Agreement -/

section Agree

variable {n : Nat} {x y z : Fin n → Rat}

theorem Agree.refl (x : Fin n → Rat) : Agree x x :=
  Listing.key_eq_iff.1 rfl

theorem Agree.symm (h : Agree x y) : Agree y x :=
  Listing.key_eq_iff.1 (Listing.key_eq_iff.2 h).symm

theorem Agree.trans (hxy : Agree x y) (hyz : Agree y z) : Agree x z :=
  Listing.key_eq_iff.1 ((Listing.key_eq_iff.2 hxy).trans (Listing.key_eq_iff.2 hyz))

theorem not_agree_of_lt {j : Fin n} (apart : 1 / 1000000000 < |x j - y j|) : ¬Agree x y :=
  fun agree => absurd (agree j).abs_sub_le (not_le.2 apart)

end Agree

/-- The points are those of a list, in order, that agree with no earlier one. -/
def IsFirsts {n : Nat} (visited points : List (Fin n → Rat)) : Prop :=
  ∃ places : List (Fin visited.length), places.Pairwise (· < ·) ∧ points = places.map visited.get ∧
    ∀ i, i ∈ places ↔ ∀ k < i, ¬Agree (visited.get k) (visited.get i)

namespace IsFirsts

variable {n : Nat} {visited points : List (Fin n → Rat)}

theorem subset (h : IsFirsts visited points) : points ⊆ visited := by
  obtain ⟨places, _, rfl, _⟩ := h
  intro x mem
  obtain ⟨i, _, rfl⟩ := List.mem_map.1 mem
  exact List.get_mem visited i

theorem pairwise (h : IsFirsts visited points) : points.Pairwise fun x y => ¬Agree x y := by
  obtain ⟨places, ascending, rfl, mem_iff⟩ := h
  refine List.pairwise_map.2 (ascending.imp_of_mem fun {k i} _ mem less => ?_)
  exact (mem_iff i).1 mem k less

/-- Every point agrees with the first one that does, and this one is kept. -/
theorem exists_agree (h : IsFirsts visited points) {x : Fin n → Rat} (mem : x ∈ visited) : ∃ y ∈ points, Agree x y := by
  obtain ⟨places, _, rfl, mem_iff⟩ := h
  obtain ⟨i, rfl⟩ := List.get_of_mem mem
  obtain ⟨k, agree, first⟩ := exists_minimal_of_wellFoundedLT (fun k => Agree (visited.get i) (visited.get k))
    ⟨i, Agree.refl _⟩
  refine ⟨_, List.mem_map.2 ⟨k, (mem_iff k).2 fun l less same => ?_, rfl⟩, agree⟩
  exact absurd (first (agree.trans same.symm) less.le) (not_le.2 less)

end IsFirsts

theorem Listing.distinctPoints_isFirsts {n : Nat} (visited : List (Fin n → Rat)) :
    ∃ points, distinctPoints [] (visited.map List.ofFn) = points.map List.ofFn ∧ IsFirsts visited points := by
  obtain ⟨places, ascending, kept, mem⟩ := distinctPoints_eq_map_get [] visited
  refine ⟨_, kept, places, ascending, rfl, fun i => ?_⟩
  rw [mem, IsNew, and_iff_right List.not_mem_nil]
  exact forall₂_congr fun k _ => not_congr key_eq_iff

/-! ### Vertices of feasible dictionaries -/

namespace Dictionary

variable {m n : Nat} {p : Program Rat m n}

theorem isVertex_of_isFeasible {s : Split m n} (h : (ofSplit p s).isFeasible = true) :
    ∃ x, p.IsVertex x ∧ (ofSplit p s).point = List.ofFn x := by
  obtain ⟨x, certified⟩ := certifies_ofSplit h
  refine ⟨x, Program.isVertex_iff_exists_isBasis.2 ⟨certified.feasible.1 h, s, ?_, fun j => ?_⟩, certified.point⟩
  · exact isBasic_build_iff.1 (isBasic_of_isFeasible h)
  · apply certified.nonBasic _
    rw [ofSplit, build_partition]
    exact Split.mem_partition_nonBasic.2 (Split.not_mem_basic.2 ⟨j, rfl⟩)

theorem exists_isFeasible_of_isVertex {x : Fin n → Rat} (h : p.IsVertex x) :
    ∃ s : Split m n, (ofSplit p s).isFeasible = true ∧ (ofSplit p s).point = List.ofFn x := by
  obtain ⟨mem, s, isBasis, zero⟩ := Program.isVertex_iff_exists_isBasis.1 h
  obtain ⟨y, certified⟩ := exists_certifies (p := p) s.check_partition le_rfl (isBasic_build_iff.2 isBasis)
  obtain rfl : x = y := by
    apply isBasis.eq_of_withSlacks
    intro j
    rw [zero, certified.nonBasic]
    rw [build_partition]
    exact Split.mem_partition_nonBasic.2 (Split.not_mem_basic.2 ⟨j, rfl⟩)
  exact ⟨s, certified.feasible.2 mem, certified.point⟩

end Dictionary

namespace Enumeration

variable {p : Problem Rat} {c : Config Rat} {probe : Probe} {progress : Progress} {e : Enumeration Rat}

/-- The points of the feasible dictionaries are the extreme points of the region, in some order. -/
theorem exists_visited (run : enumerate? p c probe progress = .ok e) (exhaustive : c.IsExhaustive)
    (uncancelled : e.cancelled = false) : ∃ visited : List (Fin p.numVars → Rat),
      (e.dictionaries.filter Dictionary.isFeasible).map Dictionary.point = visited.map List.ofFn ∧
      ∀ x, x ∈ visited ↔ x ∈ p.region.extremePoints Rat := by
  have mem_points (point : List Rat) : point ∈ (e.dictionaries.filter Dictionary.isFeasible).map Dictionary.point ↔
      ∃ x ∈ p.region.extremePoints Rat, point = List.ofFn x := by
    rw [List.mem_map]
    refine ⟨?_, ?_⟩
    · intro h
      obtain ⟨d, mem, rfl⟩ := h
      obtain ⟨mem, feasible⟩ := List.mem_filter.1 mem
      obtain ⟨s, rfl⟩ := (mem_dictionaries_iff run exhaustive uncancelled).1 mem
      obtain ⟨x, vertex, point⟩ := Dictionary.isVertex_of_isFeasible feasible
      exact ⟨x, vertex.mem_extremePoints, point⟩
    · intro h
      obtain ⟨x, extreme, rfl⟩ := h
      obtain ⟨s, feasible, point⟩ := Dictionary.exists_isFeasible_of_isVertex (p := p.program)
        (Program.isVertex_of_mem_extremePoints extreme)
      exact ⟨_, List.mem_filter.2 ⟨(mem_dictionaries_iff run exhaustive uncancelled).2 ⟨s, rfl⟩, feasible⟩, point⟩
  have inRange : (e.dictionaries.filter Dictionary.isFeasible).map Dictionary.point ∈
      Set.range (List.map (List.ofFn : (Fin p.numVars → Rat) → List Rat)) := by
    rw [Set.range_list_map]
    intro point mem
    obtain ⟨x, _, rfl⟩ := (mem_points point).1 mem
    exact ⟨x, rfl⟩
  obtain ⟨visited, same⟩ := inRange
  refine ⟨visited, same.symm, fun x => ?_⟩
  rw [← List.mem_map_of_injective List.ofFn_injective, same, mem_points]
  refine ⟨?_, ?_⟩
  · intro h
    obtain ⟨y, extreme, point⟩ := h
    rwa [List.ofFn_injective point]
  · exact fun extreme => ⟨x, extreme, rfl⟩

/-- For every problem, an exact run over all partitions that is not cancelled, whatever the workers do, lists the
extreme points of the region up to rounding: of the points of its feasible dictionaries, all of which are extreme, it
keeps those that agree with no earlier one, and every extreme point agrees with one of these. If extreme points are never
within a billionth of each other in all coordinates, then the list has each of them once. -/
theorem feasiblePoints_of_run (p : Problem Rat) (c : Config Rat) (probe : Probe) (progress : Progress)
    (e : Enumeration Rat) (run : enumerate? p c probe progress = .ok e) (exhaustive : c.IsExhaustive)
    (uncancelled : e.cancelled = false) :
    ∃ visited points : List (Fin p.numVars → Rat),
      (e.dictionaries.filter Dictionary.isFeasible).map Dictionary.point = visited.map List.ofFn ∧
      e.feasiblePoints = points.map List.ofFn ∧
      (∀ x ∈ points, x ∈ p.region.extremePoints Rat) ∧
      (∀ x ∈ p.region.extremePoints Rat, ∃ y ∈ points, Agree x y) ∧
      points.Pairwise (fun x y => ¬Agree x y) ∧
      IsFirsts visited points ∧
      ((∀ x ∈ p.region.extremePoints Rat, ∀ y ∈ p.region.extremePoints Rat, x ≠ y →
          ∃ j, 1 / 1000000000 < |x j - y j|) →
        points.Nodup ∧ ∀ x, x ∈ points ↔ x ∈ p.region.extremePoints Rat) := by
  obtain ⟨visited, feasible, mem_visited⟩ := exists_visited run exhaustive uncancelled
  obtain ⟨points, kept, firsts⟩ := Listing.distinctPoints_isFirsts visited
  have sound : ∀ x ∈ points, x ∈ p.region.extremePoints Rat := fun x mem => (mem_visited x).1 (firsts.subset mem)
  have complete : ∀ x ∈ p.region.extremePoints Rat, ∃ y ∈ points, Agree x y :=
    fun x extreme => firsts.exists_agree ((mem_visited x).2 extreme)
  refine ⟨visited, points, feasible, ?_, sound, complete, firsts.pairwise, firsts, fun apart => ⟨?_, fun x => ⟨sound x, ?_⟩⟩⟩
  · rw [feasiblePoints, feasible, kept]
  · refine firsts.pairwise.imp fun disagree => ?_
    intro same
    subst same
    exact disagree (Agree.refl _)
  · intro extreme
    obtain ⟨y, mem, agree⟩ := complete x extreme
    obtain rfl : x = y := by_contra fun other => by
      obtain ⟨j, far⟩ := apart x extreme y (sound y mem) other
      exact not_agree_of_lt far agree
    exact mem

theorem feasiblePoints_of_run_of_ramp : ∃ e,
    enumerate? .ramp (.exact 1 Nat.one_pos) (fun _ => false) (fun _ _ => false) = .ok e ∧
      (Config.exact 1 Nat.one_pos).IsExhaustive ∧ e.cancelled = false ∧ e.feasiblePoints = [[1 / 2], [0]] ∧
      ∀ point ∈ e.feasiblePoints, ∃ x ∈ Problem.ramp.region.extremePoints Rat, List.ofFn x = point := by
  have run : enumerate? .ramp (.exact 1 Nat.one_pos) (fun _ => false) (fun _ _ => false) =
      .ok (enumerate .ramp (.exact 1 Nat.one_pos) (fun _ => false) fun _ _ => false) := rfl
  have exhaustive := Config.isExhaustive_exact Nat.one_pos
  have uncancelled := cancelled_of_run run fun _ => rfl
  obtain ⟨_, points, _, listed, extreme, _⟩ := feasiblePoints_of_run _ _ _ _ _ run exhaustive uncancelled
  refine ⟨_, run, exhaustive, uncancelled, by decide +kernel, fun point mem => ?_⟩
  rw [listed] at mem
  obtain ⟨x, kept, rfl⟩ := List.mem_map.1 mem
  exact ⟨x, extreme x kept, rfl⟩

end Enumeration

end Polyhedra
