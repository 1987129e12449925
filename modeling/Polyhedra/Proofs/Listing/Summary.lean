import Mathlib
import Polyhedra.Listing.Summary

/-!
# Summaries of parts

A tally knows how often each text occurs, whatever the order in which the texts came. So the summary of a listing that is
put together from parts has the sums of the parts' counts.
-/

namespace Polyhedra.Listing

def frequency (counts : List (String × Nat)) (text : String) : Nat :=
  (counts.lookup text).getD 0

theorem frequency_cons (t : String) (k : Nat) (counts : List (String × Nat)) (text : String) :
    frequency ((t, k) :: counts) text = if text = t then k else frequency counts text := by
  rw [frequency, List.lookup_cons]
  by_cases h : text = t
  · simp [h]
  · rw [if_neg h, beq_false_of_ne h, frequency]

theorem frequency_countOne (counts : List (String × Nat)) (added text : String) :
    frequency (countOne added counts) text = frequency counts text + if text = added then 1 else 0 := by
  induction counts with
  | nil => rw [countOne, frequency_cons, frequency, List.lookup_nil, Option.getD_none, Nat.zero_add]
  | cons entry counts ih =>
    obtain ⟨t, k⟩ := entry
    rw [countOne, frequency_cons]
    split
    · rename_i same
      subst same
      rw [frequency_cons]
      split <;> rfl
    · rename_i other
      rw [frequency_cons, ih]
      split
      · rename_i here
        rw [if_neg (here ▸ other), Nat.add_zero]
      · rfl

theorem frequency_tally (texts : List String) (text : String) : frequency (tally texts) text = texts.count text := by
  have counted (counts : List (String × Nat)) :
      frequency (texts.foldl (fun counts text => countOne text counts) counts) text =
        frequency counts text + texts.count text := by
    induction texts generalizing counts with
    | nil => rfl
    | cons added texts ih =>
      rw [List.foldl_cons, ih, frequency_countOne, List.count_cons]
      simp only [beq_iff_eq, eq_comm (a := text)]
      omega
  rw [tally, counted]
  exact Nat.zero_add _

theorem sum_countOne (counts : List (String × Nat)) (added : String) :
    ((countOne added counts).map Prod.snd).sum = (counts.map Prod.snd).sum + 1 := by
  induction counts with
  | nil => rfl
  | cons entry counts ih =>
    rw [countOne]
    split
    · simp only [List.map_cons, List.sum_cons]
      omega
    · simp only [List.map_cons, List.sum_cons, ih]
      omega

theorem sum_tally (texts : List String) : ((tally texts).map Prod.snd).sum = texts.length := by
  have counted (counts : List (String × Nat)) :
      ((texts.foldl (fun counts text => countOne text counts) counts).map Prod.snd).sum =
        (counts.map Prod.snd).sum + texts.length := by
    induction texts generalizing counts with
    | nil => rfl
    | cons added texts ih =>
      rw [List.foldl_cons, ih, sum_countOne, List.length_cons]
      omega
  rw [tally, counted]
  exact Nat.zero_add _

structure Summary.IsSum {count : Nat} (whole : Summary) (parts : Fin count → Summary) : Prop where
  total : whole.total = ∑ i, (parts i).total
  valid : whole.valid = ∑ i, (parts i).valid
  basic : whole.basic = ∑ i, (parts i).basic
  feasible : whole.feasible = ∑ i, (parts i).feasible
  optimal : whole.optimal = ∑ i, (parts i).optimal
  unbounded : whole.unbounded = ∑ i, (parts i).unbounded
  statuses : ∀ text, frequency whole.statuses text = ∑ i, frequency (parts i).statuses text
  messages : ∀ text, frequency whole.messages text = ∑ i, frequency (parts i).messages text

section Sums

variable {α β : Type} {count : Nat}

theorem countP_flatMap_finRange (f : Fin count → List β) (q : β → Bool) :
    ((List.finRange count).flatMap f).countP q = ∑ i, (f i).countP q := by
  rw [List.countP_flatMap, Fin.sum_univ_def]
  rfl

theorem frequency_tally_flatMap (f : Fin count → List β) (label : β → String) (text : String) :
    frequency (tally (((List.finRange count).flatMap f).map label)) text =
      ∑ i, frequency (tally ((f i).map label)) text := by
  simp only [frequency_tally, List.count, List.countP_map]
  exact countP_flatMap_finRange f _

theorem summary_flatMap (f : Fin count → List (Entry α)) :
    (summary ((List.finRange count).flatMap f)).IsSum fun i => summary (f i) where
  total := by
    rw [Fin.sum_univ_def]
    exact List.length_flatMap
  valid := countP_flatMap_finRange f _
  basic := countP_flatMap_finRange f _
  feasible := countP_flatMap_finRange f _
  optimal := countP_flatMap_finRange f _
  unbounded := countP_flatMap_finRange f _
  statuses := frequency_tally_flatMap f Entry.status
  messages := frequency_tally_flatMap f Entry.message

end Sums

end Polyhedra.Listing
