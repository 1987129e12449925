/-!
# Combinations

The selections of `k` elements from a list, in lexicographic order, made in three ways: all at once, one
after the other, and by position in the order.
-/

namespace Polyhedra

/-- The number of ways to pick `k` of `n` things. -/
def binomial (n k : Nat) : Nat :=
  if n < k then 0
  else (List.range (min k (n - k))).foldl (fun c i => c * (n - i) / (i + 1)) 1

/-- The integers from zero up to a count, the count left out. -/
def indices (count : Nat) : List Int :=
  (List.range count).map Int.ofNat

/-- All selections of `k` elements, those with the first element before those without it. -/
def combinations {α : Type} : Nat → List α → List (List α)
  | 0, _ => [[]]
  | _ + 1, [] => []
  | k + 1, x :: xs => (combinations k xs).map (x :: ·) ++ combinations (k + 1) xs

/-- The ascending run of `length` integers that starts at `first`. -/
def runFrom (first : Int) : Nat → List Int
  | 0 => []
  | length + 1 => first :: runFrom (first + 1) length

/-- The next selection after an ascending one below a limit, if there is one: the last element that has
room moves up by one, and those after it follow on directly. -/
def successor? (limit : Int) : List Int → Option (List Int)
  | [] => none
  | x :: rest =>
    match successor? limit rest with
    | some next => some (x :: next)
    | none =>
      if x < limit - (rest.length + 1) then some (runFrom (x + 1) (rest.length + 1)) else none

/-- A selection and those that follow it, at most `count` of them in all. -/
def walk (limit : Int) : Nat → List Int → List (List Int)
  | 0, _ => []
  | count + 1, selection =>
    selection :: match successor? limit selection with
      | some next => walk limit count next
      | none => []

/-- The selection of `k` of the `left` integers from `first` on that has a given rank. The selections
that hold `first` come before the others, and there are as many as ways to pick the rest. The search
has no answer when it runs out of integers. -/
def unrank? : (left k first rank : Nat) → Option (List Int)
  | _, 0, _, _ => some []
  | 0, _ + 1, _, _ => none
  | left + 1, k + 1, first, rank =>
    let block := binomial left k
    if rank < block then (unrank? left k (first + 1) rank).map ((first : Int) :: ·)
    else unrank? left (k + 1) (first + 1) (rank - block)

/-- The rank of a selection among those from the integers `first`, `first + 1`, … below a limit: at each
place, the selections that agree so far and have a smaller element there. -/
def rankFrom (limit : Nat) : (first : Nat) → List Int → Nat
  | _, [] => 0
  | first, x :: rest =>
    ((List.range' first (x.toNat - first)).map fun skipped =>
      binomial (limit - 1 - skipped) rest.length).sum + rankFrom limit (x.toNat + 1) rest

end Polyhedra
