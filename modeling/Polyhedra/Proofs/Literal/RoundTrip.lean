import Mathlib
import Polyhedra.Literal
import Polyhedra.Proofs.Decimal.Special
import Polyhedra.Proofs.Decimal.Texts
import Polyhedra.Proofs.Text.Words

/-!
# Literals read back

The literal of a matrix is cut into its rows at the semicolons and a row into its entries at the blanks, since the text
of a number has neither in it. Pieces without words are dropped, so a matrix without columns leaves no rows at all, like
a matrix without rows; a literal that was accepted never gives such a matrix.

That the text of a finite double reads back is taken for granted for the entries which occur.
-/

namespace Polyhedra

open Polyhedra.Text

/-! ### Lists of texts -/

theorem mapM_eq_some_iff {β γ : Type} {f : β → Option γ} {xs : List β} {ys : List γ} :
    xs.mapM f = some ys ↔ List.Forall₂ (fun x y => f x = some y) xs ys := by
  induction xs generalizing ys with
  | nil =>
    rw [List.mapM_nil, List.forall₂_nil_left_iff]
    exact Option.some_inj.trans eq_comm
  | cons x xs ih =>
    simp only [List.mapM_cons, List.forall₂_cons_left_iff, Option.bind_eq_bind, Option.bind_eq_some_iff, ih,
      Option.pure_def, Option.some.injEq]
    refine ⟨?_, ?_⟩
    · intro h
      obtain ⟨y, first, others, rest, rfl⟩ := h
      exact ⟨y, others, first, rest, rfl⟩
    · intro h
      obtain ⟨y, others, first, rest, rfl⟩ := h
      exact ⟨y, first, others, rest, rfl⟩

theorem mapM_eq_some_of_reads {β γ : Type} {text : β → γ} {read? : γ → Option β} {xs : List β}
    (each : ∀ x ∈ xs, read? (text x) = some x) : (xs.map text).mapM read? = some xs := by
  rw [mapM_eq_some_iff, List.forall₂_map_left_iff, List.forall₂_same]
  exact each

theorem toOption_mapM {ε β γ : Type} {f : β → Except ε γ} {g : β → Option γ} (same : ∀ x, (f x).toOption = g x)
    (xs : List β) : (xs.mapM f).toOption = xs.mapM g := by
  induction xs with
  | nil => rfl
  | cons x xs ih =>
    rw [List.mapM_cons, List.mapM_cons, ← same, ← ih]
    cases f x with
    | error e => rfl
    | ok y => cases xs.mapM f <;> rfl

/-! ### Rows of a matrix -/

namespace Grid

variable {α : Type} {r c : Nat}

theorem length_toLists (g : Grid α r c) : g.toLists.length = r := by
  rw [toLists, List.length_map, List.length_finRange]

theorem length_of_mem_toLists {g : Grid α r c} {row : List α} (mem : row ∈ g.toLists) : row.length = c := by
  obtain ⟨i, _, rfl⟩ := List.mem_map.1 mem
  rw [List.length_map, List.length_finRange]

theorem ofLists_toLists (default : α) (g : Grid α r c) : ofLists default g.toLists = g := by
  ext i j
  simp [ofLists, toLists]

end Grid

namespace DenseMatrix

variable {α : Type}

theorem length_toLists (a : DenseMatrix α) : a.toLists.length = a.rows :=
  a.entries.length_toLists

variable [Zero α]

theorem ofRows?_toLists (a : DenseMatrix α) (nonempty : 0 < a.rows) : ofRows? a.toLists = .ok a := by
  obtain ⟨r, c, g⟩ := a
  have width (row : List α) (mem : row ∈ g.toLists) : row.length = c := Grid.length_of_mem_toLists mem
  have entries := Grid.ofLists_toLists 0 g
  have height := g.length_toLists
  rw [toLists]
  cases rows : g.toLists with
  | nil =>
    rw [rows] at height
    exact absurd height nonempty.ne
  | cons first others =>
    rw [rows] at width entries height
    have even : (first :: others).findIdx? (fun row => row.length != first.length) = none := by
      rw [List.findIdx?_eq_none_iff]
      intro row mem
      rw [width row mem, width first List.mem_cons_self, bne_self_eq_false]
    -- With the size read off the lists, the matrix made has the type of the first one.
    obtain rfl := width first List.mem_cons_self
    obtain rfl := height
    rw [ofRows?, even]
    dsimp only
    rw [entries]

theorem size_of_ofRows? {first : List α} {others : List (List α)} {a : DenseMatrix α}
    (made : ofRows? (first :: others) = .ok a) : a.rows = others.length + 1 ∧ a.cols = first.length := by
  rw [ofRows?] at made
  split at made
  · cases made
  · obtain rfl := Except.ok.inj made
    exact ⟨rfl, rfl⟩

end DenseMatrix

/-! ### Literals -/

namespace Literal

variable {α : Type} [Numeral α]

/-- A number that stands in a literal as a single word and reads back. -/
structure Writes (x : α) : Prop where
  word : IsWord (Numeral.text x).toList
  free : ';' ∉ (Numeral.text x).toList
  reads : Numeral.read? (Numeral.text x).toList = some x

def line (row : List α) : String :=
  joined " " (row.map Numeral.text)

theorem words_line {row : List α} (each : ∀ x ∈ row, Writes x) :
    words (line row).toList = row.map fun x => (Numeral.text x).toList := by
  rw [line, words_joined, List.map_map]
  · rfl
  · intro item mem
    obtain ⟨x, here, rfl⟩ := List.mem_map.1 mem
    exact (each x here).word

theorem semicolon_notMem_line {row : List α} (each : ∀ x ∈ row, Writes x) : ';' ∉ (line row).toList := by
  apply notMem_joined (by decide)
  intro item mem
  obtain ⟨x, here, rfl⟩ := List.mem_map.1 mem
  exact (each x here).free

theorem words_rowTexts (cs : List Char) :
    (rowTexts cs).map words = ((pieces ';' cs).map words).filter fun row => !row.isEmpty := by
  rw [rowTexts, List.filter_map]
  rfl

/-- The rows of a literal are the numbers which its words write, taken piece by piece. -/
theorem toOption_rows? (literal : String) : (rows? literal : Except MatrixFault (List (List α))).toOption =
    ((rowTexts literal.toList).map words).mapM fun row => row.mapM Numeral.read? := by
  rw [rows?, List.mapM_map]
  apply toOption_mapM
  intro row
  rw [Function.comp_apply, readRow?]
  cases (words row).mapM (Numeral.read? (α := α)) <;> rfl

theorem rows?_eq_ok_iff {literal : String} {rows : List (List α)} : rows? literal = .ok rows ↔
    ((rowTexts literal.toList).map words).mapM (fun row => row.mapM Numeral.read?) = some rows := by
  rw [← toOption_rows?]
  cases (rows? literal : Except MatrixFault (List (List α))) <;> simp [Except.toOption]

/-- The words of a literal are found again, except that rows without entries are lost. -/
theorem words_rowTexts_joined {rows : List (List α)} (each : ∀ row ∈ rows, ∀ x ∈ row, Writes x) :
    (rowTexts (joined "; " (rows.map line)).toList).map words =
      (rows.map fun row => row.map fun x => (Numeral.text x).toList).filter fun row => !row.isEmpty := by
  by_cases empty : rows = []
  · subst empty
    rfl
  · have free : ∀ text ∈ rows.map line, ';' ∉ text.toList := by
      intro text mem
      obtain ⟨row, here, rfl⟩ := List.mem_map.1 mem
      exact semicolon_notMem_line (each row here)
    rw [words_rowTexts, words_pieces_joined free (by simpa using empty), List.map_map]
    congr 1
    apply List.map_congr_left
    intro row here
    exact words_line (each row here)

theorem rows?_joined {rows : List (List α)} (each : ∀ row ∈ rows, ∀ x ∈ row, Writes x)
    (filled : ∀ row ∈ rows, row ≠ []) : rows? (joined "; " (rows.map line)) = .ok rows := by
  have kept : (rows.map fun row => row.map fun x => (Numeral.text x).toList).filter (fun row => !row.isEmpty) =
      rows.map fun row => row.map fun x => (Numeral.text x).toList := by
    rw [List.filter_eq_self]
    intro texts mem
    obtain ⟨row, here, rfl⟩ := List.mem_map.1 mem
    simpa using filled row here
  rw [rows?_eq_ok_iff, words_rowTexts_joined each, kept]
  apply mapM_eq_some_of_reads
  intro row here
  exact mapM_eq_some_of_reads fun x mem => (each row here x mem).reads

theorem rows?_joined_of_nil {rows : List (List α)} (empty : ∀ row ∈ rows, row = []) :
    rows? (joined "; " (rows.map line)) = .ok ([] : List (List α)) := by
  have dropped : (rows.map fun row => row.map fun x => (Numeral.text x).toList).filter (fun row => !row.isEmpty) = [] := by
    rw [List.filter_eq_nil_iff]
    intro texts mem
    obtain ⟨row, here, rfl⟩ := List.mem_map.1 mem
    simp [empty row here]
  have each : ∀ row ∈ rows, ∀ x ∈ row, Writes x := by
    intro row here x mem
    rw [empty row here] at mem
    exact absurd mem List.not_mem_nil
  rw [rows?_eq_ok_iff, words_rowTexts_joined each, dropped]
  rfl

/-- The first row of a literal has an entry, since a piece without words is no row. -/
theorem ne_nil_of_rows? {literal : String} {first : List α} {others : List (List α)}
    (h : rows? literal = .ok (first :: others)) : first ≠ [] := by
  rw [rows?_eq_ok_iff, mapM_eq_some_iff, List.forall₂_cons_right_iff] at h
  obtain ⟨texts, rest, reads, _, found⟩ := h
  have piece : texts ∈ (rowTexts literal.toList).map words := found ▸ List.mem_cons_self
  rw [words_rowTexts, List.mem_filter] at piece
  have lengths := (mapM_eq_some_iff.1 reads).length_eq
  intro empty
  rw [empty, List.length_nil, List.length_eq_zero_iff] at lengths
  rw [lengths] at piece
  exact absurd piece.2 (by decide)

theorem literal_eq (a : DenseMatrix α) : a.literal = joined "; " (a.toLists.map line) := rfl

variable [Zero α]

theorem size_of_matrix? {literal : String} {a : DenseMatrix α} (accepted : matrix? literal = .ok a) :
    0 < a.rows ∧ 0 < a.cols := by
  rw [matrix?] at accepted
  split at accepted
  · cases accepted
  · cases accepted
  · rename_i rows nonempty read
    cases rows with
    | nil => exact absurd rfl nonempty
    | cons first others =>
      obtain ⟨height, width⟩ := DenseMatrix.size_of_ofRows? accepted
      rw [height, width]
      exact ⟨Nat.succ_pos _, List.length_pos_iff.2 (ne_nil_of_rows? read)⟩

theorem matrix?_literal {a : DenseMatrix α} (each : ∀ i j, Writes (a.entries.entry i j)) (rows : 0 < a.rows)
    (cols : 0 < a.cols) : matrix? a.literal = .ok a := by
  have entries : ∀ row ∈ a.toLists, ∀ x ∈ row, Writes x := by
    intro row here x mem
    obtain ⟨i, _, rfl⟩ := List.mem_map.1 here
    obtain ⟨j, _, rfl⟩ := List.mem_map.1 mem
    exact each i j
  have filled : ∀ row ∈ a.toLists, row ≠ [] := by
    intro row here
    rw [← List.length_pos_iff, Grid.length_of_mem_toLists here]
    exact cols
  have height := a.length_toLists
  have made := DenseMatrix.ofRows?_toLists a rows
  rw [matrix?, literal_eq, rows?_joined entries filled]
  -- The rows have to be seen to be some before they are made a matrix.
  cases lists : a.toLists with
  | nil =>
    rw [lists] at height
    exact absurd height rows.ne
  | cons first others =>
    rw [lists] at made
    exact made

theorem matrix?_literal_of_empty {a : DenseMatrix α} (empty : a.rows = 0 ∨ a.cols = 0) :
    matrix? a.literal = (.error (.noRows a.literal) : Except MatrixFault (DenseMatrix α)) := by
  have blank : ∀ row ∈ a.toLists, row = [] := by
    intro row here
    rcases empty with rows | cols
    · have positive := List.length_pos_of_mem here
      rw [a.length_toLists, rows] at positive
      exact absurd positive (lt_irrefl 0)
    · rw [← List.length_eq_zero_iff, Grid.length_of_mem_toLists here, cols]
  rw [matrix?, literal_eq, rows?_joined_of_nil blank]

/-! ### Doubles -/

theorem writes_double {x : Float} (reads : ∀ negative m e, Decimal.Binary64.decode x = .finite negative m e →
    Decimal.float? (Decimal.shortestText x).toList = some x) : Writes x where
  word := Decimal.isWord_shortestText x
  free := (Decimal.isNumberText_shortestText x).notMem_semicolon
  reads := by
    by_cases finite : ∃ negative m e, Decimal.Binary64.decode x = .finite negative m e
    · obtain ⟨negative, m, e, decoded⟩ := finite
      exact reads negative m e decoded
    · push Not at finite
      exact Decimal.float?_shortestText_of_special finite

/-- A matrix of doubles is read back from its literal, the special values included, and so is every matrix that was read
from some text. Only a matrix without rows or without columns is not: its literal has no rows. -/
theorem matrix?_literal_doubles (a : DenseMatrix Float)
    (reads : ∀ i j negative m e, Decimal.Binary64.decode (a.entries.entry i j) = .finite negative m e →
      Decimal.float? (Decimal.shortestText (a.entries.entry i j)).toList = some (a.entries.entry i j)) :
    (0 < a.rows → 0 < a.cols → matrix? a.literal = .ok a) ∧
      (∀ literal, matrix? literal = .ok a → matrix? a.literal = .ok a) ∧
      (a.rows = 0 ∨ a.cols = 0 →
        matrix? a.literal = (.error (.noRows a.literal) : Except MatrixFault (DenseMatrix Float)) ∧
          (MatrixFault.noRows a.literal).kind = .malformedLiteral) := by
  have each (i : Fin a.rows) (j : Fin a.cols) := writes_double (reads i j)
  refine ⟨matrix?_literal each, ?_, ?_⟩
  · intro literal accepted
    obtain ⟨rows, cols⟩ := size_of_matrix? accepted
    exact matrix?_literal each rows cols
  · intro empty
    exact ⟨matrix?_literal_of_empty empty, rfl⟩

/-- Negative zero, the infinities and NaN, and below them the least double and numbers with and without an exponent. -/
def extremes : DenseMatrix Float :=
  ⟨2, 4, .ofLists 0 [[-0.0, 1 / 0, 0 / 0, -1 / 0], [5e-324, 0.1, -1e22, 3]]⟩

theorem matrix?_literal_extremes :
    extremes.literal = "-0.0 inf nan -inf; 5e-324 0.1 -1e+22 3.0" ∧ 0 < extremes.rows ∧ 0 < extremes.cols ∧
      matrix? "-0.0 inf nan -inf; 5e-324 0.1 -1e+22 3.0" = .ok extremes := by
  have reads : ∀ i j, Decimal.float? (Decimal.shortestText (extremes.entries.entry i j)).toList =
      some (extremes.entries.entry i j) := by decide +kernel
  have literal : extremes.literal = "-0.0 inf nan -inf; 5e-324 0.1 -1e+22 3.0" := by decide +kernel
  have rows : 0 < extremes.rows := by decide
  have cols : 0 < extremes.cols := by decide
  have accepted := (matrix?_literal_doubles extremes fun i j _ _ _ _ => reads i j).1 rows cols
  rw [literal] at accepted
  exact ⟨literal, rows, cols, accepted⟩

end Literal

end Polyhedra
