import Mathlib
import Polyhedra.Proofs.Literal.RoundTrip

/-!
# What a literal has to look like

A text is a literal if it has rows, every word in them is a number, and the rows have equally many words. Rows are what
stands between semicolons and is not blank throughout. A word that is no number is what is reported first, wherever it
stands; then a text without rows; then the first row that is longer or shorter than the first. Blanks and semicolons put
beside a semicolon, or at an end of the text, make no new rows, so they do not change what is read.

Which words are numbers is left to the scalars.
-/

namespace Polyhedra

open Polyhedra.Text

variable {α : Type}

/-! ### Rows that make a matrix -/

theorem mapM_eq_some_iff_map {β γ : Type} {f : β → Option γ} {xs : List β} {ys : List γ} :
    xs.mapM f = some ys ↔ xs.map f = ys.map some := by
  rw [mapM_eq_some_iff, ← List.forall₂_eq_eq_eq, List.forall₂_map_left_iff, List.forall₂_map_right_iff]

theorem mapM_eq_error {ε β γ : Type} {f : β → Except ε γ} {before after : List β} {x : β} {e : ε}
    (fine : ∀ y ∈ before, ∃ z, f y = .ok z) (here : f x = .error e) : (before ++ x :: after).mapM f = .error e := by
  induction before with
  | nil =>
    rw [List.nil_append, List.mapM_cons, here]
    rfl
  | cons y before ih =>
    obtain ⟨z, first⟩ := fine y List.mem_cons_self
    rw [List.cons_append, List.mapM_cons, first, ih fun other mem => fine other (List.mem_cons_of_mem _ mem)]
    rfl

theorem Grid.toLists_ofLists {c : Nat} {rows : List (List α)} (default : α) (even : ∀ row ∈ rows, row.length = c) :
    (ofLists default rows : Grid α rows.length c).toLists = rows := by
  apply List.ext_getElem (by rw [length_toLists])
  intro i _ hi
  have width := even rows[i] (List.getElem_mem hi)
  apply List.ext_getElem (by simp [toLists, width])
  intro j _ hj
  simp [toLists, ofLists, hj]

namespace DenseMatrix

variable [Zero α]

theorem ofRows?_of_even {first : List α} {others : List (List α)}
    (even : ∀ row ∈ first :: others, row.length = first.length) :
    ∃ a, ofRows? (first :: others) = .ok a ∧ a.toLists = first :: others := by
  have allEven : (first :: others).findIdx? (fun row => row.length != first.length) = none := by
    rw [List.findIdx?_eq_none_iff]
    intro row mem
    rw [even row mem, bne_self_eq_false]
  rw [ofRows?, allEven]
  exact ⟨_, rfl, Grid.toLists_ofLists 0 even⟩

theorem ofRows?_of_uneven {first row : List α} {others before after : List (List α)}
    (split : first :: others = before ++ row :: after) (even : ∀ r ∈ before, r.length = first.length)
    (uneven : row.length ≠ first.length) :
    ofRows? (first :: others) = .error (.ragged first.length row.length before.length) := by
  have evenBefore : before.findIdx? (fun row => row.length != first.length) = none := by
    rw [List.findIdx?_eq_none_iff]
    intro r mem
    rw [even r mem, bne_self_eq_false]
  have found : (first :: others).findIdx? (fun row => row.length != first.length) = some before.length := by
    rw [split, List.findIdx?_append, evenBefore, List.findIdx?_cons, if_pos (bne_iff_ne.2 uneven)]
    simp
  rw [ofRows?, found]
  dsimp only
  rw [split, List.getD_append_right _ _ _ _ le_rfl, Nat.sub_self, List.getD_cons_zero]

end DenseMatrix

/-! ### Rows and words -/

namespace Literal

/-- What stands between the semicolons of a text and is not blank throughout. -/
def rowsOf (text : List Char) : List (List Char) :=
  (text.splitOn ';').filter fun row => row.any fun c => !isBlank c

/-- What stands between the blanks of a row, where anything does. -/
def wordsOf (row : List Char) : List (List Char) :=
  (row.splitOnP isBlank).filter fun word => !word.isEmpty

theorem rowTexts_eq (text : List Char) : rowTexts text = rowsOf text := by
  rw [rowTexts, rowsOf, pieces_eq_splitOn]
  apply List.filter_congr
  intro row _
  rw [Bool.eq_iff_iff, Bool.not_eq_true', List.isEmpty_eq_false_iff, Ne, words_eq_nil_iff, List.any_eq_true]
  simp

theorem words_eq (row : List Char) : words row = wordsOf row :=
  words_eq_splitOnP row

variable [Numeral α]

variable (α) in
def IsNumeric (row : List Char) : Prop :=
  ∀ word ∈ wordsOf row, ∃ x : α, Numeral.read? word = some x

theorem isNumeric_iff {row : List Char} :
    IsNumeric α row ↔ ∃ values : List α, (wordsOf row).map Numeral.read? = values.map some := by
  have all : (∃ values : List α, values.map some = (wordsOf row).map Numeral.read?) ↔
      ∀ o ∈ (wordsOf row).map (Numeral.read? (α := α)), ∃ x, some x = o :=
    Set.ext_iff.1 (Set.range_list_map some) _
  simp only [List.forall_mem_map, eq_comm (a := some _)] at all
  rw [IsNumeric, ← all]
  exact exists_congr fun values => eq_comm

/-- What is read from a text are the numbers that its words write. -/
theorem rows?_eq_ok_iff_map {literal : String} {values : List (List α)} : rows? literal = .ok values ↔
    ((rowsOf literal.toList).map fun row => (wordsOf row).map Numeral.read?) = values.map (·.map some) := by
  rw [rows?_eq_ok_iff, mapM_eq_some_iff, List.forall₂_map_left_iff, rowTexts_eq, ← List.forall₂_eq_eq_eq,
    List.forall₂_map_left_iff, List.forall₂_map_right_iff]
  simp only [mapM_eq_some_iff_map, words_eq]

theorem exists_rows?_of_numeric {literal : String} (numeric : ∀ row ∈ rowsOf literal.toList, IsNumeric α row) :
    ∃ values : List (List α), rows? literal = .ok values := by
  have all := Set.ext_iff.1 (Set.range_list_map fun values : List α => values.map some)
    ((rowsOf literal.toList).map fun row => (wordsOf row).map Numeral.read?)
  obtain ⟨values, same⟩ := all.2 (List.forall_mem_map.2 fun row mem => by
    obtain ⟨x, h⟩ := isNumeric_iff.1 (numeric row mem)
    exact ⟨x, h.symm⟩)
  exact ⟨values, rows?_eq_ok_iff_map.2 same.symm⟩

/-! ### Texts that are literals, and others -/

section Cases

variable [Zero α] {literal : String} {before after : List (List Char)} {row : List Char}

theorem matrix?_of_not_numeric (rows : rowsOf literal.toList = before ++ row :: after)
    (numeric : ∀ row ∈ before, IsNumeric α row) (wrong : ¬IsNumeric α row) : ∃ inner, IsTrimmed row inner ∧
      matrix? literal = (.error (.notNumeric (String.ofList inner)) : Except MatrixFault (DenseMatrix α)) := by
  have reads (row : List Char) (values : List α) :
      readRow? row = some values ↔ (wordsOf row).map Numeral.read? = values.map some := by
    rw [readRow?, words_eq, mapM_eq_some_iff_map]
  refine ⟨_, isTrimmed_trim row, ?_⟩
  have failed : (rows? literal : Except MatrixFault (List (List α))) =
      .error (.notNumeric (String.ofList (trim row))) := by
    rw [rows?, rowTexts_eq, rows]
    apply mapM_eq_error
    · intro row mem
      obtain ⟨values, h⟩ := isNumeric_iff.1 (numeric row mem)
      rw [(reads row values).2 h]
      exact ⟨values, rfl⟩
    · cases h : (readRow? row : Option (List α)) with
      | none => rfl
      | some values => exact absurd (isNumeric_iff.2 ⟨values, (reads row values).1 h⟩) wrong
  rw [matrix?, failed]

theorem matrix?_of_no_rows (rows : rowsOf literal.toList = []) :
    matrix? literal = (.error (.noRows literal) : Except MatrixFault (DenseMatrix α)) := by
  have read : rows? literal = .ok ([] : List (List α)) := by
    rw [rows?_eq_ok_iff_map, rows]
    rfl
  rw [matrix?, read]

theorem matrix?_of_rows? {first : List α} {others : List (List α)} (read : rows? literal = .ok (first :: others)) :
    matrix? literal = DenseMatrix.ofRows? (first :: others) := by
  rw [matrix?, read]

omit [Zero α] in
/-- Rows of numbers are as long as the rows of words that they are read from. -/
theorem length_of_reads {rows : List (List Char)} {values : List (List α)}
    (reads : (rows.map fun row => (wordsOf row).map Numeral.read?) = values.map (·.map some)) :
    values.map List.length = rows.map fun row => (wordsOf row).length := by
  have lengths := congrArg (List.map List.length) reads
  simpa [Function.comp_def] using lengths.symm

variable {first : List Char} {others : List (List Char)} (numeric : ∀ row ∈ rowsOf literal.toList, IsNumeric α row)

include numeric

theorem matrix?_of_even (rows : rowsOf literal.toList = first :: others)
    (even : ∀ row ∈ first :: others, (wordsOf row).length = (wordsOf first).length) : ∃ a : DenseMatrix α,
      matrix? literal = .ok a ∧
        (rowsOf literal.toList).map (fun row => (wordsOf row).map Numeral.read?) = a.toLists.map (·.map some) := by
  obtain ⟨values, read⟩ := exists_rows?_of_numeric numeric
  have reads := rows?_eq_ok_iff_map.1 read
  have lengths := length_of_reads reads
  rw [rows] at lengths
  cases values with
  | nil => cases lengths
  | cons v vs =>
    have level : ∀ w ∈ v :: vs, w.length = v.length := by
      intro w mem
      have place : w.length ∈ (first :: others).map fun row => (wordsOf row).length := lengths ▸ List.mem_map_of_mem mem
      obtain ⟨row, here, same⟩ := List.mem_map.1 place
      rw [← same, even row here]
      exact (List.cons.inj lengths).1.symm
    obtain ⟨a, made, lists⟩ := DenseMatrix.ofRows?_of_even level
    exact ⟨a, (matrix?_of_rows? read).trans made, by rw [reads, lists]⟩

theorem matrix?_of_uneven (rows : rowsOf literal.toList = before ++ row :: after)
    (head : (rowsOf literal.toList).head? = some first)
    (even : ∀ r ∈ before, (wordsOf r).length = (wordsOf first).length)
    (uneven : (wordsOf row).length ≠ (wordsOf first).length) : matrix? literal =
      (.error (.ragged (wordsOf first).length (wordsOf row).length before.length) :
        Except MatrixFault (DenseMatrix α)) := by
  obtain ⟨values, read⟩ := exists_rows?_of_numeric numeric
  have lengths := length_of_reads (rows?_eq_ok_iff_map.1 read)
  cases values with
  | nil =>
    rw [rows] at lengths
    simp at lengths
  | cons v vs =>
    have width : v.length = (wordsOf first).length := by
      have heads := congrArg List.head? lengths
      rw [List.head?_map, List.head?_map, head] at heads
      exact Option.some.inj heads
    rw [rows, List.map_append] at lengths
    obtain ⟨early, late, split, level, rest⟩ := List.map_eq_append_iff.1 lengths
    obtain ⟨w, ws, rfl, (here : w.length = (wordsOf row).length), _⟩ := List.map_eq_cons_iff.1 rest
    have places := congrArg List.length level
    rw [List.length_map, List.length_map] at places
    rw [matrix?_of_rows? read, ← width, ← here, ← places]
    apply DenseMatrix.ofRows?_of_uneven split
    · intro u mem
      have place : u.length ∈ before.map fun row => (wordsOf row).length := level ▸ List.mem_map_of_mem mem
      obtain ⟨r, found, same⟩ := List.mem_map.1 place
      rw [← same, even r found, width]
    · rwa [here, width]

end Cases

/-- A list whose elements do not all have a property has a first one without it. -/
theorem exists_first_not {β : Type} {P : β → Prop} {l : List β} (h : ¬∀ x ∈ l, P x) :
    ∃ before x after, l = before ++ x :: after ∧ (∀ y ∈ before, P y) ∧ ¬P x := by
  classical
  induction l with
  | nil => exact absurd (fun x mem => absurd mem List.not_mem_nil) h
  | cons x l ih =>
    by_cases first : P x
    · obtain ⟨before, y, after, rfl, all, last⟩ := ih fun rest => h (List.forall_mem_cons.2 ⟨first, rest⟩)
      exact ⟨x :: before, y, after, rfl, List.forall_mem_cons.2 ⟨first, all⟩, last⟩
    · exact ⟨[], x, l, rfl, fun y mem => absurd mem List.not_mem_nil, first⟩

variable (α) in
structure IsLiteral (text : List Char) : Prop where
  ne_nil : rowsOf text ≠ []
  numeric : ∀ row ∈ rowsOf text, IsNumeric α row
  even : ∀ row ∈ rowsOf text, ∀ row' ∈ rowsOf text, (wordsOf row).length = (wordsOf row').length

section Answer

variable [Zero α] {literal : String}

/-- A text that is no literal is refused as a malformed one. -/
theorem exists_fault (wrong : ¬IsLiteral α literal.toList) :
    ∃ fault : MatrixFault, matrix? literal = (.error fault : Except MatrixFault (DenseMatrix α)) ∧
      fault.kind = .malformedLiteral := by
  by_cases numeric : ∀ row ∈ rowsOf literal.toList, IsNumeric α row
  · cases rows : rowsOf literal.toList with
    | nil => exact ⟨_, matrix?_of_no_rows rows, rfl⟩
    | cons first others =>
      have odd : ¬∀ row ∈ rowsOf literal.toList, (wordsOf row).length = (wordsOf first).length := by
        intro even
        refine wrong ⟨by simp [rows], numeric, fun row mem row' mem' => ?_⟩
        rw [even row mem, even row' mem']
      obtain ⟨before, row, after, split, even, uneven⟩ := exists_first_not odd
      exact ⟨_, matrix?_of_uneven numeric split (by rw [rows]; rfl) even uneven, rfl⟩
  · obtain ⟨before, row, after, split, fine, not⟩ := exists_first_not numeric
    obtain ⟨inner, _, refused⟩ := matrix?_of_not_numeric split fine not
    exact ⟨_, refused, rfl⟩

theorem exists_of_isLiteral (accepted : IsLiteral α literal.toList) : ∃ a : DenseMatrix α, matrix? literal = .ok a ∧
    (rowsOf literal.toList).map (fun row => (wordsOf row).map Numeral.read?) = a.toLists.map (·.map some) := by
  obtain ⟨ne_nil, numeric, even⟩ := accepted
  obtain ⟨first, others, rows⟩ := List.exists_cons_of_ne_nil ne_nil
  rw [rows] at even
  exact matrix?_of_even numeric rows fun row mem => even row mem first List.mem_cons_self

theorem isLiteral_of_matrix? {a : DenseMatrix α} (made : matrix? literal = .ok a) : IsLiteral α literal.toList := by
  by_contra wrong
  obtain ⟨fault, refused, _⟩ := exists_fault wrong
  rw [made] at refused
  cases refused

end Answer

/-! ### Blanks and semicolons that change nothing -/

def table (text : List Char) : List (List (List Char)) :=
  (rowTexts text).map words

omit [Numeral α] in
theorem table_eq (text : List Char) : table text = ((pieces ';' text).map words).filter fun row => !row.isEmpty :=
  words_rowTexts text

theorem table_append_semicolon (before after : List Char) :
    table (before ++ ';' :: after) = table before ++ table after := by
  rw [table_eq, table_eq, table_eq, pieces_append_cons, List.map_append, List.filter_append]

/-- What stands between two texts does not matter as long as it is blank and there is something. -/
theorem table_blanks {middle middle' : List Char} (blank : ∀ c ∈ middle, isBlank c = true) (filled : middle ≠ [])
    (blank' : ∀ c ∈ middle', isBlank c = true) (filled' : middle' ≠ []) (before after : List Char) :
    table (before ++ (middle ++ after)) = table (before ++ (middle' ++ after)) := by
  obtain ⟨early, last, first, late, _, _, joins⟩ := exists_pieces_append ';' before after
  have free (middle : List Char) (blank : ∀ c ∈ middle, isBlank c = true) : ';' ∉ middle := fun mem =>
    absurd (blank ';' mem) (by decide)
  have between (middle : List Char) (blank : ∀ c ∈ middle, isBlank c = true) (filled : middle ≠ []) :
      words (last ++ middle ++ first) = words last ++ words first := by
    obtain ⟨b, bs, rfl⟩ := List.exists_cons_of_ne_nil filled
    obtain ⟨head, tail⟩ := List.forall_mem_cons.1 blank
    rw [List.append_assoc, List.cons_append, words_append_cons head, words_blanks_append tail]
  rw [table_eq, table_eq, joins middle (free middle blank), joins middle' (free middle' blank'), List.map_append,
    List.map_append, List.map_cons, List.map_cons, between middle blank filled, between middle' blank' filled']

def isSpacing (c : Char) : Bool :=
  isBlank c || c == ';'

theorem table_spacing_append {spacing : List Char} (only : ∀ c ∈ spacing, isSpacing c = true) (text : List Char) :
    table (spacing ++ text) = table text := by
  have blank_cons (b : Char) (blank : isBlank b = true) (text : List Char) : table (b :: text) = table text := by
    have other : ';' ≠ b := fun same => absurd (same ▸ blank : isBlank ';' = true) (by decide)
    rw [table_eq, table_eq, pieces, if_neg other.symm]
    cases pieces ';' text with
    | nil => simp [words_cons_of_blank blank]
    | cons p ps => simp [words_cons_of_blank blank]
  induction spacing with
  | nil => rfl
  | cons c spacing ih =>
    obtain ⟨first, others⟩ := List.forall_mem_cons.1 only
    rw [List.cons_append, ← ih others]
    rcases Bool.or_eq_true_iff.1 first with blank | semicolon
    · exact blank_cons c blank _
    · rw [beq_iff_eq.1 semicolon]
      exact table_append_semicolon [] (spacing ++ text)

theorem table_append_spacing {spacing : List Char} (only : ∀ c ∈ spacing, isSpacing c = true) (text : List Char) :
    table (text ++ spacing) = table text := by
  have append_blank (b : Char) (blank : isBlank b = true) (text : List Char) : table (text ++ [b]) = table text := by
    obtain ⟨early, last, first, late, split, alone, joins⟩ := exists_pieces_append ';' text []
    obtain ⟨rfl, rfl⟩ := List.cons.inj alone
    have joined := joins [b] fun mem => absurd (List.mem_singleton.1 mem ▸ blank : isBlank ';' = true) (by decide)
    rw [List.append_nil, List.append_nil] at joined
    rw [table_eq, table_eq, joined, split, List.map_append, List.map_append, List.map_singleton, List.map_singleton,
      words_append_cons blank, words_nil, List.append_nil]
  induction spacing generalizing text with
  | nil => rw [List.append_nil]
  | cons c spacing ih =>
    obtain ⟨first, others⟩ := List.forall_mem_cons.1 only
    rw [List.append_cons, ih others]
    rcases Bool.or_eq_true_iff.1 first with blank | semicolon
    · exact append_blank c blank text
    · rw [beq_iff_eq.1 semicolon, table_append_semicolon]
      exact List.append_nil _

/-- A text at whose beginning a row ends: before anything else than blanks there comes a semicolon, if anything does. -/
def EndsRow (text : List Char) : Prop :=
  ∀ c ∈ (text.dropWhile isBlank).head?, c = ';'

theorem endsRow_cons (rest : List Char) : EndsRow (';' :: rest) := by
  intro c mem
  rw [List.dropWhile_cons_of_neg (by decide)] at mem
  exact (Option.some.inj mem).symm

theorem EndsRow.cases {text : List Char} (ends : EndsRow text) : ∃ blanks, (∀ c ∈ blanks, isSpacing c = true) ∧
    (text = blanks ∨ ∃ rest, text = blanks ++ ';' :: rest) := by
  refine ⟨text.takeWhile isBlank, fun c mem => ?_, ?_⟩
  · rw [isSpacing, List.mem_takeWhile_imp mem, Bool.true_or]
  · have whole := List.takeWhile_append_dropWhile (p := isBlank) (l := text)
    cases rest : text.dropWhile isBlank with
    | nil =>
      rw [rest, List.append_nil] at whole
      exact .inl whole.symm
    | cons c rest' =>
      obtain rfl := ends c (by rw [rest]; rfl)
      rw [rest] at whole
      exact .inr ⟨rest', whole.symm⟩

theorem table_of_spacing {spacing : List Char} (only : ∀ c ∈ spacing, isSpacing c = true) : table spacing = [] :=
  table_append_spacing only []

/-- Where a row ends, what stands between rows makes no difference. -/
theorem table_of_ends {before spacing after : List Char} (only : ∀ c ∈ spacing, isSpacing c = true)
    (place : EndsRow after ∨ EndsRow before.reverse) :
    table (before ++ (spacing ++ after)) = table before ++ table after := by
  have both {blanks : List Char} (h : ∀ c ∈ blanks, isSpacing c = true) : ∀ c ∈ spacing ++ blanks, isSpacing c = true :=
    fun c mem => (List.mem_append.1 mem).elim (only c) (h c)
  rcases place with ends | ends
  · obtain ⟨blanks, blank, rfl | ⟨rest, rfl⟩⟩ := ends.cases
    · rw [table_append_spacing (both blank), table_of_spacing blank, List.append_nil]
    · have text : before ++ (spacing ++ (blanks ++ ';' :: rest)) = before ++ (spacing ++ blanks) ++ ';' :: rest := by
        simp only [List.append_assoc]
      rw [text, table_append_semicolon, table_append_spacing (both blank), table_append_semicolon,
        table_of_spacing blank, List.nil_append]
  · obtain ⟨blanks, blank, all | ⟨rest, split⟩⟩ := ends.cases
    · have blank' : ∀ c ∈ before, isSpacing c = true := fun c mem => blank c (all ▸ List.mem_reverse.2 mem)
      rw [table_spacing_append blank', table_spacing_append only, table_of_spacing blank', List.nil_append]
    · have blank' : ∀ c ∈ blanks.reverse, isSpacing c = true := fun c mem => blank c (List.mem_reverse.1 mem)
      obtain rfl : before = rest.reverse ++ ';' :: blanks.reverse := by
        rw [← List.reverse_reverse before, split]
        simp
      rw [List.append_assoc, List.cons_append, table_append_semicolon, table_spacing_append blank',
        table_spacing_append only, table_append_semicolon, table_of_spacing blank', List.append_nil]

/-- Something put into a text that separates nothing: blanks and semicolons beside a semicolon or an end of the text,
where only blanks may be in between, and blanks beside a blank. -/
inductive Spaces (before inserted after : List Char) : Prop where
  | rows (only : ∀ c ∈ inserted, isSpacing c = true) (place : EndsRow after ∨ EndsRow before.reverse)
  | words (only : ∀ c ∈ inserted, isBlank c = true)
      (place : (∃ c ∈ after.head?, isBlank c = true) ∨ ∃ c ∈ before.getLast?, isBlank c = true)

theorem Spaces.table_eq {before inserted after : List Char} (spaces : Spaces before inserted after) :
    table (before ++ (inserted ++ after)) = table (before ++ after) := by
  have single (b : Char) (blank : isBlank b = true) : ∀ c ∈ [b], isBlank c = true := by simpa using blank
  cases spaces with
  | rows only place =>
    have bare : table (before ++ ([] ++ after)) = table before ++ table after := table_of_ends nofun place
    exact (table_of_ends only place).trans bare.symm
  | words only place =>
    rcases place with ⟨b, mem, blank⟩ | ⟨b, mem, blank⟩
    · obtain ⟨rest, rfl⟩ := List.head?_eq_some_iff.1 mem
      have more : ∀ c ∈ inserted ++ [b], isBlank c = true := fun c mem =>
        (List.mem_append.1 mem).elim (only c) (single b blank c)
      have same := table_blanks more (by simp) (single b blank) (by simp) before rest
      rwa [List.append_assoc] at same
    · obtain ⟨rest, rfl⟩ := List.getLast?_eq_some_iff.1 mem
      have more : ∀ c ∈ b :: inserted, isBlank c = true := List.forall_mem_cons.2 ⟨blank, only⟩
      have same := table_blanks more (by simp) (single b blank) (by simp) rest after
      simpa using same

section Answer

variable [Zero α]

theorem matrix?_of_spaces {before inserted after : List Char} (spaces : Spaces before inserted after) {a : DenseMatrix α}
    (accepted : matrix? (String.ofList (before ++ after)) = .ok a) :
    matrix? (String.ofList (before ++ (inserted ++ after))) = .ok a := by
  rw [matrix?] at accepted
  split at accepted
  · cases accepted
  · cases accepted
  · rename_i rows nonempty read
    obtain ⟨first, others, rfl⟩ := List.exists_cons_of_ne_nil fun empty => nonempty empty
    rw [rows?_eq_ok_iff] at read
    have same : rows? (String.ofList (before ++ (inserted ++ after))) = .ok (first :: others) := by
      rw [rows?_eq_ok_iff, String.toList_ofList, ← read, String.toList_ofList]
      exact congrArg _ spaces.table_eq
    rw [matrix?_of_rows? same, accepted]

/-- A literal is read exactly as its words stand in its rows. Of other texts the first row with a word that is no number
is named, with the blanks around it taken away; then that there are no rows; then the first row of another length. Blanks
and semicolons that separate nothing are not noticed. -/
theorem matrix?_follows_grammar (literal : String) :
    ((∃ a : DenseMatrix α, matrix? literal = .ok a) ↔ IsLiteral α literal.toList) ∧
    (∀ a : DenseMatrix α, matrix? literal = .ok a →
      (rowsOf literal.toList).map (fun row => (wordsOf row).map Numeral.read?) = a.toLists.map (·.map some)) ∧
    (∀ before row after, rowsOf literal.toList = before ++ row :: after → (∀ r ∈ before, IsNumeric α r) →
      ¬IsNumeric α row → ∃ inner, IsTrimmed row inner ∧
        matrix? literal = (.error (.notNumeric (String.ofList inner)) : Except MatrixFault (DenseMatrix α))) ∧
    (rowsOf literal.toList = [] →
      matrix? literal = (.error (.noRows literal) : Except MatrixFault (DenseMatrix α))) ∧
    ((∀ row ∈ rowsOf literal.toList, IsNumeric α row) → ∀ first before row after,
      (rowsOf literal.toList).head? = some first → rowsOf literal.toList = before ++ row :: after →
      (∀ r ∈ before, (wordsOf r).length = (wordsOf first).length) → (wordsOf row).length ≠ (wordsOf first).length →
        matrix? literal = (.error (.ragged (wordsOf first).length (wordsOf row).length before.length) :
          Except MatrixFault (DenseMatrix α))) ∧
    (∀ fault, matrix? literal = (.error fault : Except MatrixFault (DenseMatrix α)) → fault.kind = .malformedLiteral) ∧
    ∀ before inserted after, literal.toList = before ++ after → Spaces before inserted after →
      ∀ a : DenseMatrix α, matrix? literal = .ok a →
        matrix? (String.ofList (before ++ (inserted ++ after))) = .ok a := by
  refine ⟨⟨?_, ?_⟩, ?_, ?_, matrix?_of_no_rows, ?_, ?_, ?_⟩
  · rintro ⟨a, accepted⟩
    exact isLiteral_of_matrix? accepted
  · intro accepted
    obtain ⟨a, made, _⟩ := exists_of_isLiteral accepted
    exact ⟨a, made⟩
  · intro a accepted
    obtain ⟨a', made, reads⟩ := exists_of_isLiteral (isLiteral_of_matrix? accepted)
    obtain rfl := Except.ok.inj (accepted.symm.trans made)
    exact reads
  · exact fun before row after => matrix?_of_not_numeric
  · exact fun numeric first before row after head split => matrix?_of_uneven numeric split head
  · intro fault refused
    have wrong : ¬IsLiteral α literal.toList := by
      intro accepted
      obtain ⟨a, made, _⟩ := exists_of_isLiteral accepted
      rw [made] at refused
      cases refused
    obtain ⟨fault', refused', kind⟩ := exists_fault wrong
    obtain rfl := Except.error.inj (refused.symm.trans refused')
    exact kind
  · intro before inserted after split spaces a accepted
    have text : literal = String.ofList (before ++ after) := by rw [← split, String.ofList_toList]
    rw [text] at accepted
    exact matrix?_of_spaces spaces accepted

end Answer

/-- Rows of equal lengths with blank ones put in between, a word that is no number in the second row, and a short row. -/
theorem matrix?_of_spaced_follows_grammar :
    (∃ a : DenseMatrix Float, matrix? "1 2;3 4" = .ok a ∧ Spaces "1 2".toList " ; ;".toList ";3 4".toList ∧
      matrix? "1 2 ; ;;3 4" = .ok a) ∧
    ¬IsNumeric Float " x 4 ".toList ∧
    (∃ inner, IsTrimmed " x 4 ".toList inner ∧ matrix? "3; x 4 ;y" =
      (.error (.notNumeric (String.ofList inner)) : Except MatrixFault (DenseMatrix Float))) ∧
    rowsOf " ; ".toList = [] ∧ matrix? " ; " = (.error (.noRows " ; ") : Except MatrixFault (DenseMatrix Float)) ∧
    matrix? "1 2;3" = (.error (.ragged 2 1 1) : Except MatrixFault (DenseMatrix Float)) := by
  have numeric {rows : List (List Char)}
      (h : ∀ row ∈ rows, ∀ word ∈ wordsOf row, (Decimal.float? word).isSome = true) :
      ∀ row ∈ rows, IsNumeric Float row :=
    fun row mem word inside => Option.isSome_iff_exists.1 (h row mem word inside)
  have spacing : " ; ;".toList.all isSpacing = true := by decide +kernel
  have spaces : Spaces "1 2".toList " ; ;".toList ";3 4".toList :=
    .rows (List.all_eq_true.1 spacing) (.inl (endsRow_cons "3 4".toList))
  have literal : IsLiteral Float "1 2;3 4".toList :=
    ⟨by decide +kernel, numeric (by decide +kernel), by decide +kernel⟩
  have word : ¬IsNumeric Float " x 4 ".toList := by
    intro all
    obtain ⟨x, reads⟩ := all "x".toList (by decide +kernel)
    have unread : Decimal.float? "x".toList = none := by decide +kernel
    cases unread.symm.trans reads
  obtain ⟨⟨_, accepts⟩, _, _, _, _, _, inserts⟩ := matrix?_follows_grammar (α := Float) "1 2;3 4"
  obtain ⟨_, _, refuses, _⟩ := matrix?_follows_grammar (α := Float) "3; x 4 ;y"
  obtain ⟨_, _, _, empty, _⟩ := matrix?_follows_grammar (α := Float) " ; "
  obtain ⟨_, _, _, _, uneven, _⟩ := matrix?_follows_grammar (α := Float) "1 2;3"
  obtain ⟨a, made⟩ := accepts literal
  have blank : rowsOf " ; ".toList = [] := by decide +kernel
  refine ⟨⟨a, made, spaces, inserts _ _ _ rfl spaces a made⟩, word, ?_, blank, empty blank, ?_⟩
  · exact refuses ["3".toList] " x 4 ".toList ["y".toList] (by decide +kernel) (numeric (by decide +kernel)) word
  · exact uneven (numeric (by decide +kernel)) "1 2".toList ["1 2".toList] "3".toList [] (by decide +kernel)
      (by decide +kernel) (by decide +kernel) (by decide +kernel)

end Literal

end Polyhedra
