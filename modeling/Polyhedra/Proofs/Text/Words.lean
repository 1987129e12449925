import Mathlib
import Polyhedra.Text.Words

/-!
# Words and pieces of joined text

Words that are not empty and have no blanks inside are found again when blanks are put between them, and so are lines
when semicolons are. A blank that follows a semicolon belongs to the piece behind it, which has the same words with it.
Any text has the words that splitting it at every blank leaves, as far as these are not empty, so it may be taken apart at
a blank or at a separator anywhere.
-/

namespace Polyhedra.Text

structure IsWord (cs : List Char) : Prop where
  ne_nil : cs ≠ []
  solid : ∀ c ∈ cs, isBlank c = false

variable {c d : Char} {cs rest : List Char}

@[simp] theorem words_nil : words [] = [] := rfl

theorem words_cons_of_blank (blank : isBlank c = true) : words (c :: rest) = words rest := by
  rw [words.eq_def]
  cases rest <;> simp [blank]

theorem words_cons_of_end (solid : isBlank c = false) (ends : ∀ d ∈ rest.head?, isBlank d = true) :
    words (c :: rest) = [c] :: words rest := by
  rw [words.eq_def]
  cases rest with
  | nil => simp [solid]
  | cons d rest => simp [solid, ends d rfl]

theorem words_cons_cons {w : List Char} {ws : List (List Char)} (solid : isBlank c = false) (next : isBlank d = false)
    (h : words (d :: rest) = w :: ws) : words (c :: d :: rest) = (c :: w) :: ws := by
  rw [words.eq_def]
  simp [solid, next, h]

theorem words_append (word : IsWord cs) (ends : ∀ c ∈ rest.head?, isBlank c = true) :
    words (cs ++ rest) = cs :: words rest := by
  obtain ⟨nonempty, solid⟩ := word
  induction cs with
  | nil => contradiction
  | cons c cs ih =>
    have first := solid c List.mem_cons_self
    cases cs with
    | nil => exact words_cons_of_end first ends
    | cons d cs =>
      have second := solid d (List.mem_cons_of_mem _ List.mem_cons_self)
      exact words_cons_cons first second (ih nofun fun b mem => solid b (List.mem_cons_of_mem _ mem))

theorem words_joined {items : List String} (each : ∀ item ∈ items, IsWord item.toList) :
    words (joined " " items).toList = items.map String.toList := by
  induction items with
  | nil => rfl
  | cons item items ih =>
    have ih := ih fun other mem => each other (List.mem_cons_of_mem _ mem)
    have word := each item List.mem_cons_self
    cases items with
    | nil =>
      have alone := words_append word (show ∀ c ∈ ([] : List Char).head?, isBlank c = true from nofun)
      simpa [joined] using alone
    | cons next items =>
      have text : (joined " " (item :: next :: items)).toList =
          item.toList ++ ' ' :: (joined " " (next :: items)).toList := by
        simp [joined]
      rw [text, words_append word (by simp; decide), words_cons_of_blank (by decide), ih]
      rfl

/-- The words are what stands between blanks, where anything does. -/
theorem words_eq_splitOnP (cs : List Char) : words cs = (cs.splitOnP isBlank).filter fun w => !w.isEmpty := by
  induction cs with
  | nil => rfl
  | cons c cs ih =>
    rw [List.splitOnP_cons_eq_if_modifyHead]
    by_cases blank : isBlank c = true
    · rw [words_cons_of_blank blank, if_pos blank, ih]
      rfl
    · rw [if_neg blank]
      rw [Bool.not_eq_true] at blank
      cases cs with
      | nil => exact words_cons_of_end blank nofun
      | cons d cs =>
        rw [List.splitOnP_cons_eq_if_modifyHead] at ih ⊢
        by_cases next : isBlank d = true
        · rw [if_pos next] at ih ⊢
          rw [words_cons_of_end blank (by simp [next]), ih]
          rfl
        · rw [if_neg next] at ih ⊢
          rw [Bool.not_eq_true] at next
          cases split : cs.splitOnP isBlank with
          | nil => exact absurd split (List.splitOnP_ne_nil _ _)
          | cons w ws =>
            rw [split] at ih
            exact words_cons_cons blank next ih

/-- A blank ends a word. -/
theorem words_append_cons {b : Char} (blank : isBlank b = true) (cs rest : List Char) :
    words (cs ++ b :: rest) = words cs ++ words rest := by
  rw [words_eq_splitOnP, words_eq_splitOnP, words_eq_splitOnP, List.splitOnP_append_cons cs rest blank, List.filter_append]

theorem words_blanks_append {blanks : List Char} (blank : ∀ c ∈ blanks, isBlank c = true) (rest : List Char) :
    words (blanks ++ rest) = words rest := by
  induction blanks with
  | nil => rfl
  | cons b blanks ih =>
    obtain ⟨first, others⟩ := List.forall_mem_cons.1 blank
    rw [List.cons_append, words_cons_of_blank first, ih others]

theorem words_eq_nil_iff : words cs = [] ↔ ∀ c ∈ cs, isBlank c = true := by
  induction cs with
  | nil => simp
  | cons c cs ih =>
    by_cases blank : isBlank c = true
    · rw [words_cons_of_blank blank, ih, List.forall_mem_cons, and_iff_right blank]
    · refine iff_of_false ?_ fun all => blank (all c List.mem_cons_self)
      rw [Bool.not_eq_true] at blank
      rw [words.eq_def]
      grind

/-! ### Pieces -/

theorem notMem_joined {c : Char} {separator : String} {items : List String} (between : c ∉ separator.toList)
    (each : ∀ item ∈ items, c ∉ item.toList) : c ∉ (joined separator items).toList := by
  rw [joined, String.toList_intercalate]
  induction items with
  | nil => exact List.not_mem_nil
  | cons item items ih =>
    have first := each item List.mem_cons_self
    have ih := ih fun other mem => each other (List.mem_cons_of_mem _ mem)
    cases items with
    | nil => simpa [List.intercalate] using first
    | cons next items =>
      rw [List.map_cons, List.map_cons, List.intercalate_cons_cons, List.mem_append, List.mem_append]
      rw [List.map_cons] at ih
      exact not_or.2 ⟨not_or.2 ⟨first, between⟩, ih⟩

theorem pieces_eq_splitOn (separator : Char) (cs : List Char) : pieces separator cs = cs.splitOn separator := by
  induction cs with
  | nil => rfl
  | cons c cs ih =>
    have nonempty := List.splitOn_ne_nil separator cs
    rw [List.splitOn_eq_splitOnP, List.splitOnP_cons_eq_if_modifyHead, ← List.splitOn_eq_splitOnP, pieces, ih]
    by_cases same : c = separator
    · rw [if_pos same, if_pos (beq_iff_eq.2 same)]
    · rw [if_neg same, if_neg fun h => same (beq_iff_eq.1 h)]
      cases split : cs.splitOn separator with
      | nil => exact absurd split nonempty
      | cons p ps => rfl

/-- A separator ends a piece. -/
theorem pieces_append_cons (separator : Char) (cs rest : List Char) :
    pieces separator (cs ++ separator :: rest) = pieces separator cs ++ pieces separator rest := by
  rw [pieces_eq_splitOn, pieces_eq_splitOn, pieces_eq_splitOn, List.splitOn_eq_splitOnP, List.splitOn_eq_splitOnP,
    List.splitOn_eq_splitOnP]
  exact List.splitOnP_append_cons cs rest (beq_self_eq_true separator)

/-- Characters put between two texts go to the piece at which the one ends and the other begins. -/
theorem exists_pieces_append (separator : Char) (cs rest : List Char) : ∃ before last first after,
    pieces separator cs = before ++ [last] ∧ pieces separator rest = first :: after ∧
      ∀ middle, separator ∉ middle →
        pieces separator (cs ++ (middle ++ rest)) = before ++ (last ++ middle ++ first) :: after := by
  have joins (c : Char) (h : c ≠ separator) (ds : List Char) (p : List Char) (ps : List (List Char))
      (split : pieces separator ds = p :: ps) : pieces separator (c :: ds) = (c :: p) :: ps := by
    rw [pieces, if_neg h, split]
  obtain ⟨first, after, split⟩ : ∃ first after, pieces separator rest = first :: after :=
    List.exists_cons_of_ne_nil (by rw [pieces_eq_splitOn]; exact List.splitOn_ne_nil _ _)
  have inner (middle : List Char) (free : separator ∉ middle) :
      pieces separator (middle ++ rest) = (middle ++ first) :: after := by
    induction middle with
    | nil => exact split
    | cons c middle ih =>
      rw [List.mem_cons, not_or] at free
      exact joins c (Ne.symm free.1) _ _ _ (ih free.2)
  induction cs with
  | nil => exact ⟨[], [], first, after, rfl, split, inner⟩
  | cons c cs ih =>
    obtain ⟨before, last, _, _, head, same, whole⟩ := ih
    obtain ⟨rfl, rfl⟩ := List.cons.inj (split.symm.trans same)
    by_cases h : c = separator
    · subst h
      refine ⟨[] :: before, last, first, after, ?_, split, fun middle free => ?_⟩
      · rw [pieces, if_pos rfl, head]
        rfl
      · rw [List.cons_append, pieces, if_pos rfl, whole middle free]
        rfl
    · cases before with
      | nil =>
        refine ⟨[], c :: last, first, after, joins c h _ _ _ head, split, fun middle free => ?_⟩
        exact joins c h _ _ _ (whole middle free)
      | cons p before =>
        refine ⟨(c :: p) :: before, last, first, after, joins c h _ _ _ head, split, fun middle free => ?_⟩
        exact joins c h _ _ _ (whole middle free)

/-- The second of two separating characters may as well begin every item but the first. -/
theorem intercalate_pair (a b : Char) (first : List Char) (others : List (List Char)) :
    [a, b].intercalate (first :: others) = [a].intercalate (first :: others.map (b :: ·)) := by
  induction others generalizing first with
  | nil => rfl
  | cons next others ih =>
    rw [List.map_cons, List.intercalate_cons_cons, List.intercalate_cons_cons, ih]
    cases others <;> simp

theorem pieces_joined {first : String} {others : List String} (free : ∀ line ∈ first :: others, ';' ∉ line.toList) :
    pieces ';' (joined "; " (first :: others)).toList = first.toList :: others.map fun line => ' ' :: line.toList := by
  have text : (joined "; " (first :: others)).toList =
      [';'].intercalate (first.toList :: others.map fun line => ' ' :: line.toList) := by
    rw [joined, String.toList_intercalate, List.map_cons]
    exact (intercalate_pair ';' ' ' _ _).trans (by rw [List.map_map]; rfl)
  rw [text, pieces_eq_splitOn, List.splitOn_intercalate]
  · simpa using free
  · exact List.cons_ne_nil _ _

/-- The words of the pieces are those of the lines; without lines there is one piece, and no word in it. -/
theorem words_pieces_joined {lines : List String} (free : ∀ line ∈ lines, ';' ∉ line.toList)
    (nonempty : lines ≠ []) :
    (pieces ';' (joined "; " lines).toList).map words = lines.map fun line => words line.toList := by
  cases lines with
  | nil => contradiction
  | cons first others =>
    have behind (line : String) : words (' ' :: line.toList) = words line.toList := words_cons_of_blank (by decide)
    simp only [pieces_joined free, List.map_cons, List.map_map, Function.comp_def, behind]

/-! ### Trimmed text -/

/-- The text `inner` is what is left of `cs` when the blanks at both ends are taken away. -/
structure IsTrimmed (cs inner : List Char) : Prop where
  around : ∃ before after, cs = before ++ inner ++ after ∧ ∀ c ∈ before ++ after, isBlank c = true
  head : ∀ c ∈ inner.head?, isBlank c = false
  last : ∀ c ∈ inner.getLast?, isBlank c = false

theorem isTrimmed_trim (cs : List Char) : IsTrimmed cs (trim cs) := by
  have trimmed : trim cs = (cs.dropWhile isBlank).rdropWhile isBlank := rfl
  have start := List.takeWhile_append_dropWhile (p := isBlank) (l := cs)
  have ends := List.rdropWhile_append_rtakeWhile (p := isBlank) (l := cs.dropWhile isBlank)
  rw [trimmed]
  refine ⟨⟨cs.takeWhile isBlank, (cs.dropWhile isBlank).rtakeWhile isBlank, ?_, ?_⟩, ?_, ?_⟩
  · rw [List.append_assoc, ends, start]
  · intro c mem
    rcases List.mem_append.1 mem with early | late
    · exact List.mem_takeWhile_imp early
    · exact List.mem_rtakeWhile_imp late
  · intro c mem
    -- The first character that is left is also the first one behind the blanks.
    obtain ⟨rest, whole⟩ := List.rdropWhile_prefix isBlank (cs.dropWhile isBlank)
    have first : (cs.dropWhile isBlank).head? = some c := by
      rw [← whole, List.head?_append, Option.mem_def.1 mem]
      rfl
    have solid := List.head?_dropWhile_not isBlank cs
    rw [first] at solid
    exact solid
  · intro c mem
    obtain ⟨nonempty, rfl⟩ := List.mem_getLast?_eq_getLast mem
    simpa using List.rdropWhile_last_not isBlank _ nonempty

end Polyhedra.Text
