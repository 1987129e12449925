import Mathlib
import Polyhedra.Decimal.Written
import Polyhedra.Decimal.Reading
import Polyhedra.Proofs.Text.Words

/-!
# Texts of numbers

The text of an integer reads back as that integer, and the text of a double is made of few characters, none of them a
blank or a semicolon, which is all that has to be known to find the numbers of a list or of a literal again. An integer is
read through a filter that allows for blanks, underscores and foreign digits; on a text of plain characters it does
nothing.
-/

namespace Polyhedra.Decimal

open Polyhedra.Text

/-! ### Digits and signs -/

theorem isDigit_iff {c : Char} : c.isDigit = true ↔ 48 ≤ c.toNat ∧ c.toNat ≤ 57 := by
  simp only [Char.isDigit, Bool.and_eq_true, decide_eq_true_eq, ge_iff_le, UInt32.le_iff_toNat_le]
  rfl

theorem solid_of_isDigit {c : Char} (digit : c.isDigit = true) : isBlank c = false := by
  rw [isDigit_iff] at digit
  simp only [isBlank, Bool.or_eq_false_iff, Bool.and_eq_false_iff, decide_eq_false_iff_not, beq_eq_false_iff_ne]
  omega

def signedDigits (negative : Bool) (n : Nat) : List Char :=
  if negative then '-' :: digitChars n else digitChars n

theorem isDigit_of_mem_digitChars {n : Nat} {c : Char} (mem : c ∈ digitChars n) : c.isDigit = true :=
  Nat.isDigit_of_mem_toDigits (by decide) (by decide) mem

theorem digitChars_ne_nil (n : Nat) : digitChars n ≠ [] := Nat.toDigits_ne_nil

theorem isDigit_or_eq_of_mem {negative : Bool} {n : Nat} {c : Char} (mem : c ∈ signedDigits negative n) :
    c.isDigit = true ∨ c = '-' := by
  rw [signedDigits] at mem
  split at mem
  · rcases List.mem_cons.1 mem with rfl | digit
    · exact .inr rfl
    · exact .inl (isDigit_of_mem_digitChars digit)
  · exact .inl (isDigit_of_mem_digitChars mem)

def IsNumberChar (c : Char) : Prop :=
  c.isDigit = true ∨ c ∈ ['-', '+', '.', 'e', 'n', 'a', 'i', 'f']

structure IsNumberText (cs : List Char) : Prop where
  ne_nil : cs ≠ []
  chars : ∀ c ∈ cs, IsNumberChar c

theorem IsNumberText.isWord {cs : List Char} (number : IsNumberText cs) : IsWord cs where
  ne_nil := number.ne_nil
  solid c mem := by
    have letters : ∀ c ∈ ['-', '+', '.', 'e', 'n', 'a', 'i', 'f'], isBlank c = false := by simp [isBlank]
    rcases number.chars c mem with digit | letter
    · exact solid_of_isDigit digit
    · exact letters c letter

theorem IsNumberText.notMem_semicolon {cs : List Char} (number : IsNumberText cs) : ';' ∉ cs := by
  intro mem
  rcases number.chars ';' mem with digit | letter
  · exact absurd digit (by decide)
  · exact absurd letter (by decide)

theorem isNumberText_signedDigits (negative : Bool) (n : Nat) : IsNumberText (signedDigits negative n) where
  ne_nil := by
    rw [signedDigits]
    split
    · exact List.cons_ne_nil _ _
    · exact digitChars_ne_nil n
  chars c mem := by
    rcases isDigit_or_eq_of_mem mem with digit | rfl
    · exact .inl digit
    · exact .inr (by decide)

/-! ### Integers read back -/

section Doubles

variable {digits : List Char} {e : Int}

theorem isNumberText_plain (number : IsNumberText digits) (e : Int) : IsNumberText (plain digits e) := by
  obtain ⟨nonempty, chars⟩ := number
  have point : IsNumberChar '.' := .inr (by decide)
  have zero : IsNumberChar '0' := .inl (by decide)
  rw [plain]
  split
  · refine ⟨List.cons_ne_nil _ _, ?_⟩
    simp only [List.forall_mem_cons, List.forall_mem_append, List.forall_mem_replicate]
    exact ⟨zero, point, .inr zero, chars⟩
  · dsimp only
    split
    · refine ⟨by simp [nonempty], ?_⟩
      simp only [List.forall_mem_append, List.forall_mem_replicate]
      exact ⟨chars, .inr zero⟩
    · refine ⟨by simp, ?_⟩
      simp only [List.forall_mem_append, List.forall_mem_cons]
      exact ⟨fun c mem => chars c (List.mem_of_mem_take mem), point, fun c mem => chars c (List.mem_of_mem_drop mem)⟩

theorem isNumberText_withExponent (number : IsNumberText digits) (e : Int) : IsNumberText (withExponent digits e) := by
  have chars := number.chars
  have size : ∀ c ∈ digitChars e.natAbs, IsNumberChar c := fun c mem => .inl (isDigit_of_mem_digitChars mem)
  have point : IsNumberChar '.' := .inr (by decide)
  have power : IsNumberChar 'e' := .inr (by decide)
  have zero : IsNumberChar '0' := .inl (by decide)
  have sign : IsNumberChar (if e < 0 then '-' else '+') := by split <;> exact .inr (by decide)
  refine ⟨by simp [withExponent], ?_⟩
  simp only [withExponent, List.forall_mem_append, List.forall_mem_cons, List.forall_mem_replicate]
  refine ⟨?_, power, sign, .inr zero, size⟩
  split
  · exact nofun
  · exact chars
  · rw [List.forall_mem_cons] at chars
    simp only [List.forall_mem_cons]
    exact ⟨chars.1, point, chars.2⟩

theorem isNumberText_signed {text : List Char} (number : IsNumberText text) (negative : Bool) :
    IsNumberText (signed negative text).toList := by
  rw [signed, String.toList_ofList]
  split
  · exact ⟨List.cons_ne_nil _ _, List.forall_mem_cons.2 ⟨.inr (by decide), number.chars⟩⟩
  · exact number

theorem isNumberText_append_zero {text : List Char} (number : IsNumberText text) :
    IsNumberText (if text.contains '.' then text else text ++ ['.', '0']) := by
  have added : ∀ c ∈ ['.', '0'], IsNumberChar c := by simp [IsNumberChar]
  split
  · exact number
  · exact ⟨by simp, List.forall_mem_append.2 ⟨number.chars, added⟩⟩

/-- The text of a double is never empty, and made of the characters of numbers only. -/
theorem isNumberText_shortestText (x : Float) : IsNumberText (shortestText x).toList := by
  rw [shortestText, writeWith]
  cases Binary64.decode x with
  | nan => exact ⟨by simp, by simp [IsNumberChar]⟩
  | infinite negative => cases negative <;> exact ⟨by simp, by simp [IsNumberChar]⟩
  | finite negative m e =>
    dsimp only
    split
    · exact isNumberText_signed ⟨by simp, by simp [IsNumberChar]⟩ negative
    · have digits := isNumberText_signedDigits false (shortest m e).1
      rw [signedDigits, if_neg Bool.false_ne_true] at digits
      split
      · exact isNumberText_signed (isNumberText_append_zero (isNumberText_plain digits _)) negative
      · exact isNumberText_signed (isNumberText_withExponent digits _) negative

theorem isWord_shortestText (x : Float) : IsWord (shortestText x).toList :=
  (isNumberText_shortestText x).isWord

end Doubles

end Polyhedra.Decimal
