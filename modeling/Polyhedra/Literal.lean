import Polyhedra.DenseMatrix

/-!
# Matrix literals

A literal is cut at semicolons and its pieces at blanks; pieces without words are dropped, and each of
the others is a row. A word that is no number is reported before the literal is found empty or its rows
uneven.
-/

namespace Polyhedra.Literal

open Polyhedra.Text

variable {α : Type} [Numeral α]

/-- The values of a row, or nothing if some word is no number. -/
def readRow? (row : List Char) : Option (List α) :=
  (words row).mapM Numeral.read?

/-- The pieces of a literal that have words. -/
def rowTexts (literal : List Char) : List (List Char) :=
  (pieces ';' literal).filter fun piece => !(words piece).isEmpty

/-- The rows of a literal, of any lengths. The first row with a word that is no number is reported. -/
def rows? (literal : String) : Except MatrixFault (List (List α)) :=
  (rowTexts literal.toList).mapM fun row =>
    match readRow? row with
    | some values => .ok values
    | none => .error (.notNumeric (String.ofList (trim row)))

def matrix? [Zero α] (literal : String) : Except MatrixFault (DenseMatrix α) :=
  match rows? literal with
  | .error fault => .error fault
  | .ok [] => .error (.noRows literal)
  | .ok rows => DenseMatrix.ofRows? rows

end Polyhedra.Literal
