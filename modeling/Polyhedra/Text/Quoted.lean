import Polyhedra.Text.Printable

/-!
# Values shown in messages

Quoted text stands in single quotes, unless it holds a single quote and no double quote. Inside the
quotes a backslash and the quote in use are escaped, and so is every character that is not printable.
Rows of values are shown in round brackets, with a comma after a lone value, or in square brackets.
-/

namespace Polyhedra.Text

/-- The hexadecimal digits of a number, padded with zeros to a least width. -/
def hexadecimal (width n : Nat) : List Char :=
  let digits := Nat.toDigits 16 n
  List.replicate (width - digits.length) '0' ++ digits

/-- A character as it stands between quotes. -/
def escaped (quote c : Char) : List Char :=
  if c = quote ∨ c = '\\' then ['\\', c]
  else if c = '\n' then ['\\', 'n']
  else if c = '\r' then ['\\', 'r']
  else if c = '\t' then ['\\', 't']
  else if isPrintable c then [c]
  else if c.toNat < 0x100 then '\\' :: 'x' :: hexadecimal 2 c.toNat
  else if c.toNat < 0x10000 then '\\' :: 'u' :: hexadecimal 4 c.toNat
  else '\\' :: 'U' :: hexadecimal 8 c.toNat

def quoted (text : String) : String :=
  let cs := text.toList
  let quote := if cs.contains '\'' && !cs.contains '"' then '"' else '\''
  String.ofList ((quote :: cs.flatMap (escaped quote)) ++ [quote])

/-- Values in round brackets; a lone value is followed by a comma. -/
def tuple : List String → String
  | [] => "()"
  | [item] => "(" ++ item ++ ",)"
  | items => "(" ++ ", ".intercalate items ++ ")"

def bracketed (items : List String) : String :=
  "[" ++ ", ".intercalate items ++ "]"

end Polyhedra.Text
