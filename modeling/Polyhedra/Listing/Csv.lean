/-!
# Comma-separated values

A table of text fields. Fields are separated by commas and records by line ends; a field that holds a
comma, a quote or a line end is written in quotes, with its quotes doubled. Records are written with a
carriage return and a line feed, and read with either of them or both. When reading, a quote opens a
quoted field only at the start of the field, and what follows the closing quote is added to the field.
-/

namespace Polyhedra.Csv

/-- Whether a character makes quotes necessary. -/
def isSpecial (c : Char) : Bool :=
  c == ',' || c == '"' || c == '\r' || c == '\n'

/-- A field as it is written. -/
def field (text : String) : String :=
  let cs := text.toList
  if cs.any isSpecial then
    String.ofList (('"' :: cs.flatMap fun c => if c = '"' then ['"', '"'] else [c]) ++ ['"'])
  else text

/-- A record as it is written, with its line end. -/
def record (fields : List String) : String :=
  ",".intercalate (fields.map field) ++ "\r\n"

/-- Where reading stands: before a record, before a field, inside a field without quotes, inside quotes,
or behind a quote that may have closed the field. -/
inductive Place where
  | recordStart
  | fieldStart
  | unquoted
  | quoted
  | afterQuote
  deriving DecidableEq, Repr

/-- The record with one more field. Fields and characters are collected with the latest first. -/
def closeField (fields : List String) (chars : List Char) : List String :=
  String.ofList chars.reverse :: fields

/-- Read records. A line end closes the record except inside quotes; a line without characters is a
record without fields, and the end of the text closes whatever is open. -/
def readFrom : Place → (fields : List String) → (chars : List Char) → List Char → List (List String)
  | .recordStart, _, _, [] => []
  | _, fields, chars, [] => [(closeField fields chars).reverse]
  | .quoted, fields, chars, c :: rest =>
    if c = '"' then readFrom .afterQuote fields chars rest else readFrom .quoted fields (c :: chars) rest
  | place, fields, chars, '\r' :: '\n' :: rest => closeRecord place fields chars :: readFrom .recordStart [] [] rest
  | place, fields, chars, c :: rest =>
    if c = '\r' ∨ c = '\n' then closeRecord place fields chars :: readFrom .recordStart [] [] rest
    else if c = ',' then readFrom .fieldStart (closeField fields chars) [] rest
    else if c = '"' then
      match place with
      | .afterQuote => readFrom .quoted fields ('"' :: chars) rest
      | .unquoted => readFrom .unquoted fields ('"' :: chars) rest
      | _ => readFrom .quoted fields chars rest
    else readFrom .unquoted fields (c :: chars) rest
where
  closeRecord (place : Place) (fields : List String) (chars : List Char) : List String :=
    match place with
    | .recordStart => []
    | _ => (closeField fields chars).reverse

def records (text : String) : List (List String) :=
  readFrom .recordStart [] [] text.toList

end Polyhedra.Csv
