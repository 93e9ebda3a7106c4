import TablePipeline.Json.Printer
import TablePipeline.Number.FloatText
import TablePipeline.Number.Real
import TablePipeline.Value

/-!
# Cells as JSON and JSON as cells

A table is written as an array of objects, one for each row, with the column names as member names;
a table in a cell is written in the same way.  Doubles that are no numbers are written as null.

Reading goes the other way for single cells only: a number without fraction and exponent that is in
range is an integer, any other finite number is a double, and arrays and objects become their text.

## Main definitions

* `jsonFloatStyle` — how doubles are written
* `Value.toJson`, `Table.toJson` — cells and tables as JSON
* `JsonValue.toValue` — JSON as a cell
-/

namespace TablePipeline

/-- Doubles are written positionally from `0.00001` up to `10 ^ 15` and with an exponent and its
sign beyond; whole numbers keep the fraction `.0`, and of two equally near decimals the even one is
taken. -/
def jsonFloatStyle : FloatStyle where
  least := -5
  greatest := 15
  wholeFraction := true
  exponentSign := true
  tie := .even

mutual

/-- A cell as JSON. -/
def Value.toJson : Value → JsonValue
  | .null => .null
  | .boolean b => .boolean b
  | .integer n => .ofInteger n.toInt
  | .float x => if x.isFinite then .number (jsonFloatStyle.write x) else .null
  | .string s => .string s
  | .nested ⟨columns, rows⟩ => .array (rowObjects columns rows)

/-- Rows as objects. -/
def rowObjects (columns : List String) : List (List Value) → List JsonValue
  | [] => []
  | row :: rest => .object (rowMembers columns row) :: rowObjects columns rest

/-- The cells of a row under the names of their columns. -/
def rowMembers : List String → List Value → List (String × JsonValue)
  | column :: columns, v :: row => (column, v.toJson) :: rowMembers columns row
  | _, _ => []

end

/-- A table as an array of objects. -/
def Table.toJson (t : Table) : JsonValue :=
  .array (rowObjects t.columns t.rows)

theorem rowObjects_eq_map (columns : List String) (rows : List Row) :
    rowObjects columns rows = rows.map fun row => .object (rowMembers columns row) := by
  induction rows with
  | nil => rfl
  | cons row rest ih => simp only [rowObjects, ih, List.map_cons]

theorem rowMembers_eq_zipWith (columns : List String) (row : Row) :
    rowMembers columns row = List.zipWith (fun column v => (column, v.toJson)) columns row := by
  induction columns generalizing row with
  | nil => simp [rowMembers]
  | cons column columns ih =>
    cases row with
    | nil => simp [rowMembers]
    | cons v row => simp only [rowMembers, ih, List.zipWith_cons_cons]

/-- A number as a cell: an integer if it is one and in range, else a double if it is finite. -/
def numberCell (text : List Char) : Value :=
  match readInteger? text with
  | some n => .integer n
  | none =>
    match readFloat? text with
    | some x => if x.isFinite then .float x else .null
    | none => .null

/-- JSON as a cell.  Arrays and objects are kept as their text. -/
def JsonValue.toValue : JsonValue → Value
  | .null => .null
  | .boolean b => .boolean b
  | .number text => numberCell text
  | .string s => .string s
  | v => .string v.compact

end TablePipeline
