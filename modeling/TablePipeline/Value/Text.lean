import TablePipeline.Value
import TablePipeline.Number.FloatText

/-!
# Values as text

The text of a value, as it stands in the cells of a report, in keys and in messages.  Strings
stand for themselves; a table is written as the list of its rows, each with its column names.

## Main definitions

* `displayStyle` — how doubles are written
* `Value.text` — the text of a value
* `compositeKey` — the text by which rows are grouped
-/

namespace TablePipeline

/-- Doubles are written positionally from `0.0001` up to `10 ^ 20` and with an exponent beyond;
whole numbers have no fraction, and of two equally near decimals the greater is taken. -/
def displayStyle : FloatStyle where
  least := -4
  greatest := 20
  wholeFraction := false
  exponentSign := false
  tie := .up

/-- The text of a double. -/
def floatText (x : Float) : String :=
  if x.isNaN then "NaN"
  else if x.isFinite then String.ofList (displayStyle.write x)
  else if x < 0 then "-inf" else "inf"

mutual

/-- The text of a value. -/
def Value.text : Value → String
  | .null => "null"
  | .boolean b => if b then "true" else "false"
  | .integer n => String.ofList (integerText n.toInt)
  | .float x => floatText x
  | .string s => s
  | .nested ⟨columns, rows⟩ => "[" ++ String.intercalate ", " (rowTexts columns rows) ++ "]"

/-- The texts of rows, each between braces. -/
def rowTexts (columns : List String) : List (List Value) → List String
  | [] => []
  | row :: rows =>
    ("\x7b" ++ String.intercalate ", " (fieldTexts columns row) ++ "\x7d") :: rowTexts columns rows

/-- The values of a row, each behind the name of its column. -/
def fieldTexts : List String → List Value → List String
  | column :: columns, v :: row => (column ++ ":" ++ v.text) :: fieldTexts columns row
  | _, _ => []

end

/-- Stands between the parts of a composite key; a control character, so that ordinary texts do
not contain it. -/
def keySeparator : String := "\x00"

/-- The texts of the values with the separator between them. -/
def compositeKey (values : List Value) : String :=
  keySeparator.intercalate (values.map Value.text)

end TablePipeline
