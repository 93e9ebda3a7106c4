import TablePipeline.Csv.Fields
import TablePipeline.Source.Error
import TablePipeline.Source.Infer

/-!
# Tables from comma-separated text

The first record names the columns; every other record is a row, whose values are inferred.  Missing
fields are null and surplus ones are left out.  White space at the ends of a field does not count,
quoted or not, and a byte order mark in front of the text is skipped.

Records are decoded one after the other, so that a repeated column name is found before a record
that is no text.

## Main definitions

* `decodeRecord` — the texts of the fields of a record
* `csvRow` — the row of a record
* `readCsv` — the table of a text
-/

namespace TablePipeline

/-- The bytes behind a byte order mark. -/
def dropByteOrderMark (bytes : List UInt8) : List UInt8 :=
  if [0xEF, 0xBB, 0xBF].isPrefixOf bytes then bytes.drop 3 else bytes

/-- The text of a field, without white space at its ends. -/
def decodeField (bytes : List UInt8) : Except LoadError String :=
  match String.fromUTF8? bytes.toByteArray with
  | some s => .ok (String.ofList (trimBlanks s.toList))
  | none => .error .badCsv

/-- The texts of the fields of a record. -/
def decodeRecord (fields : List (List UInt8)) : Except LoadError (List String) :=
  fields.mapM decodeField

/-- The row of a record, padded with nulls or cut to the number of columns. -/
def csvRow (width : Nat) (fields : List String) : Row :=
  (fields.take width).map inferValue ++ List.replicate (width - fields.length) .null

theorem length_csvRow (width : Nat) (fields : List String) :
    (csvRow width fields).length = width := by
  rw [csvRow, List.length_append, List.length_map, List.length_take, List.length_replicate]
  omega

/-- The table of a text.  A text without records has no columns. -/
def readCsv (bytes : List UInt8) : Except LoadError Table :=
  match splitRecords (dropByteOrderMark bytes) with
  | [] => .ok (Table.empty [])
  | header :: records => do
    let columns ← decodeRecord header
    (checkDistinct columns).mapError .schema
    let rows ← records.mapM fun record => do
      let fields ← decodeRecord record
      pure (csvRow columns.length fields)
    pure ⟨columns, rows⟩

end TablePipeline
