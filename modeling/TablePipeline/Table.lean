import TablePipeline.Value
import TablePipeline.Number.Integer
import TablePipeline.Text.Quoted

/-!
# Building and reading tables

Tables that come from outside are checked: column names have to be distinct and every row has to
be as wide as the columns.  Columns are found by name.

## Main definitions

* `SchemaError` — what can be wrong with columns and rows
* `checkDistinct` — refuses a repeated column name
* `Table.ofRows`, `Table.push` — checked construction
* `Table.columnIndex?`, `Table.requireColumn`, `Table.column` — columns by name
-/

namespace TablePipeline

/-- What can be wrong with the columns or rows of a table. -/
inductive SchemaError
  | unknownColumn (name : String)
  | duplicateColumn (name : String)
  | rowWidth (expected found : Nat)
  | notNested (name : String)
  deriving DecidableEq

/-- The text of a schema error. -/
def SchemaError.message : SchemaError → String
  | .unknownColumn name => "unknown column " ++ quoted name
  | .duplicateColumn name => "duplicate column " ++ quoted name
  | .rowWidth expected found =>
    "row has " ++ countText found ++ " values but the table has " ++ countText expected ++
      " columns"
  | .notNested name => "column " ++ quoted name ++ " does not hold nested tables"

/-- The first name that occurs in `seen` or for a second time. -/
def firstRepeated? (seen : List String) : List String → Option String
  | [] => none
  | name :: names => if name ∈ seen then some name else firstRepeated? (name :: seen) names

/-- Refuses the first repeated name. -/
def checkDistinct (columns : List String) : Except SchemaError Unit :=
  match firstRepeated? [] columns with
  | some name => .error (.duplicateColumn name)
  | none => .ok ()

theorem firstRepeated?_eq_none_iff {seen columns : List String} :
    firstRepeated? seen columns = none ↔ columns.Nodup ∧ ∀ c ∈ columns, c ∉ seen := by
  induction columns generalizing seen with
  | nil => simp [firstRepeated?]
  | cons name names ih =>
    by_cases h : name ∈ seen
    · simp [firstRepeated?, h]
    · simp only [firstRepeated?, if_neg h, ih, List.nodup_cons, List.mem_cons]
      grind

/-- The check passes exactly on distinct names. -/
theorem checkDistinct_eq_ok_iff {columns : List String} :
    checkDistinct columns = .ok () ↔ columns.Nodup := by
  unfold checkDistinct
  cases h : firstRepeated? [] columns with
  | some name =>
    simp only [reduceCtorEq, false_iff]
    intro hn
    have : firstRepeated? [] columns = none := firstRepeated?_eq_none_iff.2 ⟨hn, by simp⟩
    simp [this] at h
  | none => simpa using (firstRepeated?_eq_none_iff.1 h).1

/-- The value at an index of a row; a missing one counts as null. -/
def cellAt (row : Row) (i : Nat) : Value :=
  row[i]?.getD .null

namespace Table

/-- A table without rows. -/
def empty (columns : List String) : Table :=
  ⟨columns, []⟩

/-- The number of rows. -/
def size (t : Table) : Nat :=
  t.rows.length

/-- A table of the given columns and rows, if they fit each other. -/
def ofRows (columns : List String) (rows : List Row) : Except SchemaError Table := do
  checkDistinct columns
  match rows.find? (·.length != columns.length) with
  | some row => .error (.rowWidth columns.length row.length)
  | none => .ok ⟨columns, rows⟩

/-- The table with one more row at its end, if the row is as wide as the table. -/
def push (t : Table) (row : Row) : Except SchemaError Table :=
  if row.length = t.columns.length then .ok ⟨t.columns, t.rows ++ [row]⟩
  else .error (.rowWidth t.columns.length row.length)

/-- The position of a column. -/
def columnIndex? (t : Table) (name : String) : Option Nat :=
  t.columns.idxOf? name

/-- The position of a column that has to exist. -/
def requireColumn (t : Table) (name : String) : Except SchemaError Nat :=
  match t.columnIndex? name with
  | some i => .ok i
  | none => .error (.unknownColumn name)

/-- The values of one column, from top to bottom. -/
def column (t : Table) (i : Nat) : List Value :=
  t.rows.map (cellAt · i)

end Table

end TablePipeline
