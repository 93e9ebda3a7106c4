/-!
# Values and tables

The data that a pipeline works on.  A cell holds a value; a value is null, a boolean, a 64-bit
integer, a double, a text or a whole table.  A table has named columns and ordered rows, and a row
holds one value per column.  Values and tables are declared together because a table may stand in
a cell: that is how grouped rows are carried from one stage to the next.

The types do not force rows to be as wide as the columns.  `Table.WellFormed` says when they are,
at every depth, and every stage of a pipeline keeps it.

## Main definitions

* `Value`, `Table`, `Row` — the data
* `Value.Kind` — the kinds of values, with their names in messages
* `Value.isNull`, `Value.isNumeric`, `Value.toFloat?`, `Value.toBool?` — views of a value
* `Table.WellFormed` — column names are distinct and rows are as wide as the columns
-/

namespace TablePipeline

mutual

/-- The contents of a cell. -/
inductive Value where
  | null
  | boolean (b : Bool)
  | integer (n : Int64)
  | float (x : Float)
  | string (s : String)
  | nested (t : Table)

/-- Named columns and ordered rows. -/
structure Table where
  columns : List String
  rows : List (List Value)

end

/-- The values of one row, in the order of the columns. -/
abbrev Row := List Value

instance : Inhabited Value := ⟨.null⟩

instance : Inhabited Table := ⟨⟨[], []⟩⟩

namespace Value

/-- The kinds of values. -/
inductive Kind
  | null
  | boolean
  | integer
  | float
  | string
  | table
  deriving DecidableEq

/-- The name of a kind in messages. -/
def Kind.name : Kind → String
  | .null => "null"
  | .boolean => "boolean"
  | .integer => "integer"
  | .float => "float"
  | .string => "string"
  | .table => "table"

/-- The kind of a value. -/
def kind : Value → Kind
  | null => .null
  | boolean _ => .boolean
  | integer _ => .integer
  | float _ => .float
  | string _ => .string
  | nested _ => .table

/-- Whether the value is null. -/
def isNull : Value → Bool
  | null => true
  | _ => false

/-- Whether the value is an integer. -/
def isInteger : Value → Bool
  | integer _ => true
  | _ => false

/-- Whether the value is a number. -/
def isNumeric : Value → Bool
  | integer _ => true
  | float _ => true
  | _ => false

/-- A number as a double; other values are no numbers. -/
def toFloat? : Value → Option Float
  | integer n => some (Float.ofInt n.toInt)
  | float x => some x
  | _ => none

/-- A truth value for `and`, `or` and `not`, where null counts as false. -/
def toBool? : Value → Option Bool
  | boolean b => some b
  | null => some false
  | _ => none

@[simp] theorem isNull_eq_true_iff {v : Value} : v.isNull = true ↔ v = null := by
  cases v <;> simp [isNull]

/-- A value is a number exactly when it converts to a double. -/
theorem isNumeric_eq_isSome_toFloat? (v : Value) : v.isNumeric = v.toFloat?.isSome := by
  cases v <;> rfl

end Value

/-! ## Well-formed tables -/

mutual

/-- A value is well-formed when the table it may hold is. -/
def Value.WellFormed : Value → Prop
  | .nested t => t.WellFormed
  | _ => True

/-- Column names are distinct, every row has one value per column, and so has every table in a
cell. -/
def Table.WellFormed : Table → Prop
  | ⟨columns, rows⟩ => columns.Nodup ∧ wellFormedRows columns.length rows

/-- Every row has the given width and well-formed values. -/
def wellFormedRows (width : Nat) : List (List Value) → Prop
  | [] => True
  | row :: rows => row.length = width ∧ wellFormedValues row ∧ wellFormedRows width rows

/-- Every value of the row is well-formed. -/
def wellFormedValues : List Value → Prop
  | [] => True
  | v :: row => v.WellFormed ∧ wellFormedValues row

end

theorem wellFormedValues_iff {row : List Value} :
    wellFormedValues row ↔ ∀ v ∈ row, v.WellFormed := by
  induction row with
  | nil => simp [wellFormedValues]
  | cons v row ih => simp [wellFormedValues, ih]

theorem wellFormedRows_iff {width : Nat} {rows : List (List Value)} :
    wellFormedRows width rows ↔
      ∀ row ∈ rows, row.length = width ∧ ∀ v ∈ row, v.WellFormed := by
  induction rows with
  | nil => simp [wellFormedRows]
  | cons row rows ih => simp [wellFormedRows, ih, wellFormedValues_iff, and_assoc]

theorem Table.wellFormed_iff {t : Table} :
    t.WellFormed ↔ t.columns.Nodup ∧
      ∀ row ∈ t.rows, row.length = t.columns.length ∧ ∀ v ∈ row, v.WellFormed := by
  obtain ⟨columns, rows⟩ := t
  simp only [Table.WellFormed, wellFormedRows_iff]

end TablePipeline
