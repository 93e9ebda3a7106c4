import TablePipeline.Pipeline.Rows

/-!
# Groups

`group` makes one row of all rows with the same key: the key cells as they stand in the first of
these rows, and a table of what the rows hold besides the key.  The rows are gone through once: the
first row with a key opens a group behind all others, and every row goes to the end of the group of
its key.  So groups follow each other as their first rows do, and the rows of a group keep their
order.

## Main definitions

* `dropCells` — what is left of a row
* `Groups` — the groups of the rows so far
* `Groups.enter`, `Groups.add` — finding or opening a group, and putting a row into it
* `groupRows` — one row for each group
* `groupColumns` — the stage
-/

namespace TablePipeline

/-- The cells of a row that do not stand at the given positions. -/
def dropCells (indices : List Nat) (row : Row) : Row :=
  (row.zipIdx.filter fun cell => cell.2 ∉ indices).map Prod.fst

/-- The groups of the rows so far: the place of the group of each key, and the groups in the order
in which they were opened, each as its key cells and its nested table. -/
structure Groups where
  places : List (String × Nat)
  groups : List (Row × Table)

namespace Groups

/-- No row, no group. -/
def empty : Groups :=
  ⟨[], []⟩

/-- The place of the group with the given key cells, which is opened if there is none. -/
def enter (columns : List String) (cells : Row) (g : Groups) : Groups × Nat :=
  match g.places.lookup (compositeKey cells) with
  | some place => (g, place)
  | none =>
    (⟨(compositeKey cells, g.groups.length) :: g.places,
      g.groups ++ [(cells, Table.empty columns)]⟩, g.groups.length)

/-- Puts a row, without the cells at the given positions, into the group of its key. -/
def add (indices : List Nat) (columns : List String) (g : Groups) (row : Row) : Groups :=
  let (entered, place) := g.enter columns (pick indices row)
  ⟨entered.places, entered.groups.modify place fun (cells, nested) =>
    (cells, ⟨nested.columns, nested.rows ++ [dropCells indices row]⟩)⟩

end Groups

/-- One row for each group: its key cells and its nested table. -/
def groupRows (indices : List Nat) (t : Table) : List Row :=
  let columns := t.columnNames (complement t.columns.length indices)
  let all := t.rows.foldl (Groups.add indices columns) Groups.empty
  all.groups.map fun (cells, nested) => cells ++ [.nested nested]

/-- Groups the rows by the named columns.  Unknown columns are refused before repeated names, the
nested one among them. -/
def groupColumns (columns : List String) (nested : String) (t : Table) : StageResult :=
  StageLabel.ofSchema (.stage "group") do
    let indices ← t.columnIndices columns
    checkDistinct (columns ++ [nested])
    pure ⟨columns ++ [nested], groupRows indices t⟩

end TablePipeline
