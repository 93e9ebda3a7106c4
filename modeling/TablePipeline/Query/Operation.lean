import TablePipeline.Expr

/-!
# Queries

A query names a source and the operations that its table goes through, one after the other.

## Main definitions

* `Assignment`, `RenamePair` — parts of operations
* `Operation` — the stages of a pipeline, with their names
* `Query` — a source and operations
-/

namespace TablePipeline

/-- An expression whose values become a column. -/
structure Assignment where
  column : String
  expr : Expr

/-- A column and its new name. -/
structure RenamePair where
  old : String
  new : String
  deriving DecidableEq

/-- A stage of a pipeline. -/
inductive Operation
  /-- The first rows. -/
  | head (count : Nat)
  /-- The last rows. -/
  | tail (count : Nat)
  /-- Rows in ascending order of the columns. -/
  | sortAscending (columns : List String)
  /-- Rows in descending order of the columns. -/
  | sortDescending (columns : List String)
  /-- The given columns in the given order. -/
  | select (columns : List String)
  /-- The rows on which the condition is true. -/
  | filter (condition : Expr)
  /-- One row for each key, with a table of the other columns. -/
  | group (columns : List String) (nested : String)
  /-- Columns computed from each row. -/
  | transform (assignments : List Assignment)
  /-- Columns computed from the nested table of each row. -/
  | reduce (nested : String) (assignments : List Assignment)
  /-- The number of rows. -/
  | count
  /-- The first row of each key; all columns are the key when none is given. -/
  | distinct (columns : List String)
  /-- Columns under new names. -/
  | rename (pairs : List RenamePair)
  /-- All but the given columns. -/
  | remove (columns : List String)

/-- The word that introduces an operation. -/
def Operation.name : Operation → String
  | head _ => "head"
  | tail _ => "tail"
  | sortAscending _ => "sorta"
  | sortDescending _ => "sortd"
  | select _ => "select"
  | filter _ => "filter"
  | group _ _ => "group"
  | transform _ => "transform"
  | reduce _ _ => "reduce"
  | count => "count"
  | distinct _ => "distinct"
  | rename _ => "rename"
  | remove _ => "remove"

/-- The nested column of `group` and `reduce` when none is named. -/
def defaultNested : String := "grouped"

/-- A source and the operations its table goes through. -/
structure Query where
  source : String
  operations : List Operation

end TablePipeline
