import TablePipeline.Expr.Aggregate
import TablePipeline.Pipeline.Rows

/-!
# Stages that compute columns

`transform` computes columns from each row and `reduce` computes them from the nested table of each
row.  An assignment to an existing column replaces its cell, one to a new name adds a column at the
end; the layout of the result is planned once, from the names alone.  Every expression sees the row
as it came in, never the result of another assignment.

## Main definitions

* `AssignmentPlan` — the columns of the result and the target of each assignment
* `AssignmentPlan.write` — the row of the result
* `assignmentValues` — the values of all assignments on one row
* `transformRows`, `reduceRows` — the stages
-/

namespace TablePipeline

/-- The columns of the result, and for each assignment the position it writes to. -/
structure AssignmentPlan where
  columns : List String
  targets : List Nat
  deriving DecidableEq

namespace AssignmentPlan

/-- The plan for assignments to a table with the given columns. -/
def make (columns : List String) : List Assignment → AssignmentPlan
  | [] => ⟨columns, []⟩
  | a :: rest =>
    match columns.idxOf? a.column with
    | some i =>
      let plan := make columns rest
      ⟨plan.columns, i :: plan.targets⟩
    | none =>
      let plan := make (columns ++ [a.column]) rest
      ⟨plan.columns, columns.length :: plan.targets⟩

/-- The row with nulls in place of the cells it lacks. -/
def seed (plan : AssignmentPlan) (row : Row) : Row :=
  row ++ List.replicate (plan.columns.length - row.length) .null

/-- Writes values to their targets, one after the other. -/
def writeAll (row : Row) : List Nat → List Value → Row
  | i :: targets, v :: values => writeAll (row.set i v) targets values
  | _, _ => row

/-- The row of the result. -/
def write (plan : AssignmentPlan) (row : Row) (values : List Value) : Row :=
  writeAll (plan.seed row) plan.targets values

/-- There is one target for each assignment. -/
theorem length_targets_make (columns : List String) (assignments : List Assignment) :
    (make columns assignments).targets.length = assignments.length := by
  fun_induction make columns assignments with
  | case1 => rfl
  | case2 _ _ _ _ _ _ ih => exact congrArg (· + 1) ih
  | case3 _ _ _ _ _ ih => exact congrArg (· + 1) ih

theorem length_writeAll (row : Row) (targets : List Nat) (values : List Value) :
    (writeAll row targets values).length = row.length := by
  fun_induction writeAll row targets values with
  | case1 row i targets v values ih => rw [ih, List.length_set]
  | case2 => rfl

end AssignmentPlan

/-- The values of all assignments, the first error being the error of the whole.  The error names
the column that was to be computed. -/
def assignmentValues (name : String) (value : Expr → Outcome) (assignments : List Assignment) :
    Except StageError (List Value) :=
  assignments.mapM fun a => StageLabel.ofEval (.column name a.column) (value a.expr)

/-- Columns computed from each row. -/
def transformRows (assignments : List Assignment) (t : Table) : StageResult := do
  let plan := AssignmentPlan.make t.columns assignments
  let rows ← t.rows.mapM fun row => do
    let values ← assignmentValues "transform" (·.eval t.columns row) assignments
    pure (plan.write row values)
  pure ⟨plan.columns, rows⟩

/-- The table in a cell that has to hold one. -/
def requireNested (name : String) (v : Value) : Except StageError Table :=
  match v with
  | .nested t => .ok t
  | _ => .error (.schema (.stage "reduce") (.notNested name))

/-- Columns computed from the nested table of each row. -/
def reduceRows (nested : String) (assignments : List Assignment) (t : Table) : StageResult := do
  let i ← StageLabel.ofSchema (.stage "reduce") (t.requireColumn nested)
  let plan := AssignmentPlan.make t.columns assignments
  let rows ← t.rows.mapM fun row => do
    let inner ← requireNested nested (cellAt row i)
    let values ← assignmentValues "reduce" (·.aggregate inner) assignments
    pure (plan.write row values)
  pure ⟨plan.columns, rows⟩

end TablePipeline
