import TablePipeline.Pipeline.Assign
import TablePipeline.Pipeline.Group

/-!
# Running pipelines

Every operation takes a table to a table or fails; a pipeline runs its operations one after the
other and ends with the first failure.  How rows are sorted is left open (`SortMethod`).

## Main definitions

* `Operation.apply` — one stage
* `runOperations`, `Query.run` — all stages
-/

namespace TablePipeline

/-- The table that an operation makes of a table. -/
def Operation.apply (method : SortMethod) : Operation → Table → StageResult
  | head n, t => .ok (takeRows n t)
  | tail n, t => .ok (takeLastRows n t)
  | sortAscending columns, t => sortRows method false columns t
  | sortDescending columns, t => sortRows method true columns t
  | select columns, t => selectColumns columns t
  | filter condition, t => filterRows condition t
  | group columns nested, t => groupColumns columns nested t
  | transform assignments, t => transformRows assignments t
  | reduce nested assignments, t => reduceRows nested assignments t
  | count, t => .ok (countRows t)
  | distinct columns, t => .ok (distinctRows columns t)
  | rename pairs, t => renameColumns pairs t
  | remove columns, t => removeColumns columns t

/-- Applies operations one after the other. -/
def runOperations (method : SortMethod) : List Operation → Table → StageResult
  | [], t => .ok t
  | op :: rest, t => do
    let t ← op.apply method t
    runOperations method rest t

/-- Applies the operations of a query to the table of its source. -/
def Query.run (q : Query) (method : SortMethod) (t : Table) : StageResult :=
  runOperations method q.operations t

/-- Operations run in two parts, the second on the result of the first. -/
theorem runOperations_append (method : SortMethod) (first second : List Operation) (t : Table) :
    runOperations method (first ++ second) t =
      (runOperations method first t).bind (runOperations method second) := by
  induction first generalizing t with
  | nil => rfl
  | cons op rest ih =>
    simp only [List.cons_append, runOperations]
    cases h : op.apply method t with
    | error e => rfl
    | ok t => exact ih t

end TablePipeline
