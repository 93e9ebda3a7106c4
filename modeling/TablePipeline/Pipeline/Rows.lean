import TablePipeline.Expr.Eval
import TablePipeline.Pipeline.Columns
import TablePipeline.Pipeline.SortMethod
import TablePipeline.Value.Order

/-!
# Stages that choose and order rows

`head` and `tail` take rows from the two ends, `filter` keeps the rows on which a condition is true,
`distinct` keeps the first row of each key, and the sorts put the rows in order.  None of them
changes a row or a column name.

## Main definitions

* `firstOfEach` — the first element of each key
* `Table.rowKey` — the text by which rows are told apart
* `takeRows`, `takeLastRows`, `filterRows`, `distinctRows` — the stages that choose
* `rowCompare`, `sortRows` — the order of rows and the stages that sort
* `countRows` — the number of rows, as a table
-/

namespace TablePipeline

/-- The first rows. -/
def takeRows (n : Nat) (t : Table) : Table :=
  ⟨t.columns, t.rows.take n⟩

/-- The last rows. -/
def takeLastRows (n : Nat) (t : Table) : Table :=
  ⟨t.columns, t.rows.drop (t.rows.length - n)⟩

/-- The number of rows, as the only cell of a table. -/
def countRows (t : Table) : Table :=
  ⟨["count"], [[.integer (Int64.ofInt t.size)]]⟩

/-! ## Filter -/

/-- Whether a condition is true on a row.  It has to be true or false: null is no truth value
here. -/
def conditionHolds (condition : Expr) (columns : List String) (row : Row) :
    Except StageError Bool := do
  match ← StageLabel.ofEval (.stage "filter") (condition.eval columns row) with
  | .boolean b => pure b
  | v => throw (.filterNotBoolean v.kind)

/-- The rows on which the condition is true; the first row without a truth value is the error. -/
def keepWhere (condition : Expr) (columns : List String) : List Row → Except StageError (List Row)
  | [] => pure []
  | row :: rest => do
    let holds ← conditionHolds condition columns row
    let kept ← keepWhere condition columns rest
    pure (if holds then row :: kept else kept)

/-- The rows on which the condition is true. -/
def filterRows (condition : Expr) (t : Table) : StageResult := do
  let kept ← keepWhere condition t.columns t.rows
  pure ⟨t.columns, kept⟩

/-! ## First rows of keys -/

/-- The elements whose key has not been seen, among `seen` or earlier in the list. -/
def firstOfEach {α : Type} (key : α → String) : List String → List α → List α
  | _, [] => []
  | seen, a :: rest =>
    if key a ∈ seen then firstOfEach key seen rest
    else a :: firstOfEach key (key a :: seen) rest

theorem firstOfEach_sublist {α : Type} (key : α → String) (seen : List String) (l : List α) :
    (firstOfEach key seen l).Sublist l := by
  fun_induction firstOfEach key seen l with
  | case1 => exact List.Sublist.slnil
  | case2 _ _ _ _ ih => exact ih.cons _
  | case3 _ _ _ _ ih => exact ih.cons_cons _

theorem key_notMem_of_mem_firstOfEach {α : Type} {key : α → String} {seen : List String}
    {l : List α} {a : α} (h : a ∈ firstOfEach key seen l) : key a ∉ seen := by
  fun_induction firstOfEach key seen l with
  | case1 => cases h
  | case2 _ _ _ _ ih => exact ih h
  | case3 seen b rest hb ih =>
    rcases List.mem_cons.1 h with rfl | h
    · exact hb
    · exact fun hmem => ih h (List.mem_cons_of_mem _ hmem)

/-- No key is kept twice. -/
theorem nodup_map_firstOfEach {α : Type} (key : α → String) (seen : List String) (l : List α) :
    ((firstOfEach key seen l).map key).Nodup := by
  fun_induction firstOfEach key seen l with
  | case1 => exact List.nodup_nil
  | case2 _ _ _ _ ih => exact ih
  | case3 seen a rest _ ih =>
    rw [List.map_cons, List.nodup_cons]
    refine ⟨fun hmem => ?_, ih⟩
    obtain ⟨b, hb, heq⟩ := List.mem_map.1 hmem
    exact key_notMem_of_mem_firstOfEach hb (heq ▸ List.mem_cons_self)

/-- The text by which rows are told apart at given positions. -/
def rowKey (indices : List Nat) (row : Row) : String :=
  compositeKey (pick indices row)

/-- The positions that make up the key of `distinct`: all of them when no column is named. -/
def distinctIndices (columns : List String) (t : Table) : Except SchemaError (List Nat) :=
  if columns.isEmpty then .ok (List.range t.columns.length) else t.columnIndices columns

/-- The first row of each key.  A column that does not exist leaves no row at all. -/
def distinctRows (columns : List String) (t : Table) : Table :=
  match distinctIndices columns t with
  | .ok indices => ⟨t.columns, firstOfEach (rowKey indices) [] t.rows⟩
  | .error _ => Table.empty t.columns

/-! ## Sorts -/

/-- The order of two rows by the cells at given positions, the first difference deciding. -/
def rowCompare (descending : Bool) : List Nat → Row → Row → Ordering
  | [], _, _ => .eq
  | i :: rest, a, b =>
    (Value.sortCompare descending (cellAt a i) (cellAt b i)).then (rowCompare descending rest a b)

/-- The word for a sort. -/
def sortName (descending : Bool) : String :=
  if descending then "sortd" else "sorta"

/-- The rows in order of the named columns; rows that do not differ there keep their order.  Cells
that are compared in different ways may be in no order at all, and then it is up to the method what
becomes of the rows. -/
def sortRows (method : SortMethod) (descending : Bool) (columns : List String) (t : Table) :
    StageResult := do
  let indices ← StageLabel.ofSchema (.stage (sortName descending)) (t.columnIndices columns)
  match method.sort (rowCompare descending indices) t.rows with
  | some rows => pure ⟨t.columns, rows⟩
  | none => throw .sortGivenUp

/-- A sort whose columns exist does what its method does. -/
theorem sortRows_of_ok {method : SortMethod} {descending : Bool} {columns : List String} {t : Table}
    {indices : List Nat} (h : t.columnIndices columns = .ok indices) :
    sortRows method descending columns t =
      match method.sort (rowCompare descending indices) t.rows with
      | some rows => .ok ⟨t.columns, rows⟩
      | none => .error .sortGivenUp := by
  rw [sortRows, h]
  rfl

end TablePipeline
