import TablePipeline.Proofs.Pipeline.Computed

/-!
# What assignments write, and how they fail

`transform` and `reduce` keep the columns and rows of a table in their order.  New columns stand
behind the old ones in the order in which they are first assigned (`newColumns`).  Each row of the
result is as wide as the columns, and a cell is the value of the last assignment to its column, on
the row as it came in, or the cell it was (`Table.Writes`).

A failure is described by the list of all evaluations that fail, row by row and within a row
assignment by assignment: the error of a stage is the first one of this list
(`mapM_eq_error_iff`).

## Main definitions

* `newColumns` — the columns that assignments add
* `Table.Writes` — a table with the values of assignments
* `Table.transformFailures`, `Table.reduceFailures` — everything that fails, in order

## Main statements

* `AssignmentPlan.columns_make` — the columns of the result
* `transform_reduce_computed` — the stages
-/

namespace TablePipeline

/-! ### Columns -/

/-- The columns that assignments add, each once, in the order in which they are first assigned. -/
def newColumns (columns : List String) (assignments : List Assignment) : List String :=
  ((assignments.map (·.column)).filter (· ∉ columns)).eraseDups

namespace AssignmentPlan

/-- **The columns of the result** are those of the table and then those that are added. -/
theorem columns_make (columns : List String) (assignments : List Assignment) :
    (make columns assignments).columns = columns ++ newColumns columns assignments := by
  refine Eq.trans ?_ (foldl_addNew columns (assignments.map (·.column)))
  induction assignments generalizing columns with
  | nil => rfl
  | cons a rest ih => rw [columns_make_cons, ih]; rfl

end AssignmentPlan

/-! ### Values and failures -/

/-- The failures of assignments on one row, in order. -/
def assignmentFailures (name : String) (value : Expr → Outcome) (assignments : List Assignment) :
    List StageError :=
  assignments.flatMap fun a =>
    match value a.expr with
    | .error e => [.eval (.column name a.column) e]
    | .ok _ => []

namespace Table

/-- A table holds what assignments write into the rows of another one.  The relation says which
values an expression has on a row that came in. -/
structure Writes (t : Table) (assignments : List Assignment) (value : Row → Expr → Value → Prop)
    (u : Table) : Prop where
  columns : u.columns = t.columns ++ newColumns t.columns assignments
  rows : List.Forall₂ (fun row out =>
    out.length = u.columns.length ∧ ∀ name ∈ u.columns,
      match lastAssignment? assignments name with
      | some a => value row a.expr (u.cell out name)
      | none => u.cell out name = t.cell row name) t.rows u.rows

/-- The failures of `transform`: row by row, the assignments of each row in order. -/
def transformFailures (t : Table) (assignments : List Assignment) : List StageError :=
  t.rows.flatMap fun row => assignmentFailures "transform" (·.eval t.columns row) assignments

/-- The failures of `reduce`: that of the column, or row by row that of the cell or those of the
assignments in order. -/
def reduceFailures (t : Table) (nested : String) (assignments : List Assignment) :
    List StageError :=
  if nested ∈ t.columns then
    t.rows.flatMap fun row =>
      match t.cell row nested with
      | .nested inner => assignmentFailures "reduce" (·.aggregate inner) assignments
      | _ => [.schema (.stage "reduce") (.notNested nested)]
  else [.schema (.stage "reduce") (.unknownColumn nested)]

end Table

section Stages

variable {t : Table} {assignments : List Assignment} {nested : String}

theorem mem_of_lastAssignment? {a : Assignment} {name : String}
    (h : lastAssignment? assignments name = some a) : a ∈ assignments :=
  List.mem_reverse.1 (List.mem_of_find?_eq_some h)

theorem Table.writes_assign {value : Row → Assignment → Value}
    {holds : Row → Expr → Value → Prop} (ht : t.WellFormed)
    (hvalue : ∀ row ∈ t.rows, ∀ a ∈ assignments, holds row a.expr (value row a)) :
    t.Writes assignments holds (t.assign assignments value) where
  columns := AssignmentPlan.columns_make t.columns assignments
  rows := by
    refine List.forall₂_map_right_iff.2 (List.forall₂_same.2 fun row hrow => ?_)
    refine ⟨length_assignRow (ht.length_row hrow), fun name _ => ?_⟩
    have hcell : (t.assign assignments value).cell
        (assignRow t.columns assignments (value row) row) name = _ :=
      cellAt_assignRow (ht.length_row hrow)
    cases hlast : lastAssignment? assignments name with
    | some a =>
      rw [hlast] at hcell
      show holds row a.expr _
      rw [hcell]
      exact hvalue row hrow a (mem_of_lastAssignment? hlast)
    | none =>
      rw [hlast] at hcell
      exact hcell

theorem assignmentValues_eq_error_iff {name : String} {value : Expr → Outcome} {e : StageError} :
    assignmentValues name value assignments = .error e ↔
      (assignmentFailures name value assignments).head? = some e := by
  refine mapM_eq_error_iff fun a e => ?_
  cases value a.expr with
  | error e' => simp [StageLabel.ofEval, Except.mapError]
  | ok v => simp [StageLabel.ofEval, Except.mapError]

theorem transformRows_eq_error_iff {e : StageError} :
    transformRows assignments t = .error e ↔
      (t.transformFailures assignments).head? = some e := by
  refine bind_pure_eq_error_iff.trans (mapM_eq_error_iff fun row e => ?_)
  exact bind_pure_eq_error_iff.trans assignmentValues_eq_error_iff

theorem reduceRows_eq_error_iff {e : StageError} :
    reduceRows nested assignments t = .error e ↔
      (t.reduceFailures nested assignments).head? = some e := by
  rw [reduceRows, Table.requireColumn, Table.reduceFailures]
  by_cases hnested : nested ∈ t.columns
  · rw [Table.columnIndex?_of_mem hnested, if_pos hnested]
    refine bind_pure_eq_error_iff.trans (mapM_eq_error_iff fun row e => ?_)
    show (requireNested nested (t.cell row nested) >>= _) = .error e ↔ _
    cases t.cell row nested with
    | nested inner => exact bind_pure_eq_error_iff.trans assignmentValues_eq_error_iff
    | null | boolean | integer | float | string =>
      rw [List.head?_cons, Option.some_inj]
      exact ⟨fun h => Except.error.inj h, congrArg Except.error⟩
  · rw [Table.columnIndex?_eq_none_iff.2 hnested, if_neg hnested, List.head?_cons, Option.some_inj]
    exact ⟨fun h => Except.error.inj h, congrArg Except.error⟩

end Stages

section

variable (method : SortMethod) (t : Table) (nested : String) (assignments : List Assignment)

/-- **What `transform` and `reduce` compute.**  If they succeed, they write the values that the
expressions have on the rows that came in, or over the tables in the cells that came in.  Their
error is the first of all failures, row by row; `transform` fails exactly if an evaluation does, and
`reduce` also if the column is missing or a cell of it is no table. -/
theorem transform_reduce_computed (ht : t.WellFormed) :
    ((∀ u, (Operation.transform assignments).apply method t = .ok u →
        t.Writes assignments (fun row e v => e.eval t.columns row = .ok v) u) ∧
      (∀ e, (Operation.transform assignments).apply method t = .error e ↔
        (t.transformFailures assignments).head? = some e) ∧
      ((∃ e, (Operation.transform assignments).apply method t = .error e) ↔
        ∃ row ∈ t.rows, ∃ a ∈ assignments, ∃ e, a.expr.eval t.columns row = .error e)) ∧
    ((∀ u, (Operation.reduce nested assignments).apply method t = .ok u →
        t.Writes assignments
          (fun row e v => ∃ inner, t.cell row nested = .nested inner ∧ e.aggregate inner = .ok v)
          u) ∧
      (∀ e, (Operation.reduce nested assignments).apply method t = .error e ↔
        (t.reduceFailures nested assignments).head? = some e) ∧
      ((∃ e, (Operation.reduce nested assignments).apply method t = .error e) ↔
        nested ∉ t.columns ∨ ∃ row ∈ t.rows, (∀ inner, t.cell row nested ≠ .nested inner) ∨
          ∃ inner, t.cell row nested = .nested inner ∧
            ∃ a ∈ assignments, ∃ e, a.expr.aggregate inner = .error e)) := by
  refine ⟨⟨?_, fun e => transformRows_eq_error_iff, ?_⟩, ?_, fun e => reduceRows_eq_error_iff, ?_⟩
  · intro u hu
    obtain ⟨hvalues, rfl⟩ := transformRows_eq_ok_iff.1 hu
    refine Table.writes_assign ht fun row hrow a ha => ?_
    obtain ⟨v, hv⟩ := hvalues row hrow a ha
    rwa [Expr.valueOn_eq hv]
  · show (∃ e, transformRows assignments t = .error e) ↔ _
    simp only [exists_error_iff, transformRows_eq_ok_iff, exists_and_left, exists_eq', and_true,
      not_forall, exists_prop]
  · intro u hu
    obtain ⟨-, hvalues, rfl⟩ := reduceRows_eq_ok_iff.1 hu
    refine Table.writes_assign ht fun row hrow a ha => ?_
    obtain ⟨inner, hinner, hall⟩ := hvalues row hrow
    obtain ⟨v, hv⟩ := hall a ha
    refine ⟨inner, hinner, ?_⟩
    rw [hinner, Expr.valueOver_eq hv, hv]
  · show (∃ e, reduceRows nested assignments t = .error e) ↔ _
    simp only [exists_error_iff, reduceRows_eq_ok_iff, exists_and_left, exists_eq', and_true,
      not_and_or, not_forall, exists_prop]
    refine or_congr_right (exists_congr fun row => and_congr_right fun _ => ?_)
    cases t.cell row nested <;> simp

end

/-- Items with the tables of their prices. -/
def priced : Table :=
  ⟨["k", "n"], [[.integer 1, .nested ⟨["v"], [[.integer 2], [.integer 3]]⟩],
    [.integer 4, .nested ⟨["v"], [[.null], [.integer 5]]⟩]]⟩

/-- A column is assigned twice and read by all assignments, the nested column is itself replaced,
and of two failing assignments the first one is reported. -/
theorem transform_reduce_computed_repeated :
    priced.WellFormed ∧
      priced.Writes
        [⟨"k", .binary .add (.column "k") (.literal (.integer 1))⟩, ⟨"s", .column "k"⟩,
          ⟨"k", .binary .multiply (.column "k") (.literal (.integer 2))⟩]
        (fun row e v => e.eval priced.columns row = .ok v)
        ⟨["k", "n", "s"],
          [[.integer 2, .nested ⟨["v"], [[.integer 2], [.integer 3]]⟩, .integer 1],
            [.integer 8, .nested ⟨["v"], [[.null], [.integer 5]]⟩, .integer 4]]⟩ ∧
      priced.Writes
        [⟨"n", .call "sum" [.column "v"]⟩, ⟨"m", .call "max" [.column "v"]⟩,
          ⟨"n", .call "count" []⟩]
        (fun row e v => ∃ inner, priced.cell row "n" = .nested inner ∧ e.aggregate inner = .ok v)
        ⟨["k", "n", "m"],
          [[.integer 1, .integer 2, .integer 3], [.integer 4, .integer 2, .integer 5]]⟩ ∧
      (Operation.transform [⟨"s", .column "k"⟩, ⟨"x", .column "y"⟩, ⟨"s", .column "z"⟩]).apply
        .standard priced = .error (.eval (.column "transform" "x") (.unknownColumn "y")) := by
  have ht : priced.WellFormed := by
    rw [Table.wellFormed_iff]
    simp [priced, Value.WellFormed, Table.wellFormed_iff]
  exact ⟨ht, (transform_reduce_computed .standard priced "n" _ ht).1.1 _ rfl,
    (transform_reduce_computed .standard priced "n" _ ht).2.1 _ rfl,
    ((transform_reduce_computed .standard priced "n" _ ht).1.2.1 _).2 rfl⟩

end TablePipeline
