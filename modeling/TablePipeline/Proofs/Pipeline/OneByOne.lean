import TablePipeline.Proofs.Pipeline.Computed

/-!
# Assignments one by one

A `transform` evaluates all its expressions on the row as it comes in, so no expression sees what
the assignments in front of it have computed.  A chain of `transform`s with one assignment each
evaluates every expression but the first on a row that has been changed already, and looks all
columns up again.  The two come to the same if no expression names the target of an earlier
assignment: the cells it names have been left alone then.

Nothing is asked of the targets.  They may be repeated, they may be columns of the table or new
ones, and an expression may name its own target and later ones.

## Main definitions

* `Table.firstAssigned` — a row behind the first assignment

## Main statements

* `Table.eval_transformed` — an expression does not see an assignment to a column it does not name
* `Table.transformed_cons` — the first assignment before the others
* `transformRows_cons_eq_ok_iff`, `runOperations_transform_cons_eq_ok_iff` — one step of each
* `transform_iff_oneByOne` — one `transform` and the chain
-/

namespace TablePipeline

section OneByOne

variable {t u : Table} {method : SortMethod} {a : Assignment} {assignments : List Assignment}
  {e : Expr} {row : Row}

/-- The row behind the first assignment. -/
def Table.firstAssigned (t : Table) (a : Assignment) (row : Row) : Row :=
  assignRow t.columns [a] (·.expr.valueOn t.columns row) row

theorem Table.rows_transformed_singleton (t : Table) (a : Assignment) :
    (t.transformed [a]).rows = t.rows.map (t.firstAssigned a) :=
  rfl

theorem Table.eval_transformed (ht : t.WellFormed) (hu : (t.transformed [a]).WellFormed)
    (hreads : a.column ∉ e.mentions) (hrow : row ∈ t.rows) :
    e.eval (t.transformed [a]).columns (t.firstAssigned a row) = e.eval t.columns row :=
  Leaves.eval_eq ht hu (leaves_assign ht (by simpa using hreads)) hrow

/-- Assigning to a row does not depend on values of anything but the assignments. -/
theorem assignRow_congr {columns : List String} {value value' : Assignment → Value}
    (h : ∀ b ∈ assignments, value b = value' b) (row : Row) :
    assignRow columns assignments value row = assignRow columns assignments value' row := by
  rw [assignRow, assignRow, List.map_congr_left h]

/-- No assignment changes no row. -/
theorem Table.transformed_nil (ht : t.WellFormed) : t.transformed [] = t := by
  have hrows : t.rows.map (fun row => assignRow t.columns [] (·.expr.valueOn t.columns row) row) =
      t.rows :=
    (List.map_congr_left fun row hrow => assignRow_nil (ht.length_row hrow)).trans
      (List.map_id t.rows)
  rw [Table.transformed, Table.assign, Table.mapRows, hrows]
  cases t
  rfl

/-- The first assignment may be made before the others, if none of these names its column. -/
theorem Table.transformed_cons (ht : t.WellFormed) (hu : (t.transformed [a]).WellFormed)
    (hreads : ∀ b ∈ assignments, a.column ∉ b.expr.mentions) :
    (t.transformed [a]).transformed assignments = t.transformed (a :: assignments) := by
  have hcolumns : (t.transformed [a]).columns = withColumn t.columns a.column :=
    AssignmentPlan.columns_make_singleton t.columns a
  have hrow : ∀ row ∈ t.rows,
      assignRow (t.transformed [a]).columns assignments
          (·.expr.valueOn (t.transformed [a]).columns (t.firstAssigned a row))
          (t.firstAssigned a row) =
        assignRow t.columns (a :: assignments) (·.expr.valueOn t.columns row) row := by
    intro row hrow
    have hlength := ht.length_row hrow
    have hfirst : t.firstAssigned a row =
        withCell t.columns row a.column (a.expr.valueOn t.columns row) :=
      assignRow_singleton hlength
    rw [assignRow_cons hlength, ← hfirst, ← hcolumns]
    refine assignRow_congr (fun b hb => ?_) _
    rw [Expr.valueOn, Expr.valueOn, eval_transformed ht hu (hreads b hb) hrow]
  have hrows : ((t.transformed [a]).transformed assignments).rows =
      (t.transformed (a :: assignments)).rows := by
    show (t.transformed [a]).rows.map _ = t.rows.map _
    rw [rows_transformed_singleton, List.map_map]
    exact List.map_congr_left hrow
  have hnames : ((t.transformed [a]).transformed assignments).columns =
      (t.transformed (a :: assignments)).columns := by
    show (AssignmentPlan.make (t.transformed [a]).columns assignments).columns =
      (AssignmentPlan.make t.columns (a :: assignments)).columns
    rw [AssignmentPlan.columns_make_cons, hcolumns]
  exact congrArg₂ Table.mk hnames hrows

theorem Table.wellFormed_transformed_singleton (ht : t.WellFormed)
    (hvalues : ∀ row ∈ t.rows, ∃ v, a.expr.eval t.columns row = .ok v) :
    (t.transformed [a]).WellFormed := by
  refine transformRows_wellFormed ht (transformRows_eq_ok_iff.2 ⟨?_, rfl⟩)
  simpa using hvalues

/-- One step of the `transform`: the first assignment, and the others on what it gives. -/
theorem transformRows_cons_eq_ok_iff (ht : t.WellFormed)
    (hreads : ∀ b ∈ assignments, a.column ∉ b.expr.mentions) :
    transformRows (a :: assignments) t = .ok u ↔
      (∀ row ∈ t.rows, ∃ v, a.expr.eval t.columns row = .ok v) ∧
        transformRows assignments (t.transformed [a]) = .ok u := by
  simp only [transformRows_eq_ok_iff, List.forall_mem_cons, forall_and, and_assoc]
  refine and_congr_right fun hvalues => ?_
  have hu := Table.wellFormed_transformed_singleton ht hvalues
  rw [Table.transformed_cons ht hu hreads]
  refine and_congr_left fun _ => ?_
  -- the rows of the table are the changed ones, on which the other expressions see no change
  rw [Table.rows_transformed_singleton, List.forall_mem_map]
  refine forall₂_congr fun row hrow => forall₂_congr fun b hb => ?_
  rw [Table.eval_transformed ht hu (hreads b hb) hrow]

/-- One step of the chain. -/
theorem runOperations_transform_cons_eq_ok_iff {operations : List Operation} :
    runOperations method (.transform [a] :: operations) t = .ok u ↔
      (∀ row ∈ t.rows, ∃ v, a.expr.eval t.columns row = .ok v) ∧
        runOperations method operations (t.transformed [a]) = .ok u := by
  rw [runOperations, Operation.apply, bind_eq_ok_iff]
  simp only [transformRows_eq_ok_iff, List.forall_mem_singleton, and_assoc, exists_and_left,
    exists_eq_left']

/-- **Assignments one by one**: a `transform` in which no expression names the target of an earlier
assignment succeeds exactly when the `transform`s with one assignment each do, in the same order,
and with the same table. -/
theorem transform_iff_oneByOne (ht : t.WellFormed)
    (hreads : assignments.Pairwise fun a b => a.column ∉ b.expr.mentions) :
    runOperations method [.transform assignments] t = .ok u ↔
      runOperations method (assignments.map fun a => .transform [a]) t = .ok u := by
  rw [runOperations_singleton, Operation.apply]
  induction assignments generalizing t with
  | nil =>
    rw [transformRows_eq_ok_iff, Table.transformed_nil ht]
    simp [runOperations]
  | cons a rest ih =>
    obtain ⟨hfirst, hrest⟩ := List.pairwise_cons.1 hreads
    rw [transformRows_cons_eq_ok_iff ht hfirst, List.map_cons,
      runOperations_transform_cons_eq_ok_iff]
    exact and_congr_right fun hvalues =>
      ih (Table.wellFormed_transformed_singleton ht hvalues) hrest

/-- One column is replaced twice, reading itself and another one, and one is added in between. -/
theorem transform_iff_oneByOne_repeated :
    let t : Table := ⟨["x", "y"], [[.integer 1, .integer 2], [.integer 3, .null]]⟩
    let assignments : List Assignment := [⟨"y", .binary .add (.column "x") (.column "y")⟩,
      ⟨"z", .binary .multiply (.column "x") (.literal (.integer 2))⟩, ⟨"y", .column "x"⟩]
    let u : Table := ⟨["x", "y", "z"], [[.integer 1, .integer 1, .integer 2],
      [.integer 3, .integer 3, .integer 6]]⟩
    t.WellFormed ∧ (assignments.Pairwise fun a b => a.column ∉ b.expr.mentions) ∧
      runOperations .standard [.transform assignments] t = .ok u ∧
      runOperations .standard (assignments.map fun a => .transform [a]) t = .ok u := by
  intro t assignments u
  have ht : t.WellFormed := by
    rw [Table.wellFormed_iff]
    simp [t, Value.WellFormed]
  have hreads : assignments.Pairwise fun a b => a.column ∉ b.expr.mentions := by decide
  have htransform : runOperations .standard [.transform assignments] t = .ok u := by rfl
  exact ⟨ht, hreads, htransform, (transform_iff_oneByOne ht hreads).1 htransform⟩

end OneByOne

end TablePipeline
