import TablePipeline.Proofs.Pipeline.Projection

/-!
# Computed columns by name

`transform` and `reduce` plan positions first and write to them afterwards.  In terms of names this
is one assignment after the other: each one replaces the cell under its name, or puts a new cell at
the end under a new name (`withColumn`, `withCell`).  So the cell under a name is what the last
assignment to this name has as its value, and the cell of the input where there is none
(`cellAt_assignRow`).

Both stages are then changes of each row by itself (`Table.assign`), and all they need is that every
expression has a value.  In particular a stage that chooses rows may stand in front of a `transform`
or behind it, if no column it looks at is assigned: the cells it looks at are left alone.

## Main definitions

* `withColumn`, `withCell` — one assignment
* `lastAssignment?` — the assignment that decides on a column
* `assignRow`, `Table.assign` — a row and a table with computed columns
* `Table.transformed`, `Table.reduced` — the values being those of expressions

## Main statements

* `transformRows_eq_ok_iff`, `reduceRows_eq_ok_iff` — the stages as changes of rows
* `transform_comm_chooseRows` — computing columns and choosing rows
-/

namespace TablePipeline

/-- The columns, with a new one at the end unless there is one of this name. -/
def withColumn (columns : List String) (name : String) : List String :=
  if name ∈ columns then columns else columns ++ [name]

/-- The row with a value under a name, in place of a cell or as a new one. -/
def withCell (columns : List String) (row : Row) (name : String) (v : Value) : Row :=
  if name ∈ columns then row.set (columns.idxOf name) v else row ++ [v]

/-- The last assignment to a column. -/
def lastAssignment? (assignments : List Assignment) (name : String) : Option Assignment :=
  assignments.reverse.find? (·.column = name)

/-- The row with the values of assignments. -/
def assignRow (columns : List String) (assignments : List Assignment) (value : Assignment → Value)
    (row : Row) : Row :=
  (AssignmentPlan.make columns assignments).write row (assignments.map value)

/-- The table with the values of assignments, which may be others on each row. -/
def Table.assign (t : Table) (assignments : List Assignment) (value : Row → Assignment → Value) :
    Table :=
  t.mapRows (AssignmentPlan.make t.columns assignments).columns fun row =>
    assignRow t.columns assignments (value row) row

/-- The value on a row; null stands for an error. -/
def Expr.valueOn (columns : List String) (row : Row) (e : Expr) : Value :=
  (e.eval columns row).toOption.getD .null

/-- The value over a table in a cell; null stands for an error and for a cell without a table. -/
def Expr.valueOver (e : Expr) : Value → Value
  | .nested inner => (e.aggregate inner).toOption.getD .null
  | _ => .null

/-- The table with columns that are computed from each row. -/
def Table.transformed (t : Table) (assignments : List Assignment) : Table :=
  t.assign assignments fun row a => a.expr.valueOn t.columns row

/-- The table with columns that are computed from the table in one cell of each row. -/
def Table.reduced (t : Table) (nested : String) (assignments : List Assignment) : Table :=
  t.assign assignments fun row a => a.expr.valueOver (t.cell row nested)

/-! ### One assignment -/

section Cells

variable {columns : List String} {row : Row} {name other : String} {v : Value}

theorem mem_withColumn : other ∈ withColumn columns name ↔ other ∈ columns ∨ name = other := by
  unfold withColumn
  split
  · rename_i hname
    constructor
    · exact Or.inl
    · rintro (hother | rfl)
      · exact hother
      · exact hname
  · rw [List.mem_append, List.mem_singleton, eq_comm (a := other)]

theorem nodup_withColumn (h : columns.Nodup) : (withColumn columns name).Nodup := by
  unfold withColumn
  split
  · exact h
  · rename_i hname
    rw [List.nodup_append_comm]
    exact List.nodup_cons.2 ⟨hname, h⟩

theorem length_withCell (h : row.length = columns.length) :
    (withCell columns row name v).length = (withColumn columns name).length := by
  unfold withCell withColumn
  split
  · rw [List.length_set, h]
  · rw [List.length_append, List.length_append, h]
    rfl

/-- One assignment changes the cell under its own name and no other. -/
theorem cellAt_withCell (h : row.length = columns.length) :
    cellAt (withCell columns row name v) ((withColumn columns name).idxOf other) =
      if name = other then v else cellAt row (columns.idxOf other) := by
  unfold withCell withColumn cellAt
  by_cases hname : name ∈ columns
  · rw [if_pos hname, if_pos hname]
    have hlt := List.idxOf_lt_length_of_mem hname
    by_cases hother : name = other
    · subst hother
      rw [List.getElem?_set_self (h ▸ hlt), if_pos rfl, Option.getD_some]
    · have hne : columns.idxOf name ≠ columns.idxOf other := fun heq =>
        hother ((List.idxOf_inj hname).1 heq)
      rw [List.getElem?_set_ne hne, if_neg hother]
  · rw [if_neg hname, if_neg hname]
    by_cases hmem : other ∈ columns
    · have hne : name ≠ other := fun heq => hname (heq ▸ hmem)
      have hlt := List.idxOf_lt_length_of_mem hmem
      rw [List.idxOf_append_of_mem hmem, List.getElem?_append_left (h ▸ hlt), if_neg hne]
    -- behind the cells that there were stands the new one, and nothing behind it
    · have hold : row[columns.length]? = none := List.getElem?_eq_none h.le
      rw [List.idxOf_append_of_notMem hmem, List.idxOf_eq_length hmem, hold,
        List.getElem?_append_right (by omega), h, Nat.add_sub_cancel_left]
      by_cases hother : name = other
      · rw [hother, List.idxOf_cons_self, if_pos rfl]
        rfl
      · rw [List.idxOf_cons_ne _ hother, if_neg hother]
        rfl

end Cells

/-! ### All assignments -/

theorem lastAssignment?_cons (a : Assignment) (assignments : List Assignment) (name : String) :
    lastAssignment? (a :: assignments) name =
      (lastAssignment? assignments name).or (if a.column = name then some a else none) := by
  rw [lastAssignment?, List.reverse_cons, List.find?_append]
  refine congrArg _ ?_
  by_cases h : a.column = name <;> simp [h]

theorem lastAssignment?_eq_none_iff {assignments : List Assignment} {name : String} :
    lastAssignment? assignments name = none ↔ ∀ a ∈ assignments, a.column ≠ name := by
  simp [lastAssignment?]

/-- Where no column is assigned twice, every assignment is the last one. -/
theorem lastAssignment?_of_mem {a : Assignment} {assignments : List Assignment}
    (hcolumns : (assignments.map (·.column)).Nodup) (ha : a ∈ assignments) :
    lastAssignment? assignments a.column = some a := by
  induction assignments with
  | nil => cases ha
  | cons b rest ih =>
    rw [List.map_cons, List.nodup_cons, List.mem_map] at hcolumns
    rw [lastAssignment?_cons]
    rcases List.mem_cons.1 ha with rfl | ha
    · have hrest : lastAssignment? rest a.column = none :=
        lastAssignment?_eq_none_iff.2 fun b hb heq => hcolumns.1 ⟨b, hb, heq⟩
      rw [hrest, if_pos rfl, Option.none_or]
    · rw [ih hcolumns.2 ha, Option.some_or]

section Plans

variable {columns : List String} {row : Row} {a : Assignment} {assignments : List Assignment}
  {name : String} {value : Assignment → Value}

namespace AssignmentPlan

theorem columns_make_cons (columns : List String) (a : Assignment) (assignments : List Assignment) :
    (make columns (a :: assignments)).columns =
      (make (withColumn columns a.column) assignments).columns := by
  rw [make, withColumn]
  by_cases h : a.column ∈ columns
  · obtain ⟨i, hi⟩ := Option.isSome_iff_exists.1 (List.isSome_idxOf?.2 h)
    rw [hi, if_pos h]
  · rw [List.idxOf?_eq_none_iff.2 h, if_neg h]

theorem columns_make_singleton (columns : List String) (a : Assignment) :
    (make columns [a]).columns = withColumn columns a.column :=
  columns_make_cons columns a []

theorem mem_columns_make :
    name ∈ (make columns assignments).columns ↔
      name ∈ columns ∨ ∃ a ∈ assignments, a.column = name := by
  induction assignments generalizing columns with
  | nil => simp [make]
  | cons a rest ih =>
    rw [columns_make_cons, ih, mem_withColumn, List.exists_mem_cons_iff, or_assoc]

/-- Writing the first value to its target is putting the cell under its name, before the others are
planned. -/
theorem write_make_cons (h : row.length = columns.length) (v : Value) (values : List Value) :
    (make columns (a :: assignments)).write row (v :: values) =
      (make (withColumn columns a.column) assignments).write (withCell columns row a.column v)
        values := by
  rw [make, withColumn, withCell]
  by_cases hmem : a.column ∈ columns
  · obtain ⟨i, hi⟩ := Option.isSome_iff_exists.1 (List.isSome_idxOf?.2 hmem)
    have hidx : columns.idxOf a.column = i := by
      rw [List.idxOf_eq_getD_idxOf?, hi, Option.getD_some]
    have hlt : i < row.length := by
      rw [h, ← hidx]
      exact List.idxOf_lt_length_of_mem hmem
    rw [hi, if_pos hmem, if_pos hmem, hidx, write, writeAll, write, seed, seed, List.length_set,
      List.set_append_left _ _ hlt]
  · have hle := (prefix_columns_make (columns ++ [a.column]) assignments).length_le
    rw [List.length_append, List.length_singleton] at hle
    rw [List.idxOf?_eq_none_iff.2 hmem, if_neg hmem, if_neg hmem, write, writeAll, write, seed,
      seed, ← h, List.set_append_right _ _ le_rfl, Nat.sub_self, List.length_append,
      List.length_singleton, List.append_assoc]
    -- the first of the nulls that were given out becomes the new cell
    obtain ⟨k, hk⟩ : ∃ k,
        (make (columns ++ [a.column]) assignments).columns.length - row.length = k + 1 :=
      ⟨_, (Nat.succ_pred_eq_of_pos (by omega)).symm⟩
    rw [hk, Nat.sub_add_eq, hk, Nat.add_sub_cancel, List.replicate_succ]
    rfl

end AssignmentPlan

theorem assignRow_nil (h : row.length = columns.length) : assignRow columns [] value row = row := by
  show row ++ List.replicate (columns.length - row.length) .null = row
  rw [h, Nat.sub_self, List.replicate_zero, List.append_nil]

theorem assignRow_cons (h : row.length = columns.length) :
    assignRow columns (a :: assignments) value row =
      assignRow (withColumn columns a.column) assignments value
        (withCell columns row a.column (value a)) :=
  AssignmentPlan.write_make_cons h (value a) (assignments.map value)

theorem assignRow_singleton (h : row.length = columns.length) :
    assignRow columns [a] value row = withCell columns row a.column (value a) := by
  rw [assignRow_cons h, assignRow_nil (length_withCell h)]

theorem length_assignRow (h : row.length = columns.length) :
    (assignRow columns assignments value row).length =
      (AssignmentPlan.make columns assignments).columns.length :=
  AssignmentPlan.length_write_make assignments _ h

/-- **The cell under a name**: the value of the last assignment to it, or the cell it was. -/
theorem cellAt_assignRow (h : row.length = columns.length) :
    cellAt (assignRow columns assignments value row)
        ((AssignmentPlan.make columns assignments).columns.idxOf name) =
      ((lastAssignment? assignments name).map value).getD (cellAt row (columns.idxOf name)) := by
  induction assignments generalizing columns row with
  | nil =>
    rw [assignRow_nil h]
    rfl
  | cons a rest ih =>
    rw [assignRow_cons h, AssignmentPlan.columns_make_cons, ih (length_withCell h),
      cellAt_withCell h, lastAssignment?_cons]
    cases lastAssignment? rest name with
    | some b => rfl
    | none => by_cases hname : a.column = name <;> simp [hname]

end Plans

/-! ### The stages -/

section Stages

variable {t u : Table} {method : SortMethod} {assignments : List Assignment}
  {value : Row → Assignment → Value}
  {columns names : List String} {row : Row} {nested : String} {v : Value} {e : Expr}

theorem Expr.valueOn_eq (h : e.eval columns row = .ok v) : e.valueOn columns row = v := by
  rw [valueOn, h]
  rfl

theorem Expr.valueOver_eq {inner : Table} (h : e.aggregate inner = .ok v) :
    e.valueOver (.nested inner) = v := by
  rw [valueOver, h]
  rfl

/-- A row is written exactly when every expression has a value. -/
theorem writeValues_eq_ok_iff {plan : AssignmentPlan} {label : String} {outcome : Expr → Outcome}
    {value : Assignment → Value} (hvalue : ∀ a v, outcome a.expr = .ok v → value a = v)
    {out : Row} :
    (assignmentValues label outcome assignments >>= fun values =>
        pure (plan.write row values)) = Except.ok out ↔
      (∀ a ∈ assignments, ∃ v, outcome a.expr = .ok v) ∧
        plan.write row (assignments.map value) = out := by
  have hvalues : ∀ a v, StageLabel.ofEval (.column label a.column) (outcome a.expr) = .ok v →
      value a = v := fun a v hv => hvalue a v (ofEval_eq_ok_iff.1 hv)
  simp only [assignmentValues, bind_eq_ok_iff, mapM_eq_ok_iff_map hvalues, ofEval_eq_ok_iff,
    pure_eq_ok_iff]
  constructor
  · rintro ⟨values, ⟨hall, rfl⟩, hout⟩
    exact ⟨hall, hout⟩
  · rintro ⟨hall, hout⟩
    exact ⟨_, ⟨hall, rfl⟩, hout⟩

/-- A stage that writes values of the assignments into each row. -/
theorem mapM_write_eq_ok_iff {write : Row → Except StageError Row}
    (hwrite : ∀ row out, write row = .ok out →
      assignRow t.columns assignments (value row) row = out) :
    (t.rows.mapM write >>= fun rows =>
        pure ⟨(AssignmentPlan.make t.columns assignments).columns, rows⟩) = Except.ok u ↔
      (∀ row ∈ t.rows, ∃ out, write row = .ok out) ∧ t.assign assignments value = u := by
  simp only [bind_eq_ok_iff, mapM_eq_ok_iff_map hwrite, pure_eq_ok_iff]
  constructor
  · rintro ⟨rows, ⟨hrows, rfl⟩, rfl⟩
    exact ⟨hrows, rfl⟩
  · rintro ⟨hrows, rfl⟩
    exact ⟨_, ⟨hrows, rfl⟩, rfl⟩

/-- **`transform` as a change of rows**: it succeeds exactly when every expression has a value on
every row. -/
theorem transformRows_eq_ok_iff :
    transformRows assignments t = .ok u ↔
      (∀ row ∈ t.rows, ∀ a ∈ assignments, ∃ v, a.expr.eval t.columns row = .ok v) ∧
        t.transformed assignments = u := by
  have hwrite := fun row out => @writeValues_eq_ok_iff assignments row
    (.make t.columns assignments) "transform" (·.eval t.columns row)
    (·.expr.valueOn t.columns row) (fun a v hv => Expr.valueOn_eq hv) out
  refine (mapM_write_eq_ok_iff fun row out hout => ((hwrite row out).1 hout).2).trans ?_
  simp only [hwrite, exists_and_left, exists_eq', and_true, Table.transformed]

/-- **`reduce` as a change of rows**: it succeeds exactly when there is a table in every cell of the
column and every expression has a value over each of these. -/
theorem reduceRows_eq_ok_iff :
    reduceRows nested assignments t = .ok u ↔
      nested ∈ t.columns ∧
        (∀ row ∈ t.rows, ∃ inner, t.cell row nested = .nested inner ∧
          ∀ a ∈ assignments, ∃ v, a.expr.aggregate inner = .ok v) ∧
        t.reduced nested assignments = u := by
  have hwrite : ∀ row out,
      (requireNested nested (t.cell row nested) >>= fun inner =>
        assignmentValues "reduce" (·.aggregate inner) assignments >>= fun values =>
          pure ((AssignmentPlan.make t.columns assignments).write row values)) = .ok out ↔
      (∃ inner, t.cell row nested = .nested inner ∧
        ∀ a ∈ assignments, ∃ v, a.expr.aggregate inner = .ok v) ∧
        assignRow t.columns assignments (·.expr.valueOver (t.cell row nested)) row = out := by
    intro row out
    rw [bind_eq_ok_iff, ← exists_and_right]
    refine exists_congr fun inner => ?_
    rw [requireNested_eq_ok_iff, and_assoc, and_congr_right_iff]
    intro hinner
    rw [hinner]
    exact writeValues_eq_ok_iff fun a v hv => Expr.valueOver_eq hv
  rw [reduceRows, bind_eq_ok_iff]
  simp only [ofSchema_eq_ok_iff, Table.requireColumn_eq_ok_iff, and_assoc, exists_and_left,
    exists_eq_left']
  refine and_congr_right fun _ => ?_
  refine (mapM_write_eq_ok_iff fun row out hout => ((hwrite row out).1 hout).2).trans ?_
  refine and_congr_left fun _ => forall₂_congr fun row _ => ?_
  exact (exists_congr (hwrite row)).trans (by simp only [exists_and_left, exists_eq', and_true])

/-! ### Computing columns and choosing rows -/

/-- The cells under names that are not assigned are the cells they were. -/
theorem Table.leaves_assign (ht : t.WellFormed) (hnames : ∀ a ∈ assignments, a.column ∉ names) :
    t.Leaves (AssignmentPlan.make t.columns assignments).columns
      (fun row => assignRow t.columns assignments (value row) row) names := by
  have hfresh : ∀ name ∈ names, ∀ a ∈ assignments, a.column ≠ name :=
    fun name hname a ha heq => hnames a ha (heq ▸ hname)
  constructor
  · intro name hname
    rw [AssignmentPlan.mem_columns_make, or_iff_left]
    rintro ⟨a, ha, heq⟩
    exact hfresh name hname a ha heq
  · intro row hrow name hname
    refine (cellAt_assignRow (ht.length_row hrow)).trans ?_
    rw [lastAssignment?_eq_none_iff.2 (hfresh name hname)]
    rfl

/-- **Computing columns and choosing rows**: a stage that chooses or orders rows by columns that are
not assigned may stand in front of the `transform` or behind it, with the same rows or the same
error.  Every expression has to have a value on every row, for the stage may leave out the row with
the error. -/
theorem transform_comm_chooseRows (method : SortMethod) {op : Operation} (ht : t.WellFormed)
    (hvalues : ∀ row ∈ t.rows, ∀ a ∈ assignments, ∃ v, a.expr.eval t.columns row = .ok v)
    (hop : op.ChoosesRowsBy names) (hnames : ∀ a ∈ assignments, a.column ∉ names) :
    runOperations method [.transform assignments, op] t =
        runOperations method [op, .transform assignments] t ∧
      runOperations method [.transform assignments, op] t =
        (op.apply method t).map (·.transformed assignments) := by
  have htransform := transformRows_eq_ok_iff.2 ⟨hvalues, rfl⟩
  have hbehind := Operation.apply_mapRows method ht (transformRows_wellFormed ht htransform) hop
    (Table.leaves_assign ht hnames)
  have hfirst : runOperations method [.transform assignments, op] t =
      op.apply method (t.transformed assignments) := by
    rw [runOperations_pair, Operation.apply, htransform]
    rfl
  rw [hfirst.trans hbehind, runOperations_pair]
  cases happly : op.apply method t with
  | error e => exact ⟨rfl, rfl⟩
  | ok chosen =>
    -- the chosen rows are rows of the table under the same names, so they have the same values
    have hsubset := hop.subset happly
    obtain ⟨columns, rows⟩ := chosen
    obtain rfl : columns = t.columns := hop.columns_eq happly
    have hlast : transformRows assignments ⟨t.columns, rows⟩ =
        .ok (Table.transformed ⟨t.columns, rows⟩ assignments) :=
      transformRows_eq_ok_iff.2 ⟨fun row hrow => hvalues row (hsubset hrow), rfl⟩
    exact ⟨hlast.symm, rfl⟩

/-- One column is replaced and one is added, both from the row as it came in, and the third row is
left out for its key on either side. -/
theorem transform_comm_chooseRows_replaced :
    let t : Table := ⟨["k", "v"], [[.integer 2, .integer 1], [.integer 1, .null],
      [.integer 2, .integer 3]]⟩
    let assignments : List Assignment := [⟨"v", .binary .add (.column "v") (.literal (.integer 1))⟩,
      ⟨"w", .binary .multiply (.column "v") (.column "k")⟩]
    t.WellFormed ∧
      (∀ row ∈ t.rows, ∀ a ∈ assignments, ∃ v, a.expr.eval t.columns row = .ok v) ∧
      (Operation.distinct ["k"]).ChoosesRowsBy ["k"] ∧
      runOperations .standard [.transform assignments, .distinct ["k"]] t =
        runOperations .standard [.distinct ["k"], .transform assignments] t ∧
      runOperations .standard [.transform assignments, .distinct ["k"]] t = .ok ⟨["k", "v", "w"],
        [[.integer 2, .integer 2, .integer 2], [.integer 1, .null, .null]]⟩ := by
  intro t assignments
  have ht : t.WellFormed := by
    rw [Table.wellFormed_iff]
    simp [t, Value.WellFormed]
  have hvalues : ∀ row ∈ t.rows, ∀ a ∈ assignments, ∃ v, a.expr.eval t.columns row = .ok v := by
    simp only [t, assignments, List.forall_mem_cons, List.not_mem_nil, false_imp_iff,
      implies_true, and_true]
    exact ⟨⟨⟨_, rfl⟩, ⟨_, rfl⟩⟩, ⟨⟨_, rfl⟩, ⟨_, rfl⟩⟩, ⟨⟨_, rfl⟩, ⟨_, rfl⟩⟩⟩
  have hop : (Operation.distinct ["k"]).ChoosesRowsBy ["k"] := .distinct (by decide)
  have hcomm := transform_comm_chooseRows .standard ht hvalues hop (by decide)
  refine ⟨ht, hvalues, hop, hcomm.1, ?_⟩
  rw [hcomm.2]
  rfl

end Stages

end TablePipeline
