import TablePipeline.Pipeline.Run
import TablePipeline.Proofs.Expr.Origin
import TablePipeline.Proofs.Pipeline.Groups
import TablePipeline.Source.Load

/-!
# Well-formed tables along a pipeline

Tables come from loaders, which check them, and go through stages, which build their results
directly and check next to nothing.  This file shows that nothing has to be checked again: every
stage takes a well-formed table to a well-formed table, so every table that a run of a pipeline
comes to is well-formed, tables inside cells included, and every position at which a stage looks
into a row is the position of a cell.

A stage changes a table in one of four ways, and there is one lemma for each: it keeps some of the
rows (`Table.WellFormed.of_rows`), it keeps some of the columns (`Table.WellFormed.project`), it
writes computed cells (`AssignmentPlan.write_wellFormed`), or it puts tables into cells (`group`).
Computed cells are well-formed because expressions make no tables of their own.

## Main definitions

* `stagesAlong` — the operations that a run gets to, each with the table it is applied to
* `Operation.InRange` — a stage looks into rows at positions of cells only

## Main statements

* `Operation.apply_wellFormed`, `runOperations_wellFormed` — one stage and a run
* `Operation.inRange` — the positions of a stage
* `loadBytes_wellFormed` — loaded tables
* `pipeline_wellFormed` — all of it along a run
-/

namespace TablePipeline

theorem Value.IsScalar.wellFormed {v : Value} (h : v.IsScalar) : v.WellFormed := by
  cases v with
  | nested t => exact absurd rfl h
  | _ => exact trivial

/-! ### What a well-formed table gives -/

namespace Table

variable {t : Table} {row : Row} {rows : List Row} {indices : List Nat} {names : List String}

theorem WellFormed.nodup_columns (h : t.WellFormed) : t.columns.Nodup :=
  (wellFormed_iff.1 h).1

theorem WellFormed.length_row (h : t.WellFormed) (hrow : row ∈ t.rows) :
    row.length = t.columns.length :=
  ((wellFormed_iff.1 h).2 row hrow).1

theorem WellFormed.wellFormed_of_mem (h : t.WellFormed) (hrow : row ∈ t.rows) {v : Value}
    (hv : v ∈ row) : v.WellFormed :=
  ((wellFormed_iff.1 h).2 row hrow).2 v hv

/-- A table of rows of a well-formed table, in any order and number, is well-formed. -/
theorem WellFormed.of_rows (h : t.WellFormed) (hrows : ∀ row ∈ rows, row ∈ t.rows) :
    WellFormed ⟨t.columns, rows⟩ := by
  rw [wellFormed_iff]
  exact ⟨h.nodup_columns, fun row hrow => (wellFormed_iff.1 h).2 row (hrows row hrow)⟩

theorem wellFormed_empty {columns : List String} (h : columns.Nodup) :
    (empty columns).WellFormed := by
  rw [wellFormed_iff]
  exact ⟨h, nofun⟩

/-! ### Positions of cells -/

theorem WellFormed.covers (h : t.WellFormed) (hi : ∀ i ∈ indices, i < t.columns.length) :
    t.Covers indices := by
  intro row hrow i hmem
  rw [h.length_row hrow]
  exact hi i hmem

theorem WellFormed.covers_of_columnIndices (h : t.WellFormed)
    (hi : t.columnIndices names = .ok indices) : t.Covers indices := by
  obtain ⟨hnames, rfl⟩ := columnIndices_eq_ok_iff.1 hi
  refine h.covers fun i hmem => ?_
  obtain ⟨name, hname, rfl⟩ := List.mem_map.1 hmem
  exact List.idxOf_lt_length_of_mem (hnames name hname)

theorem WellFormed.covers_complement (h : t.WellFormed) (indices : List Nat) :
    t.Covers (complement t.columns.length indices) :=
  h.covers fun _ hi => (mem_complement.1 hi).1

/-- The position of a column is that of a cell, so that the values of the column are cells. -/
theorem WellFormed.covers_of_columnIndex? (h : t.WellFormed) {name : String} {i : Nat}
    (hi : t.columnIndex? name = some i) : t.Covers [i] := by
  refine h.covers fun j hj => ?_
  rw [List.mem_singleton.1 hj]
  exact lt_of_columnIndex? hi

theorem WellFormed.cellAt_wellFormed (h : t.WellFormed) (hrow : row ∈ t.rows) (i : Nat) :
    (cellAt row i).WellFormed := by
  rcases cellAt_isScalar_or_mem row i with hs | hmem
  · exact hs.wellFormed
  · exact h.wellFormed_of_mem hrow hmem

/-- The columns at positions with distinct names form a well-formed table. -/
theorem WellFormed.project (h : t.WellFormed) (hnames : (t.columnNames indices).Nodup) :
    (t.project indices).WellFormed := by
  rw [wellFormed_iff]
  refine ⟨hnames, fun picked hpicked => ?_⟩
  obtain ⟨row, hrow, rfl⟩ := List.mem_map.1 hpicked
  refine ⟨?_, fun v hv => ?_⟩
  · rw [length_pick, Table.project, columnNames, List.length_map]
  · obtain ⟨i, -, rfl⟩ := List.mem_map.1 hv
    exact h.cellAt_wellFormed hrow i

theorem nodup_columnNames_complement (hc : t.columns.Nodup)
    (h : t.columnIndices names = .ok indices) :
    (t.columnNames (complement t.columns.length indices)).Nodup := by
  obtain ⟨hnames, rfl⟩ := columnIndices_eq_ok_iff.1 h
  rw [columnNames_complement hc hnames]
  exact hc.filter _

end Table

/-! ### Stages that choose rows -/

section Rows

variable {t t' : Table} {method : SortMethod} {condition : Expr} {columns : List String}
  {rows kept : List Row}

/-- The rows that are kept are among those that were given, in their order. -/
theorem sublist_of_keepWhere (h : keepWhere condition columns rows = .ok kept) :
    kept.Sublist rows := by
  induction rows generalizing kept with
  | nil =>
    cases h
    exact List.Sublist.slnil
  | cons row rest ih =>
    obtain ⟨holds, -, h⟩ := bind_eq_ok_iff.1 h
    obtain ⟨kept', hkept, h⟩ := bind_eq_ok_iff.1 h
    rw [← pure_eq_ok_iff.1 h]
    cases holds with
    | false => exact (ih hkept).cons row
    | true => exact (ih hkept).cons_cons row

theorem filterRows_wellFormed (ht : t.WellFormed) (h : filterRows condition t = .ok t') :
    t'.WellFormed := by
  obtain ⟨kept, hkept, h⟩ := bind_eq_ok_iff.1 h
  rw [← pure_eq_ok_iff.1 h]
  exact ht.of_rows fun row hrow => (sublist_of_keepWhere hkept).subset hrow

theorem distinctRows_wellFormed (ht : t.WellFormed) (columns : List String) :
    (distinctRows columns t).WellFormed := by
  unfold distinctRows
  split
  · exact ht.of_rows fun row hrow => (firstOfEach_sublist _ _ _).subset hrow
  · exact Table.wellFormed_empty ht.nodup_columns

/-- A sort finds its columns, and its method finds an order of the rows. -/
theorem sortRows_eq_ok_iff {descending : Bool} :
    sortRows method descending columns t = .ok t' ↔
      ∃ indices, t.columnIndices columns = .ok indices ∧
        ∃ rows, method.sort (rowCompare descending indices) t.rows = some rows ∧
          ⟨t.columns, rows⟩ = t' := by
  rw [sortRows, bind_eq_ok_iff]
  refine exists_congr fun indices => and_congr ofSchema_eq_ok_iff ?_
  cases method.sort (rowCompare descending indices) t.rows with
  | none => simp
  | some rows => simp [pure_eq_ok_iff]

theorem sortRows_wellFormed {descending : Bool} (ht : t.WellFormed)
    (h : sortRows method descending columns t = .ok t') : t'.WellFormed := by
  obtain ⟨indices, -, rows, hrows, rfl⟩ := sortRows_eq_ok_iff.1 h
  exact ht.of_rows fun row hrow => (SortMethod.perm_of_sort hrows).mem_iff.1 hrow

theorem countRows_wellFormed (t : Table) : (countRows t).WellFormed := by
  rw [Table.wellFormed_iff]
  refine ⟨List.nodup_singleton _, fun row hrow => ?_⟩
  rw [List.mem_singleton.1 hrow]
  exact ⟨rfl, fun v hv => by rw [List.mem_singleton.1 hv]; exact trivial⟩

/-- Every position in the key of `distinct` is that of a cell. -/
theorem covers_of_distinctIndices {indices : List Nat} (ht : t.WellFormed)
    (h : distinctIndices columns t = .ok indices) : t.Covers indices := by
  unfold distinctIndices at h
  split at h
  · cases h
    exact ht.covers fun i hi => List.mem_range.1 hi
  · exact ht.covers_of_columnIndices h

end Rows

/-! ### Stages that choose and name columns -/

section Columns

variable {t t' : Table} {columns : List String}

theorem checkDistinct_eq_ok {u : Unit} (h : checkDistinct columns = .ok u) : columns.Nodup :=
  checkDistinct_eq_ok_iff.1 h

theorem selectColumns_wellFormed (ht : t.WellFormed) (h : selectColumns columns t = .ok t') :
    t'.WellFormed := by
  obtain ⟨indices, hindices, h⟩ := bind_eq_ok_iff.1 (ofSchema_eq_ok_iff.1 h)
  obtain ⟨_, hdistinct, h⟩ := bind_eq_ok_iff.1 h
  rw [← pure_eq_ok_iff.1 h]
  obtain ⟨hmem, rfl⟩ := Table.columnIndices_eq_ok_iff.1 hindices
  refine ht.project ?_
  rw [Table.columnNames_map_idxOf hmem]
  exact checkDistinct_eq_ok hdistinct

theorem removeColumns_wellFormed (ht : t.WellFormed) (h : removeColumns columns t = .ok t') :
    t'.WellFormed := by
  obtain ⟨indices, hindices, h⟩ := bind_eq_ok_iff.1 (ofSchema_eq_ok_iff.1 h)
  rw [← pure_eq_ok_iff.1 h]
  exact ht.project (Table.nodup_columnNames_complement ht.nodup_columns hindices)

theorem renameColumns_wellFormed {pairs : List RenamePair} (ht : t.WellFormed)
    (h : renameColumns pairs t = .ok t') : t'.WellFormed := by
  obtain ⟨renamed, hrenamed, h⟩ := bind_eq_ok_iff.1 (ofSchema_eq_ok_iff.1 h)
  obtain ⟨_, hdistinct, h⟩ := bind_eq_ok_iff.1 h
  rw [← pure_eq_ok_iff.1 h, Table.wellFormed_iff]
  refine ⟨checkDistinct_eq_ok hdistinct, fun row hrow => ⟨?_, fun v hv => ?_⟩⟩
  · rw [length_of_renameAll hrenamed]
    exact ht.length_row hrow
  · exact ht.wellFormed_of_mem hrow hv

end Columns

/-! ### Groups -/

section Groups

variable {t t' : Table} {columns : List String} {nested : String} {indices : List Nat}

/-- The nested table of a key is a choice of rows and of columns. -/
theorem groupTable_eq_project (ht : t.WellFormed) (indices : List Nat) (key : String) :
    groupTable indices (t.columnNames (complement t.columns.length indices)) t.rows key =
      Table.project ⟨t.columns, t.rows.filter fun row => rowKey indices row == key⟩
        (complement t.columns.length indices) := by
  refine congrArg (Table.mk _) (List.map_congr_left fun row hrow => ?_)
  rw [dropCells_eq_pick, ht.length_row (List.mem_filter.1 hrow).1]

theorem groupTable_wellFormed (ht : t.WellFormed) (hindices : t.columnIndices columns = .ok indices)
    (key : String) :
    (groupTable indices (t.columnNames (complement t.columns.length indices)) t.rows
      key).WellFormed := by
  rw [groupTable_eq_project ht]
  have hrows : Table.WellFormed ⟨t.columns, t.rows.filter fun row => rowKey indices row == key⟩ :=
    ht.of_rows fun row hrow => (List.mem_filter.1 hrow).1
  exact hrows.project (Table.nodup_columnNames_complement ht.nodup_columns hindices)

theorem groupColumns_wellFormed (ht : t.WellFormed) (h : groupColumns columns nested t = .ok t') :
    t'.WellFormed := by
  obtain ⟨indices, hindices, h⟩ := bind_eq_ok_iff.1 (ofSchema_eq_ok_iff.1 h)
  obtain ⟨_, hdistinct, h⟩ := bind_eq_ok_iff.1 h
  rw [← pure_eq_ok_iff.1 h, Table.wellFormed_iff]
  refine ⟨checkDistinct_eq_ok hdistinct, fun out hout => ?_⟩
  rw [groupRows_eq_map] at hout
  obtain ⟨row, hrow, rfl⟩ := List.mem_map.1 hout
  have hrow := (firstOfEach_sublist _ _ _).subset hrow
  constructor
  · obtain ⟨-, rfl⟩ := Table.columnIndices_eq_ok_iff.1 hindices
    rw [List.length_append, List.length_append, length_pick, List.length_map]
    rfl
  · intro v hv
    rcases List.mem_append.1 hv with hv | hv
    · obtain ⟨i, -, rfl⟩ := List.mem_map.1 hv
      exact ht.cellAt_wellFormed hrow i
    · rw [List.mem_singleton.1 hv]
      exact groupTable_wellFormed ht hindices _

end Groups

/-! ### Stages that compute columns -/

namespace AssignmentPlan

variable {columns : List String} {assignments : List Assignment} {row : Row} {values : List Value}

/-- The columns of the input keep their places. -/
theorem prefix_columns_make (columns : List String) (assignments : List Assignment) :
    columns <+: (make columns assignments).columns := by
  fun_induction make columns assignments with
  | case1 columns => exact List.prefix_rfl
  | case2 columns a rest i _ plan ih => exact ih
  | case3 columns a rest _ plan ih => exact (List.prefix_append columns [a.column]).trans ih

/-- A column is added only under a name that is not there yet. -/
theorem nodup_columns_make (h : columns.Nodup) : (make columns assignments).columns.Nodup := by
  fun_induction make columns assignments with
  | case1 columns => exact h
  | case2 columns a rest i _ plan ih => exact ih h
  | case3 columns a rest hnone plan ih =>
    refine ih ?_
    -- the look-up has just failed, so the name is a new one
    rw [List.nodup_append]
    refine ⟨h, List.nodup_singleton _, fun name hname other hother heq => ?_⟩
    rw [List.mem_singleton.1 hother] at heq
    exact List.idxOf?_eq_none_iff.1 hnone (heq ▸ hname)

/-- Every target is the position of a column of the result. -/
theorem lt_of_mem_targets_make {i : Nat} (h : i ∈ (make columns assignments).targets) :
    i < (make columns assignments).columns.length := by
  fun_induction make columns assignments with
  | case1 columns => cases h
  | case2 columns a rest j hj plan ih =>
    rcases List.mem_cons.1 h with rfl | h
    · obtain ⟨hlt, -⟩ := List.idxOf?_eq_some_iff.1 hj
      exact Nat.lt_of_lt_of_le hlt (prefix_columns_make columns rest).length_le
    · exact ih h
  | case3 columns a rest _ plan ih =>
    rcases List.mem_cons.1 h with rfl | h
    -- the new column is the last one now, and more columns only come behind it
    · have hle := (prefix_columns_make (columns ++ [a.column]) rest).length_le
      rw [List.length_append] at hle
      exact hle
    · exact ih h

theorem length_seed_make (assignments : List Assignment) (h : row.length = columns.length) :
    ((make columns assignments).seed row).length = (make columns assignments).columns.length := by
  have hle := (prefix_columns_make columns assignments).length_le
  rw [seed, List.length_append, List.length_replicate]
  omega

theorem mem_seed {plan : AssignmentPlan} {v : Value} (h : v ∈ plan.seed row) :
    v ∈ row ∨ v = .null := by
  rcases List.mem_append.1 h with h | h
  · exact Or.inl h
  · exact Or.inr (List.eq_of_mem_replicate h)

/-- What stands in a row after writing stood there before or was written. -/
theorem mem_writeAll {targets : List Nat} {v : Value} (h : v ∈ writeAll row targets values) :
    v ∈ row ∨ v ∈ values := by
  fun_induction writeAll row targets values with
  | case1 row i targets w values ih =>
    rcases ih h with h | h
    · rcases List.mem_or_eq_of_mem_set h with h | rfl
      · exact Or.inl h
      · exact Or.inr List.mem_cons_self
    · exact Or.inr (List.mem_cons_of_mem w h)
  | case2 => exact Or.inl h

/-- A row that is as wide as the input becomes one that is as wide as the result. -/
theorem length_write_make (assignments : List Assignment) (values : List Value)
    (h : row.length = columns.length) :
    ((make columns assignments).write row values).length =
      (make columns assignments).columns.length := by
  rw [write, length_writeAll, length_seed_make assignments h]

theorem write_wellFormed {plan : AssignmentPlan} (hrow : ∀ v ∈ row, v.WellFormed)
    (hvalues : ∀ v ∈ values, v.WellFormed) : ∀ v ∈ plan.write row values, v.WellFormed := by
  intro v hv
  rcases mem_writeAll hv with hv | hv
  · rcases mem_seed hv with hv | rfl
    · exact hrow v hv
    · exact trivial
  · exact hvalues v hv

/-- Every assignment has a target, and the target is the position of a cell in every row that is
being written: in the row that is given out and after any number of writes. -/
def Covers (plan : AssignmentPlan) (assignments : List Assignment) (t : Table) : Prop :=
  plan.targets.length = assignments.length ∧
    ∀ row ∈ t.rows, ∀ i ∈ plan.targets, ∀ (targets : List Nat) (values : List Value),
      i < (writeAll (plan.seed row) targets values).length

theorem covers_make {t : Table} (ht : t.WellFormed) (assignments : List Assignment) :
    (make t.columns assignments).Covers assignments t := by
  refine ⟨length_targets_make _ _, fun row hrow i hi targets values => ?_⟩
  rw [length_writeAll, length_seed_make assignments (ht.length_row hrow)]
  exact lt_of_mem_targets_make hi

end AssignmentPlan

section Assignments

variable {t t' : Table} {assignments : List Assignment} {row : Row} {values : List Value}
  {v : Value}

/-- The value of an expression on a row of a well-formed table is well-formed. -/
theorem Expr.eval_wellFormed {e : Expr} (ht : t.WellFormed) (hrow : row ∈ t.rows)
    (h : e.eval t.columns row = .ok v) : v.WellFormed := by
  rcases Expr.evalIn_isScalar_or_cell h with hs | ⟨name, hname⟩
  · exact hs.wellFormed
  · exact ht.wellFormed_of_mem hrow (mem_of_cellNamed? hname)

/-- The value of an expression over a well-formed table is well-formed. -/
theorem Expr.aggregate_wellFormed {e : Expr} (ht : t.WellFormed) (h : e.aggregate t = .ok v) :
    v.WellFormed := by
  rcases Expr.aggregate_isScalar_or_mem h with hs | ⟨row, hrow, hmem⟩
  · exact hs.wellFormed
  · exact ht.wellFormed_of_mem hrow hmem

/-- The values of assignments are well-formed if each expression has only such values. -/
theorem assignmentValues_wellFormed {name : String} {value : Expr → Outcome}
    (hvalue : ∀ e v, value e = .ok v → v.WellFormed)
    (h : assignmentValues name value assignments = .ok values) : ∀ v ∈ values, v.WellFormed := by
  intro v hv
  obtain ⟨a, -, ha⟩ := exists_of_mem_of_mapM_eq_ok h hv
  exact hvalue a.expr v (ofEval_eq_ok_iff.1 ha)

/-- A stage that writes well-formed values into the rows of a well-formed table makes a
well-formed table. -/
theorem wellFormed_of_forall_write {rows : List Row} (ht : t.WellFormed)
    (h : ∀ out ∈ rows, ∃ row ∈ t.rows, ∃ values : List Value,
      (AssignmentPlan.make t.columns assignments).write row values = out ∧
        ∀ v ∈ values, v.WellFormed) :
    Table.WellFormed ⟨(AssignmentPlan.make t.columns assignments).columns, rows⟩ := by
  rw [Table.wellFormed_iff]
  refine ⟨AssignmentPlan.nodup_columns_make ht.nodup_columns, fun out hout => ?_⟩
  obtain ⟨row, hrow, values, rfl, hvalues⟩ := h out hout
  exact ⟨AssignmentPlan.length_write_make assignments values (ht.length_row hrow),
    AssignmentPlan.write_wellFormed (fun v hv => ht.wellFormed_of_mem hrow hv) hvalues⟩

theorem transformRows_wellFormed (ht : t.WellFormed) (h : transformRows assignments t = .ok t') :
    t'.WellFormed := by
  obtain ⟨rows, hrows, h⟩ := bind_eq_ok_iff.1 h
  rw [← pure_eq_ok_iff.1 h]
  refine wellFormed_of_forall_write ht fun out hout => ?_
  obtain ⟨row, hrow, hout⟩ := exists_of_mem_of_mapM_eq_ok hrows hout
  obtain ⟨values, hvalues, hout⟩ := bind_eq_ok_iff.1 hout
  exact ⟨row, hrow, values, pure_eq_ok_iff.1 hout,
    assignmentValues_wellFormed (fun e v hv => Expr.eval_wellFormed ht hrow hv) hvalues⟩

theorem requireNested_eq_ok_iff {name : String} {inner : Table} :
    requireNested name v = .ok inner ↔ v = .nested inner := by
  cases v <;> simp [requireNested]

theorem reduceRows_wellFormed {nested : String} (ht : t.WellFormed)
    (h : reduceRows nested assignments t = .ok t') : t'.WellFormed := by
  obtain ⟨i, -, h⟩ := bind_eq_ok_iff.1 h
  obtain ⟨rows, hrows, h⟩ := bind_eq_ok_iff.1 h
  rw [← pure_eq_ok_iff.1 h]
  refine wellFormed_of_forall_write ht fun out hout => ?_
  obtain ⟨row, hrow, hout⟩ := exists_of_mem_of_mapM_eq_ok hrows hout
  obtain ⟨inner, hinner, hout⟩ := bind_eq_ok_iff.1 hout
  obtain ⟨values, hvalues, hout⟩ := bind_eq_ok_iff.1 hout
  have hwf : inner.WellFormed := by
    have hcell := ht.cellAt_wellFormed hrow i
    rwa [requireNested_eq_ok_iff.1 hinner] at hcell
  exact ⟨row, hrow, values, pure_eq_ok_iff.1 hout,
    assignmentValues_wellFormed (fun e v hv => Expr.aggregate_wellFormed hwf hv) hvalues⟩

end Assignments

/-! ### One stage and a run -/

section Runs

variable {t t' : Table} {method : SortMethod} {op : Operation} {ops : List Operation}

/-- **One stage**: it takes a well-formed table to a well-formed table. -/
theorem Operation.apply_wellFormed (ht : t.WellFormed) (h : op.apply method t = .ok t') :
    t'.WellFormed := by
  cases op with
  | head n =>
    cases h
    exact ht.of_rows fun row hrow => List.mem_of_mem_take hrow
  | tail n =>
    cases h
    exact ht.of_rows fun row hrow => List.mem_of_mem_drop hrow
  | sortAscending columns => exact sortRows_wellFormed ht h
  | sortDescending columns => exact sortRows_wellFormed ht h
  | select columns => exact selectColumns_wellFormed ht h
  | filter condition => exact filterRows_wellFormed ht h
  | group columns nested => exact groupColumns_wellFormed ht h
  | transform assignments => exact transformRows_wellFormed ht h
  | reduce nested assignments => exact reduceRows_wellFormed ht h
  | count =>
    cases h
    exact countRows_wellFormed t
  | distinct columns =>
    cases h
    exact distinctRows_wellFormed ht columns
  | rename pairs => exact renameColumns_wellFormed ht h
  | remove columns => exact removeColumns_wellFormed ht h

/-- **A run**: what comes out of a pipeline is well-formed if what goes in is. -/
theorem runOperations_wellFormed (ht : t.WellFormed) (h : runOperations method ops t = .ok t') :
    t'.WellFormed := by
  induction ops generalizing t with
  | nil =>
    cases h
    exact ht
  | cons op rest ih =>
    obtain ⟨next, hnext, h⟩ := bind_eq_ok_iff.1 h
    exact ih (op.apply_wellFormed ht hnext) h

/-- The operations that a run gets to, each with the table it is applied to.  The run stops behind
the first operation that fails. -/
def stagesAlong (method : SortMethod) : List Operation → Table → List (Operation × Table)
  | [], _ => []
  | op :: rest, t =>
    (op, t) ::
      match op.apply method t with
      | .ok next => stagesAlong method rest next
      | .error _ => []

theorem wellFormed_of_mem_stagesAlong (ht : t.WellFormed) {stage : Operation × Table}
    (h : stage ∈ stagesAlong method ops t) : stage.2.WellFormed := by
  induction ops generalizing t with
  | nil => cases h
  | cons op rest ih =>
    rcases List.mem_cons.1 h with rfl | h
    · exact ht
    · split at h
      · rename_i next hnext
        exact ih (op.apply_wellFormed ht hnext) h
      · cases h

end Runs

/-! ### Positions -/

/-- Wherever a stage looks into a row by position, or writes to one, there is a cell.  The stages
that are not named here never do; expressions look cells up by name and may miss.  That what a stage
makes comes from these positions only is `Operation.blind`. -/
def Operation.InRange : Operation → Table → Prop
  | sortAscending columns, t | sortDescending columns, t | select columns, t =>
    ∀ indices, t.columnIndices columns = .ok indices → t.Covers indices
  | group columns _, t | remove columns, t =>
    ∀ indices, t.columnIndices columns = .ok indices →
      t.Covers indices ∧ t.Covers (complement t.columns.length indices)
  | distinct columns, t =>
    ∀ indices, distinctIndices columns t = .ok indices → t.Covers indices
  | transform assignments, t =>
    (AssignmentPlan.make t.columns assignments).Covers assignments t
  | reduce nested assignments, t =>
    (AssignmentPlan.make t.columns assignments).Covers assignments t ∧
      ∀ i, t.requireColumn nested = .ok i →
        t.Covers [i] ∧
          ∀ row ∈ t.rows, ∀ inner, cellAt row i = .nested inner →
            ∀ name j, inner.columnIndex? name = some j → inner.Covers [j]
  | head _, _ | tail _, _ | filter _, _ | count, _ | rename _, _ => True

/-- On a well-formed table every stage stays inside the rows. -/
theorem Operation.inRange {t : Table} (ht : t.WellFormed) (op : Operation) : op.InRange t := by
  cases op with
  | sortAscending columns | sortDescending columns | select columns =>
    exact fun indices h => ht.covers_of_columnIndices h
  | group columns nested =>
    exact fun indices h => ⟨ht.covers_of_columnIndices h, ht.covers_complement indices⟩
  | remove columns =>
    exact fun indices h => ⟨ht.covers_of_columnIndices h, ht.covers_complement indices⟩
  | distinct columns => exact fun indices h => covers_of_distinctIndices ht h
  | transform assignments => exact AssignmentPlan.covers_make ht assignments
  | reduce nested assignments =>
    refine ⟨AssignmentPlan.covers_make ht assignments, fun i hi => ⟨?_, ?_⟩⟩
    · exact ht.covers_of_columnIndex?
        (Table.columnIndex?_eq_some_iff.2 (Table.requireColumn_eq_ok_iff.1 hi))
    -- the nested table stands in a cell, so it is well-formed itself
    · intro row hrow inner hinner name j hj
      have hwf := ht.cellAt_wellFormed hrow i
      rw [hinner] at hwf
      exact Table.WellFormed.covers_of_columnIndex? hwf hj
  | head n | tail n | filter condition | count | rename pairs => exact trivial

/-! ### Loaded tables -/

section Loading

variable {bytes : List UInt8} {t : Table}

/-- A row of the fields of a record holds no table. -/
theorem wellFormed_of_mem_csvRow {width : Nat} {fields : List String} {v : Value}
    (h : v ∈ csvRow width fields) : v.WellFormed := by
  rcases List.mem_append.1 h with h | h
  · obtain ⟨s, -, rfl⟩ := List.mem_map.1 h
    -- a field becomes null, a truth value, a number or a string
    refine Value.IsScalar.wellFormed ?_
    unfold inferValue inferTrimmed
    dsimp only
    repeat' split
    all_goals simp
  · rw [List.eq_of_mem_replicate h]
    exact trivial

theorem readCsv_wellFormed (h : readCsv bytes = .ok t) : t.WellFormed := by
  unfold readCsv at h
  split at h
  · cases h
    exact Table.wellFormed_empty List.nodup_nil
  · obtain ⟨columns, -, h⟩ := bind_eq_ok_iff.1 h
    obtain ⟨_, hdistinct, h⟩ := bind_eq_ok_iff.1 h
    obtain ⟨rows, hrows, h⟩ := bind_eq_ok_iff.1 h
    rw [← pure_eq_ok_iff.1 h, Table.wellFormed_iff]
    refine ⟨checkDistinct_eq_ok (mapError_eq_ok_iff.1 hdistinct), fun row hrow => ?_⟩
    obtain ⟨record, -, hrecord⟩ := exists_of_mem_of_mapM_eq_ok hrows hrow
    obtain ⟨fields, -, hrecord⟩ := bind_eq_ok_iff.1 hrecord
    rw [← pure_eq_ok_iff.1 hrecord]
    exact ⟨length_csvRow _ _, fun v hv => wellFormed_of_mem_csvRow hv⟩

theorem JsonValue.toValue_isScalar (v : JsonValue) : v.toValue.IsScalar := by
  cases v with
  | number text =>
    unfold JsonValue.toValue numberCell
    repeat' split
    all_goals simp
  | _ => simp [JsonValue.toValue]

theorem Table.ofRecords_wellFormed (records : List Members) : (ofRecords records).WellFormed := by
  rw [wellFormed_iff]
  refine ⟨nodup_unionNames records, fun row hrow => ?_⟩
  obtain ⟨record, -, rfl⟩ := List.mem_map.1 hrow
  refine ⟨List.length_map _, fun v hv => ?_⟩
  obtain ⟨column, -, rfl⟩ := List.mem_map.1 hv
  cases JsonValue.member? column record with
  | none => exact trivial
  | some w => exact (JsonValue.toValue_isScalar w).wellFormed

/-- **Loading**: in every format a table that is loaded is well-formed. -/
theorem loadBytes_wellFormed {format : Format} (h : loadBytes format bytes = .ok t) :
    t.WellFormed := by
  cases format with
  | csv => exact readCsv_wellFormed h
  | json =>
    dsimp only [loadBytes] at h
    unfold readJson at h
    dsimp only at h
    split at h
    · cases h
      exact Table.ofRecords_wellFormed _
    · cases h
  | jsonLines =>
    obtain ⟨records, -, h⟩ := bind_eq_ok_iff.1 h
    rw [← pure_eq_ok_iff.1 h]
    exact Table.ofRecords_wellFormed records
  | avro => cases h
  | parquet => cases h

end Loading

/-! ### The invariant -/

/-- **Well-formedness is an invariant of every pipeline.**  On any well-formed table, every table
that a run of any operations comes to is well-formed, in whatever way rows are sorted and whether
the run ends well or with an error, and no stage leaves the rows it looks into; and every table that
is loaded is well-formed to begin with. -/
theorem pipeline_wellFormed :
    (∀ (method : SortMethod) (ops : List Operation) (t : Table), t.WellFormed →
      (∀ stage ∈ stagesAlong method ops t, stage.2.WellFormed ∧ stage.1.InRange stage.2 ∧
        ∀ t', stage.1.apply method stage.2 = .ok t' → t'.WellFormed) ∧
      ∀ t', runOperations method ops t = .ok t' → t'.WellFormed) ∧
    ∀ (format : Format) (bytes : List UInt8) (t : Table), loadBytes format bytes = .ok t →
      t.WellFormed := by
  refine ⟨fun method ops t ht => ⟨fun stage hstage => ?_, fun t' h => ?_⟩,
    fun format bytes t h => ?_⟩
  · have hwf := wellFormed_of_mem_stagesAlong ht hstage
    exact ⟨hwf, stage.1.inRange hwf, fun t' h => stage.1.apply_wellFormed hwf h⟩
  · exact runOperations_wellFormed ht h
  · exact loadBytes_wellFormed h

/-- A run that puts tables into cells, groups again by a cell that holds one, and ends; and a
loaded table. -/
theorem pipeline_wellFormed_regrouped :
    let t : Table := ⟨["city", "n"],
      [[.string "x", .integer 1], [.string "y", .integer 2], [.string "x", .integer 3]]⟩
    let ops : List Operation := [.group ["city"] "rest", .group ["rest"] "cities",
      .transform [⟨"n", .column "cities"⟩], .reduce "n" [⟨"size", .call "count" []⟩]]
    t.WellFormed ∧
      ((stagesAlong .standard ops t).length = 4 ∧
        ∀ stage ∈ stagesAlong .standard ops t, stage.2.WellFormed ∧ stage.1.InRange stage.2) ∧
      (∃ t', runOperations .standard ops t = .ok t' ∧ t'.rows.length = 2 ∧ t'.WellFormed) ∧
      ∃ t', loadBytes .csv [97, 44, 98, 10, 49, 44, 50] = .ok t' ∧ t'.WellFormed := by
  intro t ops
  have ht : t.WellFormed := by
    rw [Table.wellFormed_iff]
    simp [t, Value.WellFormed]
  have hrun := pipeline_wellFormed.1 .standard ops t ht
  refine ⟨ht, ⟨rfl, fun stage hstage => ?_⟩, ⟨_, rfl, rfl, hrun.2 _ rfl⟩, ?_⟩
  · exact ⟨(hrun.1 stage hstage).1, (hrun.1 stage hstage).2.1⟩
  · have hload : ∃ t', loadBytes .csv [97, 44, 98, 10, 49, 44, 50] = .ok t' :=
      ⟨_, by with_unfolding_all rfl⟩
    obtain ⟨t', h⟩ := hload
    exact ⟨t', h, pipeline_wellFormed.2 .csv _ t' h⟩

end TablePipeline
