import TablePipeline.Proofs.Pipeline.RowStages

/-!
# Footprints

`Operation.InRange` says of certain positions that rows have cells there.  This file says that these
are the positions that matter: if rows are changed at other positions, the stage does not see it.
It chooses the same rows, shows the same columns, finds the same keys and computes the same values,
or it fails with the same error.  So nothing that a stage makes comes from a position at which there
is no cell, although looking there would do no harm to it.

The two stages whose expressions look at rows, `filter` and `transform`, ask for cells by name and
are told when there is none.  What `group` puts into its nested tables is what is left of a row when
the cells of the key have been taken out, which needs no position either.  Writing is the other way
round: a cell changes only at the position of a target.

## Main definitions

* `Operation.footprint` — the positions at which a stage looks into rows
* `Table.AgreesAt` — a change of the rows that leaves alone the cells at some positions
* `Operation.Blind` — the stage does not see the change

## Main statements

* `Operation.InRange.covers_footprint` — a stage in range has cells at its footprint
* `Operation.blind` — a stage looks at its footprint only
* `AssignmentPlan.getElem?_writeAll_of_notMem` — a stage writes to its targets only
-/

namespace TablePipeline

variable {t : Table} {f : Row → Row} {method : SortMethod} {indices : List Nat} {row : Row}

/-- The positions at which a stage looks into rows, once it has found its columns. -/
def Operation.footprint : Operation → Table → Except SchemaError (List Nat)
  | sortAscending columns, t | sortDescending columns, t | select columns, t
  | group columns _, t => t.columnIndices columns
  | remove columns, t => (t.columnIndices columns).map (complement t.columns.length)
  | distinct columns, t => distinctIndices columns t
  | reduce nested _, t => (t.requireColumn nested).map fun i => [i]
  | head _, _ | tail _, _ | filter _, _ | transform _, _ | count, _ | rename _, _ => .ok []

/-- A stage in range has cells at its footprint. -/
theorem Operation.InRange.covers_footprint {op : Operation} (h : op.InRange t)
    (hindices : op.footprint t = .ok indices) : t.Covers indices := by
  cases op with
  | sortAscending | sortDescending | select => exact h indices hindices
  | distinct => exact h indices hindices
  | group => exact (h indices hindices).1
  | remove columns =>
    obtain ⟨found, hfound, rfl⟩ := map_eq_ok_iff.1 hindices
    exact (h found hfound).2
  | reduce nested assignments =>
    obtain ⟨i, hi, rfl⟩ := map_eq_ok_iff.1 hindices
    exact (h.2 i hi).1
  | head | tail | filter | transform | count | rename =>
    cases hindices
    exact fun _ _ _ hi => absurd hi List.not_mem_nil

/-! ### Changes that are not seen -/

namespace Table

/-- The change leaves alone the cells at the positions. -/
def AgreesAt (t : Table) (f : Row → Row) (indices : List Nat) : Prop :=
  ∀ row ∈ t.rows, ∀ i ∈ indices, (f row)[i]? = row[i]?

theorem AgreesAt.cellAt_eq (h : t.AgreesAt f indices) (hrow : row ∈ t.rows) {i : Nat}
    (hi : i ∈ indices) : cellAt (f row) i = cellAt row i := by
  rw [cellAt, cellAt, h row hrow i hi]

/-- Cells are picked by position. -/
theorem AgreesAt.pick_eq (h : t.AgreesAt f indices) (hrow : row ∈ t.rows) :
    pick indices (f row) = pick indices row :=
  List.map_congr_left fun _ hi => h.cellAt_eq hrow hi

/-- Keys are made of picked cells. -/
theorem AgreesAt.rowKey_eq (h : t.AgreesAt f indices) (hrow : row ∈ t.rows) :
    rowKey indices (f row) = rowKey indices row :=
  congrArg compositeKey (h.pick_eq hrow)

/-- Rows are compared by position. -/
theorem AgreesAt.rowCompare_eq (h : t.AgreesAt f indices) (descending : Bool) {a b : Row}
    (ha : a ∈ t.rows) (hb : b ∈ t.rows) :
    rowCompare descending indices (f a) (f b) = rowCompare descending indices a b :=
  rowCompare_congr descending
    (List.forall₂_same.2 fun _ hi => ⟨h.cellAt_eq ha hi, h.cellAt_eq hb hi⟩)

/-- The first rows of the keys are the same ones. -/
theorem AgreesAt.firstOfEach_map (h : t.AgreesAt f indices) :
    firstOfEach (rowKey indices) [] (t.rows.map f) =
      (firstOfEach (rowKey indices) [] t.rows).map f := by
  rw [← map_firstOfEach_map]
  exact congrArg (List.map f) (firstOfEach_congr (fun row hrow => h.rowKey_eq hrow) [])

end Table

/-! ### Rows, columns and keys -/

section Stages

/-- A sort finds the same order. -/
theorem sortRows_of_agreesAt {descending : Bool} {columns : List String}
    (h : ∀ indices, t.columnIndices columns = .ok indices → t.AgreesAt f indices) :
    sortRows method descending columns (t.mapRows t.columns f) =
      (sortRows method descending columns t).map fun out => out.mapRows out.columns f := by
  cases hindices : t.columnIndices columns with
  | error e =>
    have hlookup : (t.mapRows t.columns f).columnIndices columns = .error e := hindices
    rw [sortRows, sortRows, hlookup, hindices]
    rfl
  | ok indices =>
    have hlookup : (t.mapRows t.columns f).columnIndices columns = .ok indices := hindices
    have hagrees := h indices hindices
    rw [sortRows_mapRows_of_ok hlookup fun a ha b hb => hagrees.rowCompare_eq descending ha hb,
      sortRows_of_ok hindices]
    cases method.sort (rowCompare descending indices) t.rows <;> rfl

/-- The same rows are the first ones of their keys. -/
theorem distinctRows_of_agreesAt {columns : List String}
    (h : ∀ indices, distinctIndices columns t = .ok indices → t.AgreesAt f indices) :
    distinctRows columns (t.mapRows t.columns f) =
      (distinctRows columns t).mapRows (distinctRows columns t).columns f := by
  have hlookup : distinctIndices columns (t.mapRows t.columns f) = distinctIndices columns t := rfl
  rw [distinctRows, distinctRows, hlookup]
  cases hindices : distinctIndices columns t with
  | error e => rfl
  | ok indices => exact congrArg (Table.mk t.columns) (h indices hindices).firstOfEach_map

theorem project_of_agreesAt (h : t.AgreesAt f indices) :
    (t.mapRows t.columns f).project indices = t.project indices := by
  refine congrArg (Table.mk _) ?_
  rw [Table.mapRows, List.map_map]
  exact List.map_congr_left fun row hrow => h.pick_eq hrow

theorem selectColumns_of_agreesAt {columns : List String}
    (h : ∀ indices, t.columnIndices columns = .ok indices → t.AgreesAt f indices) :
    selectColumns columns (t.mapRows t.columns f) = selectColumns columns t := by
  have hlookup : (t.mapRows t.columns f).columnIndices columns = t.columnIndices columns := rfl
  rw [selectColumns, selectColumns, hlookup]
  cases hindices : t.columnIndices columns with
  | error e => rfl
  | ok indices =>
    have hproject := project_of_agreesAt (h indices hindices)
    simp only [hproject, bind, Except.bind]

theorem removeColumns_of_agreesAt {columns : List String}
    (h : ∀ indices, t.columnIndices columns = .ok indices →
      t.AgreesAt f (complement t.columns.length indices)) :
    removeColumns columns (t.mapRows t.columns f) = removeColumns columns t := by
  have hlookup : (t.mapRows t.columns f).columnIndices columns = t.columnIndices columns := rfl
  rw [removeColumns, removeColumns, hlookup]
  cases hindices : t.columnIndices columns with
  | error e => rfl
  | ok indices =>
    have hproject := project_of_agreesAt (h indices hindices)
    exact congrArg (fun out => StageLabel.ofSchema (.stage "remove") (.ok out)) hproject

/-- The key cells of the rows that `group` makes. -/
theorem take_groupRows (indices : List Nat) (t : Table) :
    (groupRows indices t).map (List.take indices.length) =
      (firstOfEach (rowKey indices) [] t.rows).map (pick indices) := by
  rw [groupRows_eq_map, List.map_map]
  refine List.map_congr_left fun row _ => ?_
  rw [Function.comp_apply, List.take_left' (length_pick indices row)]

/-- The same keys are found, in the same order. -/
theorem groupColumns_of_agreesAt {columns : List String} {nested : String}
    (h : ∀ indices, t.columnIndices columns = .ok indices → t.AgreesAt f indices) :
    (groupColumns columns nested (t.mapRows t.columns f)).map
        (fun out => out.rows.map (List.take columns.length)) =
      (groupColumns columns nested t).map fun out => out.rows.map (List.take columns.length) := by
  have hlookup : (t.mapRows t.columns f).columnIndices columns = t.columnIndices columns := rfl
  rw [groupColumns, groupColumns, hlookup]
  cases hindices : t.columnIndices columns with
  | error e => rfl
  | ok indices =>
    have hlength : columns.length = indices.length := by
      obtain ⟨-, rfl⟩ := Table.columnIndices_eq_ok_iff.1 hindices
      rw [List.length_map]
    have hagrees := h indices hindices
    have hkeys : (groupRows indices (t.mapRows t.columns f)).map (List.take indices.length) =
        (groupRows indices t).map (List.take indices.length) := by
      rw [take_groupRows, take_groupRows, Table.mapRows, hagrees.firstOfEach_map, List.map_map]
      exact List.map_congr_left fun row hrow =>
        hagrees.pick_eq ((firstOfEach_sublist _ _ _).subset hrow)
    rw [hlength]
    cases checkDistinct (columns ++ [nested]) with
    | error e => rfl
    | ok _ => exact congrArg Except.ok hkeys

/-- The place of a row comes from the keys of the rows. -/
theorem placeOf_of_agreesAt {names : List String} (h : t.AgreesAt f (names.map t.columns.idxOf))
    {i : Nat} (hi : i < t.rows.length) :
    (t.mapRows t.columns f).placeOf names i = t.placeOf names i := by
  have hi' : i < (t.mapRows t.columns f).rows.length := by simpa [Table.mapRows] using hi
  have hkey : ∀ row ∈ t.rows,
      (t.mapRows t.columns f).keyOf names (f row) = t.keyOf names row := by
    intro row hrow
    rw [← Table.rowKey_map_idxOf, ← Table.rowKey_map_idxOf]
    exact h.rowKey_eq hrow
  have hkeys : (firstOfEach ((t.mapRows t.columns f).keyOf names) []
      (t.mapRows t.columns f).rows).map ((t.mapRows t.columns f).keyOf names) =
        (firstOfEach (t.keyOf names) [] t.rows).map (t.keyOf names) := by
    rw [← Table.rowKey_map_idxOf, ← Table.rowKey_map_idxOf]
    show (firstOfEach (rowKey (names.map t.columns.idxOf)) [] (t.rows.map f)).map _ = _
    rw [h.firstOfEach_map, List.map_map]
    refine List.map_congr_left fun row hrow => ?_
    exact h.rowKey_eq ((firstOfEach_sublist _ _ _).subset hrow)
  have hplace := Table.idxOf?_placeOf names hi'
  have hrow : (t.mapRows t.columns f).rowAt i = f (t.rowAt i) := by
    rw [Table.rowAt_eq_getElem hi', Table.rowAt_eq_getElem hi]
    exact List.getElem_map f
  have hmem : t.rowAt i ∈ t.rows := by
    rw [Table.rowAt_eq_getElem hi]
    exact List.getElem_mem hi
  rw [hkeys, hrow, hkey _ hmem, Table.idxOf?_placeOf names hi] at hplace
  exact (Option.some_inj.1 hplace).symm

end Stages

/-! ### Writing -/

namespace AssignmentPlan

variable {targets : List Nat} {values : List Value} {row row' : Row} {i : Nat}

/-- Only targets are written. -/
theorem getElem?_writeAll_of_notMem (h : i ∉ targets) :
    (writeAll row targets values)[i]? = row[i]? := by
  fun_induction writeAll row targets values with
  | case1 row j targets v values ih =>
    rw [List.mem_cons, not_or] at h
    rw [ih h.2, List.getElem?_set_ne (Ne.symm h.1)]
  | case2 => rfl

/-- What is written at a target does not depend on the row. -/
theorem getElem?_writeAll_of_mem (hlength : row'.length = row.length)
    (hvalues : values.length = targets.length) (h : i ∈ targets) :
    (writeAll row' targets values)[i]? = (writeAll row targets values)[i]? := by
  induction targets generalizing row row' values with
  | nil => cases h
  | cons j targets ih =>
    obtain ⟨v, values, rfl⟩ := List.exists_cons_of_length_eq_add_one hvalues
    rw [writeAll, writeAll]
    have hlength' : (row'.set j v).length = (row.set j v).length := by simpa using hlength
    by_cases hi : i ∈ targets
    · exact ih hlength' (by simpa using hvalues) hi
    · obtain rfl := (List.mem_cons.1 h).resolve_right hi
      rw [getElem?_writeAll_of_notMem hi, getElem?_writeAll_of_notMem hi, List.getElem?_set,
        List.getElem?_set, if_pos rfl, if_pos rfl, hlength]

/-- What is written at the targets does not depend on the row. -/
theorem pick_write (plan : AssignmentPlan) (hlength : row'.length = row.length)
    (hvalues : values.length = plan.targets.length) :
    pick plan.targets (plan.write row' values) = pick plan.targets (plan.write row values) := by
  refine List.map_congr_left fun i hi => ?_
  have hseed : (plan.seed row').length = (plan.seed row).length := by
    simp only [seed, List.length_append, List.length_replicate, hlength]
  rw [cellAt, cellAt, write, write, getElem?_writeAll_of_mem hseed hvalues hi]

end AssignmentPlan

/-! ### Nested tables -/

/-- The row that `reduce` makes of a row with its nested table at a position. -/
def reduceRow (nested : String) (assignments : List Assignment) (plan : AssignmentPlan) (i : Nat)
    (row : Row) : Except StageError Row := do
  let inner ← requireNested nested (cellAt row i)
  let values ← assignmentValues "reduce" (·.aggregate inner) assignments
  pure (plan.write row values)

theorem reduceRows_of_ok {nested : String} {assignments : List Assignment} {i : Nat}
    (h : t.requireColumn nested = .ok i) :
    reduceRows nested assignments t =
      (t.rows.mapM (reduceRow nested assignments (.make t.columns assignments) i)).map
        (Table.mk (AssignmentPlan.make t.columns assignments).columns) := by
  rw [reduceRows, h]
  show (t.rows.mapM (reduceRow nested assignments (.make t.columns assignments) i) >>= _) = _
  cases t.rows.mapM (reduceRow nested assignments (.make t.columns assignments) i) <;> rfl

/-- The new cells come from the nested table. -/
theorem pick_reduceRow {nested : String} {assignments : List Assignment} {plan : AssignmentPlan}
    {i : Nat} {row' : Row} (hplan : plan.targets.length = assignments.length)
    (hcell : cellAt row' i = cellAt row i) (hlength : row'.length = row.length) :
    (reduceRow nested assignments plan i row').map (pick plan.targets) =
      (reduceRow nested assignments plan i row).map (pick plan.targets) := by
  rw [reduceRow, reduceRow, hcell]
  cases requireNested nested (cellAt row i) with
  | error e => rfl
  | ok inner =>
    cases hvalues : assignmentValues "reduce" (·.aggregate inner) assignments with
    | error e => simp only [bind, Except.bind, hvalues]
    | ok values =>
      have hcount : values.length = plan.targets.length :=
        (mapM_eq_ok_iff.1 hvalues).length_eq.symm.trans hplan.symm
      simp only [bind, Except.bind, hvalues]
      exact congrArg Except.ok (plan.pick_write hlength hcount)

/-- The same values are computed, or the same error is found. -/
theorem reduceRows_of_agreesAt {nested : String} {assignments : List Assignment}
    (h : ∀ i, t.requireColumn nested = .ok i → t.AgreesAt f [i])
    (hlength : ∀ row ∈ t.rows, (f row).length = row.length) :
    (reduceRows nested assignments (t.mapRows t.columns f)).map
        (·.project (AssignmentPlan.make t.columns assignments).targets) =
      (reduceRows nested assignments t).map
        (·.project (AssignmentPlan.make t.columns assignments).targets) := by
  have hlookup : (t.mapRows t.columns f).requireColumn nested = t.requireColumn nested := rfl
  cases hindex : t.requireColumn nested with
  | error e =>
    rw [reduceRows, reduceRows, hlookup, hindex]
    rfl
  | ok i =>
    set plan := AssignmentPlan.make t.columns assignments with hplan
    have htargets : plan.targets.length = assignments.length :=
      AssignmentPlan.length_targets_make t.columns assignments
    have hrows : ((t.rows.map f).mapM (reduceRow nested assignments plan i)).map
        (List.map (pick plan.targets)) =
          (t.rows.mapM (reduceRow nested assignments plan i)).map (List.map (pick plan.targets)) :=
      map_mapM_map fun row hrow => pick_reduceRow htargets
        ((h i hindex).cellAt_eq hrow (List.mem_singleton_self i)) (hlength row hrow)
    have hshow : ∀ x : Except StageError (List Row),
        (x.map (Table.mk plan.columns)).map (·.project plan.targets) =
          (x.map (List.map (pick plan.targets))).map
            (Table.mk (Table.columnNames ⟨plan.columns, []⟩ plan.targets)) := by
      rintro (e | rows) <;> rfl
    rw [reduceRows_of_ok (hlookup.trans hindex), reduceRows_of_ok hindex]
    exact (hshow _).trans ((congrArg _ hrows).trans (hshow _).symm)

/-! ### One stage -/

/-- The stage does not see the change of the rows: it makes the same choice of rows or columns, and
finds the same keys or values. -/
def Operation.Blind (method : SortMethod) (f : Row → Row) (op : Operation) (t : Table) : Prop :=
  let u := t.mapRows t.columns f
  match op with
  | head _ | tail _ | sortAscending _ | sortDescending _ | distinct _ | rename _ =>
    op.apply method u = (op.apply method t).map fun out => out.mapRows out.columns f
  | select _ | remove _ | count => op.apply method u = op.apply method t
  | group columns _ =>
    (op.apply method u).map (fun out => out.rows.map (List.take columns.length)) =
        (op.apply method t).map (fun out => out.rows.map (List.take columns.length)) ∧
      ((∀ name ∈ columns, name ∈ t.columns) →
        ∀ i < t.rows.length, u.placeOf columns i = t.placeOf columns i)
  | reduce _ assignments =>
    let targets := (AssignmentPlan.make t.columns assignments).targets
    (∀ row ∈ t.rows, (f row).length = row.length) →
      (op.apply method u).map (·.project targets) = (op.apply method t).map (·.project targets)
  | filter _ | transform _ => True

/-- **A stage looks at its footprint only.**  It does not see a change of the rows that leaves alone
the cells there. -/
theorem Operation.blind {op : Operation}
    (h : ∀ indices, op.footprint t = .ok indices → t.AgreesAt f indices) :
    op.Blind method f t := by
  cases op with
  | head n => exact head_mapRows method n t t.columns f
  | tail n => exact tail_mapRows method n t t.columns f
  | sortAscending columns => exact sortRows_of_agreesAt h
  | sortDescending columns => exact sortRows_of_agreesAt h
  | distinct columns => exact congrArg Except.ok (distinctRows_of_agreesAt h)
  | rename pairs =>
    show renameColumns pairs (t.mapRows t.columns f) = (renameColumns pairs t).map _
    rw [renameColumns, renameColumns, Table.mapRows]
    cases hrenamed : renameAll pairs t.columns with
    | error e => rfl
    | ok columns =>
      simp only [bind, Except.bind]
      cases checkDistinct columns <;> rfl
  | select columns => exact selectColumns_of_agreesAt h
  | remove columns =>
    refine removeColumns_of_agreesAt fun indices hindices => h _ ?_
    rw [footprint, hindices]
    rfl
  | count =>
    refine congrArg (fun n => Except.ok (Table.mk ["count"] [[.integer (Int64.ofInt n)]])) ?_
    exact congrArg Nat.cast (List.length_map f)
  | group columns nested =>
    refine ⟨groupColumns_of_agreesAt h, fun hcolumns i hi => placeOf_of_agreesAt ?_ hi⟩
    exact h _ (Table.columnIndices_of_forall_mem hcolumns)
  | reduce nested assignments =>
    refine reduceRows_of_agreesAt fun i hi => h _ ?_
    rw [footprint, hi]
    rfl
  | filter condition => trivial
  | transform assignments => trivial

end TablePipeline
