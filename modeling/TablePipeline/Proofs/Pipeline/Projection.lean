import TablePipeline.Proofs.Pipeline.RowStages

/-!
# Which columns are left

`select` and `remove` keep cells by name.  Both are changes of each row by itself (`Table.onto`,
`Table.without`), and by them two pairs of pipelines come to the same.

A stage that chooses rows may stand in front of a `select` or behind it, if the columns it looks at
are among those that are selected: the cells it looks at are left alone.

`distinct` and `group` go through the rows in loops of their own, one with a set of the keys it has
seen and one with a table of places.  With everything but the key removed they leave the same rows:
the key cells of the first row with each key (`Table.keyTable`).

## Main definitions

* `Table.onto` — the cells of a row under given names
* `Table.keyTable` — the key cells of the first row with each key

## Main statements

* `selectColumns_eq_ok`, `removeColumns_eq_ok` — the stages in terms of names
* `select_comm_chooseRows` — choosing columns and choosing rows
* `distinct_select_eq_group_remove` — the keys of `distinct` and those of `group`
-/

namespace TablePipeline

variable {t : Table} {method : SortMethod} {columns names : List String} {nested : String}

namespace Table

/-- The cells of a row under the names, in the order of the names. -/
def onto (t : Table) (names : List String) (row : Row) : Row :=
  names.map (t.cell row)

/-- The key cells of the first row with each key. -/
def keyTable (t : Table) (names : List String) : Table :=
  ⟨names, (firstOfEach (t.keyOf names) [] t.rows).map (t.onto names)⟩

end Table

/-! ### The stages by name -/

/-- Existing columns under distinct names can be selected. -/
theorem selectColumns_eq_ok (hcolumns : columns.Nodup) (h : ∀ name ∈ columns, name ∈ t.columns) :
    selectColumns columns t = .ok (t.mapRows columns (t.onto columns)) := by
  rw [selectColumns, ofSchema_eq_ok_iff]
  refine bind_eq_ok_iff.2 ⟨_, Table.columnIndices_of_forall_mem h, ?_⟩
  refine bind_eq_ok_iff.2 ⟨(), checkDistinct_eq_ok_iff.2 hcolumns, pure_eq_ok_iff.2 ?_⟩
  refine congrArg₂ Table.mk (Table.columnNames_map_idxOf h) (List.map_congr_left fun row _ => ?_)
  exact Table.pick_map_idxOf columns row

/-- Existing columns can be removed. -/
theorem removeColumns_eq_ok (hc : t.columns.Nodup) (h : ∀ name ∈ names, name ∈ t.columns) :
    removeColumns names t =
      .ok (t.mapRows (t.columns.filter (· ∉ names)) (t.without names)) := by
  rw [removeColumns, ofSchema_eq_ok_iff]
  refine bind_eq_ok_iff.2 ⟨_, Table.columnIndices_of_forall_mem h, pure_eq_ok_iff.2 ?_⟩
  refine congrArg₂ Table.mk (Table.columnNames_complement hc h)
    (List.map_congr_left fun row _ => ?_)
  exact Table.pick_complement hc h row

/-! ### Choosing columns and choosing rows -/

/-- The cells under selected names are the cells they were. -/
theorem Table.leaves_onto (hcolumns : ∀ name ∈ columns, name ∈ t.columns)
    (hnames : ∀ name ∈ names, name ∈ columns) : t.Leaves columns (t.onto columns) names := by
  constructor
  · intro name hname
    exact iff_of_true (hnames name hname) (hcolumns name (hnames name hname))
  · intro row _ name hname
    have hcell := cellAt_map_append (hnames name hname) (t.cell row) []
    rwa [List.append_nil] at hcell

theorem Table.onto_congr {u : Table} (h : t.columns = u.columns) (names : List String) :
    t.onto names = u.onto names := by
  funext row
  refine List.map_congr_left fun name _ => ?_
  rw [cell, cell, h]

theorem runOperations_singleton (op : Operation) (t : Table) :
    runOperations method [op] t = op.apply method t := by
  rw [runOperations]
  cases op.apply method t <;> rfl

theorem runOperations_pair (first second : Operation) (t : Table) :
    runOperations method [first, second] t =
      (first.apply method t).bind (second.apply method) := by
  rw [runOperations]
  cases first.apply method t with
  | error e => rfl
  | ok next => exact runOperations_singleton second next

/-- **Choosing columns and choosing rows**: a stage that chooses or orders rows by columns that are
selected may stand in front of the `select` or behind it, with the same rows or the same error. -/
theorem select_comm_chooseRows (method : SortMethod) {op : Operation} (ht : t.WellFormed)
    (hcolumns : columns.Nodup) (h : ∀ name ∈ columns, name ∈ t.columns)
    (hop : op.ChoosesRowsBy names) (hnames : ∀ name ∈ names, name ∈ columns) :
    runOperations method [op, .select columns] t = runOperations method [.select columns, op] t ∧
      runOperations method [.select columns, op] t =
        (op.apply method t).map (·.mapRows columns (t.onto columns)) := by
  have hselect := selectColumns_eq_ok hcolumns h
  have hbehind : runOperations method [.select columns, op] t =
      (op.apply method t).map (·.mapRows columns (t.onto columns)) := by
    rw [runOperations_pair, Operation.apply, hselect]
    exact Operation.apply_mapRows method ht (selectColumns_wellFormed ht hselect) hop
      (Table.leaves_onto h hnames)
  refine ⟨?_, hbehind⟩
  rw [hbehind, runOperations_pair]
  cases happly : op.apply method t with
  | error e => rfl
  | ok chosen =>
    -- the rows that are chosen have the same columns, in which the selected ones are found
    have hchosen : chosen.columns = t.columns := hop.columns_eq happly
    have honto := Table.onto_congr hchosen columns
    exact (selectColumns_eq_ok hcolumns (hchosen ▸ h)).trans (by rw [honto]; rfl)

/-- A filter on the last column, which is selected as the first one: a null is not compared, and
the third row is left on either side. -/
theorem select_comm_chooseRows_reordered :
    let t : Table := ⟨["city", "x", "n"], [[.string "a", .null, .integer 1],
      [.string "b", .null, .null], [.string "c", .boolean true, .integer 3]]⟩
    let condition : Expr := .call "if" [.nullTest (.column "n") false, .literal (.boolean false),
      .binary .less (.literal (.integer 1)) (.column "n")]
    t.WellFormed ∧ (Operation.filter condition).ChoosesRowsBy ["n", "n"] ∧
      runOperations .standard [.filter condition, .select ["n", "city"]] t =
        runOperations .standard [.select ["n", "city"], .filter condition] t ∧
      runOperations .standard [.select ["n", "city"], .filter condition] t =
        .ok ⟨["n", "city"], [[.integer 3, .string "c"]]⟩ := by
  intro t condition
  have ht : t.WellFormed := by
    rw [Table.wellFormed_iff]
    simp [t, Value.WellFormed]
  have hop : (Operation.filter condition).ChoosesRowsBy ["n", "n"] := .filter condition
  have hcomm := @select_comm_chooseRows t ["n", "city"] ["n", "n"] .standard _ ht (by decide)
    (by decide) hop (by decide)
  refine ⟨ht, hop, hcomm.1, ?_⟩
  rw [hcomm.2]
  rfl

/-! ### Keys -/

/-- The names in front of the last one are the others. -/
theorem filter_notMem_last (hnested : nested ∉ names) :
    (names ++ [nested]).filter (· ∉ [nested]) = names := by
  rw [List.filter_append, List.filter_eq_self.2]
  · simp
  · intro name hname
    exact decide_eq_true fun hmem => hnested (List.mem_singleton.1 hmem ▸ hname)

/-- A row of cells by name, with one more cell at its end, is what it was when this is removed. -/
theorem Table.without_last {rows : List Row} (hnested : nested ∉ names) (cell : String → Value)
    (v : Value) :
    Table.without ⟨names ++ [nested], rows⟩ [nested] (names.map cell ++ [v]) = names.map cell := by
  rw [Table.without, filter_notMem_last hnested]
  refine List.map_congr_left fun name hname => ?_
  rw [Table.cell, List.idxOf_append_of_mem hname, cellAt_map_append hname]

/-- **The keys of `distinct` and those of `group`**: with the other columns left out, and with the
nested tables removed, both stages give the key cells of the first row with each key. -/
theorem distinct_select_eq_group_remove (ht : t.WellFormed) (hne : names ≠ [])
    (hnames : names.Nodup) (h : ∀ name ∈ names, name ∈ t.columns) (hnested : nested ∉ names) :
    runOperations method [.distinct names, .select names] t = .ok (t.keyTable names) ∧
      runOperations method [.group names nested, .remove [nested]] t = .ok (t.keyTable names) := by
  constructor
  · have hdistinct := distinctRows_of_ok hne (Table.columnIndices_of_forall_mem h)
    rw [runOperations_pair, Operation.apply, hdistinct]
    exact selectColumns_eq_ok hnames h
  · have hgroup := groupColumns_eq_ok h hnames hnested
    have hcolumns := (groupColumns_wellFormed ht hgroup).nodup_columns
    have hlast : ∀ name ∈ [nested], name ∈ names ++ [nested] := by simp
    rw [runOperations_pair, Operation.apply, hgroup]
    refine (removeColumns_eq_ok hcolumns hlast).trans (congrArg Except.ok ?_)
    refine congrArg₂ Table.mk (filter_notMem_last hnested) ?_
    -- of each group the cells of its first row are left
    rw [groupRows_eq ht h, List.map_map]
    exact List.map_congr_left fun row _ => Table.without_last hnested _ _

/-- Keys of two columns, in another order than that of the table: the second and the fourth row have
the keys of earlier ones, and the nested table may have the name of a column that is not in the
key. -/
theorem distinct_select_eq_group_remove_repeated :
    let t : Table := ⟨["city", "n", "k"], [[.string "a", .integer 1, .null],
      [.string "a", .integer 2, .null], [.string "b", .integer 3, .boolean true],
      [.string "a", .integer 4, .null], [.string "b", .integer 5, .null]]⟩
    let keys : Table := ⟨["k", "city"], [[.null, .string "a"], [.boolean true, .string "b"],
      [.null, .string "b"]]⟩
    t.WellFormed ∧
      runOperations .standard [.distinct ["k", "city"], .select ["k", "city"]] t = .ok keys ∧
      runOperations .standard [.group ["k", "city"] "n", .remove ["n"]] t = .ok keys := by
  intro t keys
  have ht : t.WellFormed := by
    rw [Table.wellFormed_iff]
    simp [t, Value.WellFormed]
  have hkeys : t.keyTable ["k", "city"] = keys := by rfl
  have hboth := @distinct_select_eq_group_remove t .standard ["k", "city"] "n" ht (by decide)
    (by decide) (by decide) (by decide)
  rw [hkeys] at hboth
  exact ⟨ht, hboth⟩

end TablePipeline
