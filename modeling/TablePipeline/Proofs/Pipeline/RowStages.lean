import TablePipeline.Proofs.Pipeline.Identity

/-!
# Stages that choose rows

`head`, `tail`, `filter`, `distinct` and the sorts choose rows and put them in order.  They leave a
row as it is, and what they look at in it are its cells under the names that the stage names.  So
such a stage does not see a change of the rows that leaves these cells alone: it chooses the same
rows, in the same order, before the change and behind it (`Operation.apply_mapRows`), and where it
fails it fails with the same error.

The change may move cells, drop them or add new ones, and the stage finds its columns by name again
each time.  Where column names are distinct all ways of looking a cell up come to the same, that of
expressions among them (`Table.WellFormed.cellNamed?_eq`).

## Main definitions

* `Operation.ChoosesRowsBy` — the stages, with the names they look at
* `Table.mapRows` — a change of each row by itself
* `Table.Leaves` — the change leaves the cells under some names alone

## Main statements

* `Operation.apply_mapRows` — one stage, before and behind a change of the rows
-/

namespace TablePipeline

/-- The stage chooses or orders rows by the cells under the given names and leaves each row as it
is. -/
inductive Operation.ChoosesRowsBy : Operation → List String → Prop
  | head (n : Nat) : ChoosesRowsBy (.head n) []
  | tail (n : Nat) : ChoosesRowsBy (.tail n) []
  | sortAscending (columns : List String) : ChoosesRowsBy (.sortAscending columns) columns
  | sortDescending (columns : List String) : ChoosesRowsBy (.sortDescending columns) columns
  | filter (condition : Expr) : ChoosesRowsBy (.filter condition) condition.mentions
  /-- Without names `distinct` looks at all columns. -/
  | distinct {columns : List String} (named : columns ≠ []) :
      ChoosesRowsBy (.distinct columns) columns

/-! ### Cells by name -/

section Cells

variable {columns : List String} {name : String}

theorem lastIndexOf?_eq_none (h : name ∉ columns) : lastIndexOf? name columns = none := by
  induction columns with
  | nil => rfl
  | cons c rest ih =>
    have hc : c ≠ name := fun heq => h (heq ▸ List.mem_cons_self)
    rw [lastIndexOf?, ih fun hmem => h (List.mem_cons_of_mem c hmem)]
    exact if_neg hc

/-- Where names are distinct, the last position of a name is the first one. -/
theorem lastIndexOf?_of_mem (hc : columns.Nodup) (h : name ∈ columns) :
    lastIndexOf? name columns = some (columns.idxOf name) := by
  induction columns with
  | nil => cases h
  | cons c rest ih =>
    obtain ⟨hnotMem, hrest⟩ := List.nodup_cons.1 hc
    rw [lastIndexOf?]
    by_cases hcn : c = name
    · subst hcn
      rw [lastIndexOf?_eq_none hnotMem, List.idxOf_cons_self]
      exact if_pos rfl
    · have hmem := (List.mem_cons.1 h).resolve_left (Ne.symm hcn)
      rw [ih hrest hmem, List.idxOf_cons_ne rest hcn]

/-- A row that is made of cells by name has them under these names, whatever stands behind them. -/
theorem cellAt_map_append (h : name ∈ columns) (cell : String → Value) (more : Row) :
    cellAt (columns.map cell ++ more) (columns.idxOf name) = cell name := by
  have hlt : columns.idxOf name < (columns.map cell).length := by
    rw [List.length_map]
    exact List.idxOf_lt_length_of_mem h
  rw [cellAt, List.getElem?_append_left hlt, List.getElem?_map, List.getElem?_idxOf h]
  rfl

/-- Rows are compared by the cells at the positions, so their order is that of rows with the same
cells at positions of their own. -/
theorem rowCompare_congr (descending : Bool) {indices indices' : List Nat} {a b a' b' : Row}
    (h : List.Forall₂ (fun i j => cellAt a i = cellAt a' j ∧ cellAt b i = cellAt b' j)
      indices indices') :
    rowCompare descending indices a b = rowCompare descending indices' a' b' := by
  induction h with
  | nil => rfl
  | cons hcells _ ih => rw [rowCompare, rowCompare, ih, hcells.1, hcells.2]

end Cells

namespace Table

variable {t : Table} {columns names : List String} {f : Row → Row} {row : Row} {name : String}

/-- Expressions look a cell up as stages do: it is the one under the name, if there is one. -/
theorem WellFormed.cellNamed?_eq (ht : t.WellFormed) (hrow : row ∈ t.rows) (name : String) :
    cellNamed? t.columns row name = if name ∈ t.columns then some (t.cell row name) else none := by
  by_cases h : name ∈ t.columns
  · have hlt : t.columns.idxOf name < row.length := by
      rw [ht.length_row hrow]
      exact List.idxOf_lt_length_of_mem h
    rw [cellNamed?, lastIndexOf?_of_mem ht.nodup_columns h, if_pos h, Option.bind_some,
      List.getElem?_eq_getElem hlt, cell, cellAt, List.getElem?_eq_getElem hlt, Option.getD_some]
  · rw [cellNamed?, lastIndexOf?_eq_none h, if_neg h, Option.bind_none]

/-! ### Changes of rows -/

/-- The rows of a table, each changed by itself, under new column names. -/
def mapRows (t : Table) (columns : List String) (f : Row → Row) : Table :=
  ⟨columns, t.rows.map f⟩

/-- The change leaves the cells under the names alone.  A name may also be that of no column, both
before the change and behind it. -/
structure Leaves (t : Table) (columns : List String) (f : Row → Row) (names : List String) :
    Prop where
  mem_iff : ∀ name ∈ names, name ∈ columns ↔ name ∈ t.columns
  cell_eq : ∀ row ∈ t.rows, ∀ name ∈ names,
    (t.mapRows columns f).cell (f row) name = t.cell row name

/-- Where names are looked up in two tables that both have them or both lack them, the look-ups fail
together, and with the same error. -/
theorem columnIndices_mapRows (h : ∀ name ∈ names, name ∈ columns ↔ name ∈ t.columns) :
    (t.mapRows columns f).columnIndices names =
      (t.columnIndices names).map fun _ => names.map columns.idxOf := by
  induction names with
  | nil => rfl
  | cons name rest ih =>
    have hrest := ih fun other hother => h other (List.mem_cons_of_mem name hother)
    rw [columnIndices] at hrest ⊢
    rw [columnIndices, List.mapM_cons, List.mapM_cons, hrest]
    by_cases hname : name ∈ t.columns
    · have hfound : (t.mapRows columns f).requireColumn name = .ok (columns.idxOf name) :=
        requireColumn_eq_ok_iff.2 ⟨(h name List.mem_cons_self).2 hname, rfl⟩
      rw [hfound, requireColumn_eq_ok_iff.2 ⟨hname, rfl⟩, columnIndices]
      cases rest.mapM t.requireColumn <;> rfl
    · have hmissing : name ∉ (t.mapRows columns f).columns := fun hmem =>
        hname ((h name List.mem_cons_self).1 hmem)
      rw [requireColumn, requireColumn, columnIndex?_eq_none_iff.2 hmissing,
        columnIndex?_eq_none_iff.2 hname]
      rfl

theorem Leaves.keyOf_eq (h : t.Leaves columns f names) (hrow : row ∈ t.rows) :
    (t.mapRows columns f).keyOf names (f row) = t.keyOf names row := by
  rw [keyOf, keyOf, List.map_congr_left (h.cell_eq row hrow)]

theorem Leaves.rowCompare_eq (h : t.Leaves columns f names) (descending : Bool) {a b : Row}
    (ha : a ∈ t.rows) (hb : b ∈ t.rows) :
    rowCompare descending (names.map columns.idxOf) (f a) (f b) =
      rowCompare descending (names.map t.columns.idxOf) a b := by
  refine rowCompare_congr descending ?_
  rw [List.forall₂_map_left_iff, List.forall₂_map_right_iff, List.forall₂_same]
  exact fun name hname => ⟨h.cell_eq a ha name hname, h.cell_eq b hb name hname⟩

/-- An expression that names nothing else has the same value, or the same error. -/
theorem Leaves.eval_eq {e : Expr} (ht : t.WellFormed) (hu : (t.mapRows columns f).WellFormed)
    (h : t.Leaves columns f e.mentions) (hrow : row ∈ t.rows) :
    e.eval columns (f row) = e.eval t.columns row := by
  refine Expr.evalIn_congr fun name hname => ?_
  have hrow' : f row ∈ (t.mapRows columns f).rows := List.mem_map_of_mem hrow
  refine (hu.cellNamed?_eq hrow' name).trans ((ht.cellNamed?_eq hrow name).symm ▸ ?_)
  exact if_congr (h.mem_iff name hname) (congrArg some (h.cell_eq row hrow name hname)) rfl

end Table

/-! ### The stages -/

/-- The first elements are the same for two keys that agree on all elements. -/
theorem firstOfEach_congr {α : Type} {key key' : α → String} {l : List α}
    (h : ∀ a ∈ l, key a = key' a) (seen : List String) :
    firstOfEach key seen l = firstOfEach key' seen l := by
  induction l generalizing seen with
  | nil => rfl
  | cons a rest ih =>
    have hrest := ih fun b hb => h b (List.mem_cons_of_mem a hb)
    rw [firstOfEach, firstOfEach, h a List.mem_cons_self, hrest, hrest]

section Stages

variable {t : Table} {method : SortMethod} {columns names : List String} {f : Row → Row}

/-- On changed rows, under other columns, a condition keeps the same rows, changed, as another one
that has the same values on them. -/
theorem keepWhere_map {condition condition' : Expr} {columns' : List String} {rows : List Row}
    (h : ∀ row ∈ rows, condition.eval columns (f row) = condition'.eval columns' row) :
    keepWhere condition columns (rows.map f) =
      (keepWhere condition' columns' rows).map (List.map f) := by
  induction rows with
  | nil => rfl
  | cons row rest ih =>
    have hrest := ih fun other hother => h other (List.mem_cons_of_mem row hother)
    have hrow : conditionHolds condition columns (f row) =
        conditionHolds condition' columns' row := by
      rw [conditionHolds, conditionHolds, h row List.mem_cons_self]
    rw [List.map_cons, keepWhere, keepWhere, hrow, hrest]
    cases conditionHolds condition' columns' row with
    | error e => rfl
    | ok holds =>
      cases keepWhere condition' columns' rest with
      | error e => rfl
      | ok kept => cases holds <;> rfl

theorem filterRows_mapRows {condition : Expr} (ht : t.WellFormed)
    (hu : (t.mapRows columns f).WellFormed) (h : t.Leaves columns f condition.mentions) :
    filterRows condition (t.mapRows columns f) =
      (filterRows condition t).map (·.mapRows columns f) := by
  have hrows := keepWhere_map fun row hrow => Table.Leaves.eval_eq ht hu h hrow
  rw [filterRows, filterRows]
  show keepWhere condition columns (t.rows.map f) >>= _ = _
  rw [hrows]
  cases keepWhere condition t.columns t.rows <;> rfl

/-- A sort of changed rows puts them in the order of the rows, or is given up as that of the rows is,
where the comparisons are the same. -/
theorem sortRows_mapRows_of_ok {descending : Bool} {indices indices' : List Nat}
    (hlookup : (t.mapRows columns f).columnIndices names = .ok indices)
    (h : ∀ a ∈ t.rows, ∀ b ∈ t.rows,
      rowCompare descending indices (f a) (f b) = rowCompare descending indices' a b) :
    sortRows method descending names (t.mapRows columns f) =
      match method.sort (rowCompare descending indices') t.rows with
      | some rows => .ok ⟨columns, rows.map f⟩
      | none => .error .sortGivenUp := by
  rw [sortRows_of_ok hlookup, Table.mapRows, SortMethod.sort_map h]
  cases method.sort (rowCompare descending indices') t.rows <;> rfl

/-- The order that a sort finds, and whether it is given up, depends on the comparisons alone,
whatever they are like. -/
theorem sortRows_mapRows (descending : Bool) (h : t.Leaves columns f names) :
    sortRows method descending names (t.mapRows columns f) =
      (sortRows method descending names t).map (·.mapRows columns f) := by
  have hlookup := Table.columnIndices_mapRows (f := f) h.mem_iff
  cases hindices : t.columnIndices names with
  | error e =>
    rw [hindices] at hlookup
    rw [sortRows, sortRows, hlookup, hindices]
    rfl
  | ok indices =>
    rw [hindices] at hlookup
    obtain ⟨-, rfl⟩ := Table.columnIndices_eq_ok_iff.1 hindices
    rw [sortRows_mapRows_of_ok hlookup fun a ha b hb => h.rowCompare_eq descending ha hb,
      sortRows_of_ok hindices]
    cases method.sort (rowCompare descending (names.map t.columns.idxOf)) t.rows <;> rfl

theorem distinctIndices_of_ne_nil (hne : names ≠ []) (t : Table) :
    distinctIndices names t = t.columnIndices names :=
  if_neg (by simpa using hne)

/-- A column that does not exist leaves no row. -/
theorem distinctRows_of_error (hne : names ≠ []) {e : SchemaError}
    (h : t.columnIndices names = .error e) : distinctRows names t = Table.empty t.columns := by
  rw [distinctRows, distinctIndices_of_ne_nil hne, h]

theorem distinctRows_of_ok (hne : names ≠ []) {indices : List Nat}
    (h : t.columnIndices names = .ok indices) :
    distinctRows names t = ⟨t.columns, firstOfEach (t.keyOf names) [] t.rows⟩ := by
  obtain ⟨-, rfl⟩ := Table.columnIndices_eq_ok_iff.1 h
  rw [distinctRows, distinctIndices_of_ne_nil hne, h]
  show Table.mk _ (firstOfEach (rowKey (names.map t.columns.idxOf)) [] t.rows) = _
  rw [Table.rowKey_map_idxOf]

theorem distinctRows_mapRows (hne : names ≠ []) (h : t.Leaves columns f names) :
    distinctRows names (t.mapRows columns f) = (distinctRows names t).mapRows columns f := by
  have hlookup := Table.columnIndices_mapRows (f := f) h.mem_iff
  cases hindices : t.columnIndices names with
  | error e =>
    rw [hindices] at hlookup
    rw [distinctRows_of_error hne hlookup, distinctRows_of_error hne hindices]
    rfl
  | ok indices =>
    rw [hindices] at hlookup
    rw [distinctRows_of_ok hne hlookup, distinctRows_of_ok hne hindices]
    refine congrArg (Table.mk columns) ?_
    show firstOfEach ((t.mapRows columns f).keyOf names) [] (t.rows.map f) = _
    rw [← map_firstOfEach_map, firstOfEach_congr fun row hrow => h.keyOf_eq hrow]

/-- The first rows are the first ones before a change and behind it. -/
theorem Operation.head_mapRows (method : SortMethod) (n : Nat) (t : Table) (columns : List String)
    (f : Row → Row) : (Operation.head n).apply method (t.mapRows columns f) =
      ((Operation.head n).apply method t).map (·.mapRows columns f) :=
  congrArg (fun rows => Except.ok (Table.mk columns rows)) List.map_take.symm

/-- The last rows are counted from the number of rows, which stays as it is. -/
theorem Operation.tail_mapRows (method : SortMethod) (n : Nat) (t : Table) (columns : List String)
    (f : Row → Row) : (Operation.tail n).apply method (t.mapRows columns f) =
      ((Operation.tail n).apply method t).map (·.mapRows columns f) := by
  refine congrArg (fun rows => Except.ok (Table.mk columns rows)) ?_
  rw [Table.mapRows, List.length_map]
  exact List.map_drop.symm

/-- **A stage that chooses rows** does not see a change of the rows that leaves alone the cells it
looks at: on the changed rows it has the same error, or the same rows, changed. -/
theorem Operation.apply_mapRows (method : SortMethod) {op : Operation} (ht : t.WellFormed)
    (hu : (t.mapRows columns f).WellFormed) (hop : op.ChoosesRowsBy names)
    (h : t.Leaves columns f names) :
    op.apply method (t.mapRows columns f) = (op.apply method t).map (·.mapRows columns f) := by
  cases hop with
  | head n => exact Operation.head_mapRows method n t columns f
  | tail n => exact Operation.tail_mapRows method n t columns f
  | sortAscending => exact sortRows_mapRows false h
  | sortDescending => exact sortRows_mapRows true h
  | filter condition => exact filterRows_mapRows ht hu h
  | distinct named => exact congrArg Except.ok (distinctRows_mapRows named h)

/-- A stage that chooses rows leaves the columns. -/
theorem Operation.ChoosesRowsBy.columns_eq {op : Operation} {t' : Table}
    (hop : op.ChoosesRowsBy names) (h : op.apply method t = .ok t') : t'.columns = t.columns := by
  cases hop with
  | head n | tail n =>
    cases h
    rfl
  | sortAscending | sortDescending =>
    obtain ⟨indices, -, rows, -, rfl⟩ := sortRows_eq_ok_iff.1 h
    rfl
  | filter condition =>
    obtain ⟨kept, -, h⟩ := bind_eq_ok_iff.1 h
    rw [← pure_eq_ok_iff.1 h]
  | distinct named =>
    cases h
    unfold distinctRows
    split <;> rfl

/-- It keeps rows and makes none. -/
theorem Operation.ChoosesRowsBy.subset {op : Operation} {t' : Table}
    (hop : op.ChoosesRowsBy names) (h : op.apply method t = .ok t') : t'.rows ⊆ t.rows := by
  cases hop with
  | head n =>
    cases h
    exact List.take_subset n t.rows
  | tail n =>
    cases h
    exact List.drop_subset _ t.rows
  | sortAscending | sortDescending =>
    obtain ⟨indices, -, rows, hrows, rfl⟩ := sortRows_eq_ok_iff.1 h
    exact (SortMethod.perm_of_sort hrows).subset
  | filter condition =>
    obtain ⟨kept, hkept, h⟩ := bind_eq_ok_iff.1 h
    rw [← pure_eq_ok_iff.1 h]
    exact (sublist_of_keepWhere hkept).subset
  | distinct named =>
    cases h
    unfold distinctRows
    split
    · exact (firstOfEach_sublist _ _ _).subset
    · exact List.nil_subset _

end Stages

end TablePipeline
