import Mathlib.Data.List.Nodup
import TablePipeline.Pipeline.Rows
import TablePipeline.Proofs.Outcome

/-!
# Columns by name and by position

Stages look columns up by name once and then work with positions.  This file goes back: the
positions that a stage finds are the `List.idxOf` of the names, a choice of positions has the names
it was made from, and, where column names are distinct, the positions that `complement` leaves are
those of the names that were not given.

## Main definitions

* `Table.cell` — the cell of a row under a column name
* `Table.Covers` — positions at which every row has a cell

## Main statements

* `Table.columnIndices_eq_ok_iff` — looking names up succeeds exactly on existing names
* `Table.columnNames_complement`, `Table.pick_complement` — the columns that are left, by name
* `foldl_addNew` — the order in which new names are added
-/

namespace TablePipeline

namespace Table

variable {t : Table} {name : String} {names : List String} {i : Nat} {indices : List Nat}
  {row : Row}

/-- The cell of a row under a column name. -/
def cell (t : Table) (row : Row) (name : String) : Value :=
  cellAt row (t.columns.idxOf name)

/-- Every row has a cell at each of the positions. -/
def Covers (t : Table) (indices : List Nat) : Prop :=
  ∀ row ∈ t.rows, ∀ i ∈ indices, i < row.length

/-! ### Looking up -/

theorem columnIndex?_of_mem (h : name ∈ t.columns) :
    t.columnIndex? name = some (t.columns.idxOf name) := by
  obtain ⟨i, hi⟩ := Option.isSome_iff_exists.1 (List.isSome_idxOf?.2 h)
  rw [columnIndex?, List.idxOf_eq_getD_idxOf?, hi, Option.getD_some]

theorem columnIndex?_eq_none_iff : t.columnIndex? name = none ↔ name ∉ t.columns :=
  List.idxOf?_eq_none_iff

/-- The position that is found is the first one of the name. -/
theorem columnIndex?_eq_some_iff :
    t.columnIndex? name = some i ↔ name ∈ t.columns ∧ t.columns.idxOf name = i := by
  by_cases h : name ∈ t.columns
  · rw [columnIndex?_of_mem h, Option.some_inj]
    exact ⟨fun hi => ⟨h, hi⟩, fun hi => hi.2⟩
  · rw [columnIndex?_eq_none_iff.2 h]
    constructor
    · intro hi
      cases hi
    · intro hi
      exact absurd hi.1 h

theorem lt_of_columnIndex? (h : t.columnIndex? name = some i) : i < t.columns.length := by
  obtain ⟨hmem, rfl⟩ := columnIndex?_eq_some_iff.1 h
  exact List.idxOf_lt_length_of_mem hmem

theorem requireColumn_eq_ok_iff :
    t.requireColumn name = .ok i ↔ name ∈ t.columns ∧ t.columns.idxOf name = i := by
  rw [← columnIndex?_eq_some_iff, requireColumn]
  cases t.columnIndex? name with
  | none => simp
  | some j => simp

/-- Looking names up succeeds exactly when all of them exist, and finds the first position of
each. -/
theorem columnIndices_eq_ok_iff :
    t.columnIndices names = .ok indices ↔
      (∀ name ∈ names, name ∈ t.columns) ∧ names.map t.columns.idxOf = indices := by
  rw [columnIndices, mapM_eq_ok_iff]
  simp only [requireColumn_eq_ok_iff, List.forall₂_and_left]
  rw [← List.forall₂_map_left_iff (f := t.columns.idxOf) (R := Eq), List.forall₂_eq_eq_eq]

theorem columnIndices_of_forall_mem (h : ∀ name ∈ names, name ∈ t.columns) :
    t.columnIndices names = .ok (names.map t.columns.idxOf) :=
  columnIndices_eq_ok_iff.2 ⟨h, rfl⟩

/-! ### From positions back to names -/

theorem columnNames_map_idxOf (h : ∀ name ∈ names, name ∈ t.columns) :
    t.columnNames (names.map t.columns.idxOf) = names := by
  rw [columnNames, List.map_map]
  refine (List.map_congr_left fun name hname => ?_).trans (List.map_id names)
  rw [Function.comp_apply, List.getElem?_idxOf (h name hname), Option.getD_some, id]

theorem pick_map_idxOf (names : List String) (row : Row) :
    pick (names.map t.columns.idxOf) row = names.map (t.cell row) := by
  rw [pick, List.map_map]
  rfl

/-- Where names are distinct, a position is the one of its name. -/
theorem idxOf_getElem?_getD (hc : t.columns.Nodup) (h : i < t.columns.length) :
    t.columns.idxOf (t.columns[i]?.getD "") = i := by
  rw [List.getElem?_eq_getElem h, Option.getD_some]
  exact hc.idxOf_getElem i h

/-- Where names are distinct, the cells at existing positions are the cells under their names. -/
theorem pick_eq_map_cell (hc : t.columns.Nodup) (h : ∀ i ∈ indices, i < t.columns.length)
    (row : Row) : pick indices row = (t.columnNames indices).map (t.cell row) := by
  rw [pick, columnNames, List.map_map]
  refine List.map_congr_left fun i hi => ?_
  rw [Function.comp_apply, cell, idxOf_getElem?_getD hc (h i hi)]

/-- The names at all positions in turn are the columns. -/
theorem columnNames_range (t : Table) :
    t.columnNames (List.range t.columns.length) = t.columns := by
  refine List.ext_getElem (by simp [columnNames]) fun i hi _ => ?_
  simp only [columnNames, List.getElem_map, List.getElem_range]
  rw [List.getElem?_eq_getElem, Option.getD_some]

/-- The names at the positions that are left are the names that were not given. -/
theorem columnNames_complement (hc : t.columns.Nodup) (h : ∀ name ∈ names, name ∈ t.columns) :
    t.columnNames (complement t.columns.length (names.map t.columns.idxOf)) =
      t.columns.filter (· ∉ names) := by
  -- the names stand at all positions in turn, so that leaving names out is leaving positions out
  conv_rhs => rw [← t.columnNames_range, columnNames, List.filter_map]
  rw [columnNames, complement]
  refine congrArg (List.map _) (List.filter_congr fun i hi => ?_)
  have hi := List.mem_range.1 hi
  rw [Function.comp_apply, decide_eq_decide, not_iff_not, List.mem_map]
  constructor
  · rintro ⟨name, hname, rfl⟩
    rwa [List.getElem?_idxOf (h name hname), Option.getD_some]
  · intro hname
    exact ⟨_, hname, idxOf_getElem?_getD hc hi⟩

/-- The cells that are left are those under the names that were not given. -/
theorem pick_complement (hc : t.columns.Nodup) (h : ∀ name ∈ names, name ∈ t.columns)
    (row : Row) :
    pick (complement t.columns.length (names.map t.columns.idxOf)) row =
      (t.columns.filter (· ∉ names)).map (t.cell row) := by
  rw [pick_eq_map_cell hc (fun i hi => (mem_complement.1 hi).1), columnNames_complement hc h]

end Table

/-! ### Rows by name, and new names -/

/-- A row is made up of its cells by name. -/
theorem map_cellAt_idxOf {columns : List String} {row : Row} (hc : columns.Nodup)
    (h : row.length = columns.length) :
    columns.map (fun name => cellAt row (columns.idxOf name)) = row := by
  refine List.ext_getElem (by rw [List.length_map, h]) fun i hi hi' => ?_
  rw [List.getElem_map, hc.idxOf_getElem, cellAt, List.getElem?_eq_getElem hi', Option.getD_some]

/-- Names are put behind others one after the other, each unless it is already there: then the new
ones stand there in the order in which they first occur. -/
theorem foldl_addNew (names added : List String) :
    added.foldl (fun names name => if name ∈ names then names else names ++ [name]) names =
      names ++ (added.filter (· ∉ names)).eraseDups := by
  induction added generalizing names with
  | nil => exact (List.append_nil names).symm
  | cons name added ih =>
    rw [List.foldl_cons, ih]
    by_cases h : name ∈ names
    · rw [if_pos h, List.filter_cons_of_neg (by simpa using h)]
    · rw [if_neg h, List.filter_cons_of_pos (by simpa using h), List.eraseDups_cons,
        List.filter_filter, List.append_assoc, List.singleton_append]
      refine congrArg (fun new : List String => names ++ name :: new.eraseDups) ?_
      refine List.filter_congr fun other _ => ?_
      rw [Bool.eq_iff_iff]
      simp [not_or, and_comm]

end TablePipeline
