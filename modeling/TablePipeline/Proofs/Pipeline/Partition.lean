import TablePipeline.Pipeline.Group
import TablePipeline.Proofs.Expr.Mentions
import TablePipeline.Proofs.Pipeline.WellFormed

/-!
# Groups partition the rows

`group` works with positions: it looks the key columns up and takes each row apart by the positions
it found, for its key and for what is left of it.  Here its result is said by name, without any
position.  There is one row for each key, the keys follow each other as they first occur, and the
nested table of a key holds the rows with that key, in their order, under all other names.

Nothing is lost or doubled: put together, the nested tables are a rearrangement of the rows.  Hence
an expression that names no key column has the same value over a nested table as over the rows of
the input with that key (`Table.aggregate_groupOf`).

## Main definitions

* `Table.keyOf`, `Table.without` — the key of a row and what is left of it, by name
* `Table.rowsOf`, `Table.groupOf` — the rows with a key, and the nested table they make
* `Table.keys` — the keys in the order in which they first occur
* `Table.IsGroup` — what the row of a key looks like

## Main statements

* `groupRows_eq` — the stage in terms of names
* `perm_flatMap_filter` — the rows of all keys are a rearrangement of the rows
* `groupColumns_partitions` — the whole description
-/

namespace TablePipeline

/-! ### First rows of keys -/

section FirstOfEach

variable {α : Type} {key : α → String} {l : List α} {keys : List String}

/-- The first elements stand in the order in which their keys first occur. -/
theorem map_firstOfEach (key : α → String) (seen : List String) (l : List α) :
    (firstOfEach key seen l).map key = ((l.map key).filter (· ∉ seen)).eraseDups := by
  fun_induction firstOfEach key seen l with
  | case1 => rfl
  | case2 seen a rest hseen ih =>
    rw [ih, List.map_cons, List.filter_cons_of_neg (by simpa using hseen)]
  | case3 seen a rest hseen ih =>
    rw [List.map_cons, ih, List.map_cons, List.filter_cons_of_pos (by simpa using hseen),
      List.eraseDups_cons, List.filter_filter]
    refine congrArg (fun ks => key a :: List.eraseDups ks) (List.filter_congr fun k _ => ?_)
    by_cases hk : k = key a <;> simp [hk]

/-- An element that is kept is the first one with its key. -/
theorem find?_of_mem_firstOfEach {seen : List String} {a : α}
    (h : a ∈ firstOfEach key seen l) : l.find? (fun b => key b == key a) = some a := by
  fun_induction firstOfEach key seen l with
  | case1 => cases h
  | case2 seen b rest hb ih =>
    have hne : key b ≠ key a := fun heq => key_notMem_of_mem_firstOfEach h (heq ▸ hb)
    rw [List.find?_cons_of_neg (by simpa using hne)]
    exact ih h
  | case3 seen b rest hb ih =>
    rcases List.mem_cons.1 h with rfl | h
    · exact List.find?_cons_of_pos (by simp)
    · have hne : key b ≠ key a := fun heq =>
        key_notMem_of_mem_firstOfEach h (heq ▸ List.mem_cons_self)
      rw [List.find?_cons_of_neg (by simpa using hne)]
      exact ih h

/-- **Nothing is lost or doubled**: put together, the elements of each key are a rearrangement of
all elements, whatever the order of the keys. -/
theorem perm_flatMap_filter (hkeys : keys.Nodup) (hcover : ∀ a ∈ l, key a ∈ keys) :
    (keys.flatMap fun k => l.filter fun a => key a == k).Perm l := by
  induction keys generalizing l with
  | nil =>
    have hl : l = [] := List.eq_nil_iff_forall_not_mem.2 fun a ha => by
      cases hcover a ha
    rw [hl]
    exact List.Perm.nil
  | cons k keys ih =>
    obtain ⟨hk, hkeys⟩ := List.nodup_cons.1 hkeys
    -- the elements of all other keys are among those that the first key leaves
    have hrest : ∀ k' ∈ keys, (l.filter fun a => key a == k') =
        (l.filter fun a => !(key a == k)).filter fun a => key a == k' := by
      intro k' hk'
      have hne : k' ≠ k := fun heq => hk (heq ▸ hk')
      rw [List.filter_filter]
      refine List.filter_congr fun a _ => ?_
      by_cases ha : key a = k'
      · simp [ha, hne]
      · simp [ha]
    have hleft : ∀ a ∈ l.filter (fun a => !(key a == k)), key a ∈ keys := by
      intro a ha
      obtain ⟨ha, hne⟩ := List.mem_filter.1 ha
      exact (List.mem_cons.1 (hcover a ha)).resolve_left (by simpa using hne)
    rw [List.flatMap_cons, List.flatMap_congr hrest]
    exact ((ih hkeys hleft).append_left _).trans (List.filter_append_perm _ _)

end FirstOfEach

/-! ### Groups by name -/

namespace Table

variable {t : Table} {names : List String} {nested key : String}

/-- The key of a row: the texts of its cells under the names. -/
def keyOf (t : Table) (names : List String) (row : Row) : String :=
  compositeKey (names.map (t.cell row))

/-- The cells of a row under all other names. -/
def without (t : Table) (names : List String) (row : Row) : Row :=
  (t.columns.filter (· ∉ names)).map (t.cell row)

/-- The keys, in the order in which they first occur. -/
def keys (t : Table) (names : List String) : List String :=
  (t.rows.map (t.keyOf names)).eraseDups

/-- The rows with a key, in their order and with all their cells. -/
def rowsOf (t : Table) (names : List String) (key : String) : Table :=
  ⟨t.columns, t.rows.filter fun row => t.keyOf names row == key⟩

/-- The rows with a key, in their order and without the cells of the key. -/
def groupOf (t : Table) (names : List String) (key : String) : Table :=
  ⟨t.columns.filter (· ∉ names), (t.rowsOf names key).rows.map (t.without names)⟩

/-- A row is that of a key: it holds the cells of the first row with the key, and the group. -/
def IsGroup (t : Table) (names : List String) (key : String) (out : Row) : Prop :=
  ∃ first, t.rows.find? (fun row => t.keyOf names row == key) = some first ∧
    out = names.map (t.cell first) ++ [.nested (t.groupOf names key)]

theorem mem_keys : key ∈ t.keys names ↔ ∃ row ∈ t.rows, t.keyOf names row = key := by
  rw [keys, List.mem_eraseDups, List.mem_map]

theorem rowKey_map_idxOf (names : List String) :
    rowKey (names.map t.columns.idxOf) = t.keyOf names := by
  funext row
  rw [rowKey, pick_map_idxOf]
  rfl

theorem nodup_keys (t : Table) (names : List String) : (t.keys names).Nodup := by
  have hkeys := nodup_map_firstOfEach (t.keyOf names) [] t.rows
  rw [map_firstOfEach] at hkeys
  simpa [keys] using hkeys

/-- The rows with a key, without the columns of the key, are the group of the key. -/
theorem project_complement_eq_groupOf (hc : t.columns.Nodup)
    (h : ∀ name ∈ names, name ∈ t.columns) (key : String) :
    (t.rowsOf names key).project (complement t.columns.length (names.map t.columns.idxOf)) =
      t.groupOf names key := by
  refine congrArg₂ Table.mk (columnNames_complement hc h) ?_
  refine List.map_congr_left fun row _ => ?_
  exact pick_complement hc h row

/-- Every key that occurs has a row, so that no group is empty. -/
theorem groupOf_rows_ne_nil (h : key ∈ t.keys names) : (t.groupOf names key).rows ≠ [] := by
  obtain ⟨row, hrow, hkey⟩ := mem_keys.1 h
  have hmem : row ∈ (t.rowsOf names key).rows :=
    List.mem_filter.2 ⟨hrow, by rw [hkey, beq_self_eq_true]⟩
  exact List.ne_nil_of_mem (List.mem_map_of_mem hmem)

/-- The rows of all groups are a rearrangement of what is left of the rows. -/
theorem perm_flatMap_groupOf (t : Table) (names : List String) :
    ((t.keys names).flatMap fun key => (t.groupOf names key).rows).Perm
      (t.rows.map (t.without names)) := by
  have hperm := perm_flatMap_filter (nodup_keys t names)
    fun row hrow => mem_keys.2 ⟨row, hrow, rfl⟩
  have hmap := hperm.map (t.without names)
  rwa [List.map_flatMap] at hmap

/-- The values of a column that is no key column are the same in the group and in the rows it was
made of. -/
theorem valuesOf?_groupOf {name : String} (hname : name ∉ names) (key : String) :
    (t.groupOf names key).valuesOf? name = (t.rowsOf names key).valuesOf? name := by
  rw [valuesOf?, valuesOf?]
  by_cases hmem : name ∈ t.columns
  -- the column may stand somewhere else now, and so do the cells under its name
  · have hleft : name ∈ t.columns.filter (· ∉ names) :=
      List.mem_filter.2 ⟨hmem, decide_eq_true hname⟩
    rw [columnIndex?_of_mem (t := t.groupOf names key) hleft,
      columnIndex?_of_mem (t := t.rowsOf names key) hmem, Option.map_some, Option.map_some]
    refine congrArg some ?_
    rw [column, column, groupOf, List.map_map]
    refine List.map_congr_left fun row _ => ?_
    rw [Function.comp_apply, cellAt, without, List.getElem?_map, List.getElem?_idxOf hleft]
    rfl
  · have hleft : name ∉ (t.groupOf names key).columns := fun h => hmem (List.mem_filter.1 h).1
    have hrows : name ∉ (t.rowsOf names key).columns := hmem
    rw [columnIndex?_eq_none_iff.2 hleft, columnIndex?_eq_none_iff.2 hrows]
    rfl

/-- An expression that names no key column cannot tell a group from the rows it was made of. -/
theorem aggregate_groupOf {e : Expr} (h : ∀ name ∈ e.mentions, name ∉ names) (key : String) :
    e.aggregate (t.groupOf names key) = e.aggregate (t.rowsOf names key) := by
  refine Expr.aggregate_congr (List.length_map _) fun name hname => ?_
  exact valuesOf?_groupOf (h name hname) key

end Table

/-! ### The stage -/

section Stage

variable {t : Table} {names : List String} {nested : String}

/-- The rows that `group` makes, in terms of names. -/
theorem groupRows_eq (ht : t.WellFormed) (h : ∀ name ∈ names, name ∈ t.columns) :
    groupRows (names.map t.columns.idxOf) t =
      (firstOfEach (t.keyOf names) [] t.rows).map fun row =>
        names.map (t.cell row) ++ [.nested (t.groupOf names (t.keyOf names row))] := by
  rw [groupRows_eq_map, Table.rowKey_map_idxOf]
  refine List.map_congr_left fun row _ => ?_
  have hgroup := Table.project_complement_eq_groupOf ht.nodup_columns h (t.keyOf names row)
  rw [Table.pick_map_idxOf, groupTable_eq_project ht, Table.rowKey_map_idxOf, ← hgroup]
  rfl

/-- There is one row for each key, in the order of the keys. -/
theorem forall₂_isGroup (ht : t.WellFormed) (h : ∀ name ∈ names, name ∈ t.columns) :
    List.Forall₂ (t.IsGroup names) (t.keys names)
      (groupRows (names.map t.columns.idxOf) t) := by
  have hkeys : t.keys names = (firstOfEach (t.keyOf names) [] t.rows).map (t.keyOf names) := by
    rw [map_firstOfEach, Table.keys]
    simp
  rw [groupRows_eq ht h, hkeys, List.forall₂_map_left_iff, List.forall₂_map_right_iff,
    List.forall₂_same]
  intro row hrow
  exact ⟨row, find?_of_mem_firstOfEach hrow, rfl⟩

/-- The stage succeeds on existing columns under distinct names. -/
theorem groupColumns_eq_ok (h : ∀ name ∈ names, name ∈ t.columns) (hnames : names.Nodup)
    (hnested : nested ∉ names) :
    groupColumns names nested t =
      .ok ⟨names ++ [nested], groupRows (names.map t.columns.idxOf) t⟩ := by
  have hdistinct : (names ++ [nested]).Nodup := by
    rw [List.nodup_append]
    refine ⟨hnames, List.nodup_singleton _, fun name hname other hother heq => ?_⟩
    rw [List.mem_singleton.1 hother] at heq
    exact hnested (heq ▸ hname)
  rw [groupColumns, ofSchema_eq_ok_iff]
  refine bind_eq_ok_iff.2 ⟨_, Table.columnIndices_of_forall_mem h, ?_⟩
  exact bind_eq_ok_iff.2 ⟨(), checkDistinct_eq_ok_iff.2 hdistinct, rfl⟩

/-- **Groups partition the rows.**  On existing columns under distinct names `group` succeeds with
one row for each key, in the order in which the keys first occur: the key cells of the first row
with the key, and a table of all rows with the key, in their order, under the other names.  No such
table is empty, together they are a rearrangement of the rows, and an expression that names no key
column has the same value, or the same error, over such a table as over the rows it was made of. -/
theorem groupColumns_partitions (ht : t.WellFormed) (hnames : names.Nodup)
    (h : ∀ name ∈ names, name ∈ t.columns) (hnested : nested ∉ names) :
    (∃ rows, groupColumns names nested t = .ok ⟨names ++ [nested], rows⟩ ∧
      List.Forall₂ (t.IsGroup names) (t.keys names) rows) ∧
    (∀ key ∈ t.keys names, (t.groupOf names key).rows ≠ []) ∧
    ((t.keys names).flatMap fun key => (t.groupOf names key).rows).Perm
      (t.rows.map (t.without names)) ∧
    ∀ (e : Expr), (∀ name ∈ e.mentions, name ∉ names) → ∀ key ∈ t.keys names,
      e.aggregate (t.groupOf names key) = e.aggregate (t.rowsOf names key) := by
  refine ⟨⟨_, groupColumns_eq_ok h hnames hnested, forall₂_isGroup ht h⟩, ?_, ?_, ?_⟩
  · intro key hkey
    exact Table.groupOf_rows_ne_nil hkey
  · exact Table.perm_flatMap_groupOf t names
  · intro e he key _
    exact Table.aggregate_groupOf he key

/-- Keys that take turns: the groups are those of `x` and `y`, and the sum over the group of `x` is
that of the first and the third row. -/
theorem groupColumns_partitions_interleaved :
    let t : Table := ⟨["n", "city"], [[.integer 1, .string "x"], [.integer 2, .string "y"],
      [.integer 3, .string "x"]]⟩
    t.WellFormed ∧ t.keys ["city"] = ["x", "y"] ∧
      (∃ rows, groupColumns ["city"] "rest" t = .ok ⟨["city", "rest"], rows⟩ ∧
        List.Forall₂ (t.IsGroup ["city"]) ["x", "y"] rows) ∧
      t.groupOf ["city"] "x" = ⟨["n"], [[.integer 1], [.integer 3]]⟩ ∧
      (Expr.call "sum" [.column "n"]).aggregate (t.groupOf ["city"] "x") = .ok (.integer 4) := by
  intro t
  have ht : t.WellFormed := by
    rw [Table.wellFormed_iff]
    simp [t, Value.WellFormed]
  have hgroups := @groupColumns_partitions t ["city"] "rest" ht (by decide) (by decide)
    (by decide)
  refine ⟨ht, by decide, hgroups.1, by rfl, ?_⟩
  rw [hgroups.2.2.2 _ (by decide) "x" (by decide)]
  rfl

end Stage

end TablePipeline
