import Mathlib.Data.List.Induction
import Mathlib.Data.List.Nodup
import TablePipeline.Pipeline.Group

/-!
# Grouping row by row

`group` goes through the rows once, with a table of places and a list of groups that grows as new
keys come up.  After every row the two fit together (`Groups.Agrees`): the groups are those of the
first rows of each key, in this order, the place of a key is that of its first row, and the nested
table of a group has the rows with its key.  A step has two halves, and so has the step lemma:
entering a group leaves the rows that are counted as they are, and the row is counted afterwards.

## Main definitions

* `groupTable` — the nested table of a key
* `Groups.Agrees` — places and groups fit the rows so far

## Main statements

* `Groups.Agrees.enter`, `Groups.Agrees.add` — one row
* `Groups.agrees_foldl` — all rows
* `groupRows_eq_map` — the rows of the stage
-/

namespace TablePipeline

/-- What is left of a row stands at the positions that are not given. -/
theorem dropCells_eq_pick (indices : List Nat) (row : Row) :
    dropCells indices row = pick (complement row.length indices) row := by
  -- a cell with its position is the cell at that position
  have hzip : row.zipIdx = (List.range row.length).map fun i => (cellAt row i, i) := by
    refine List.ext_getElem (by simp) fun i hi _ => ?_
    rw [List.getElem_zipIdx, List.getElem_map, List.getElem_range, cellAt, Nat.zero_add]
    rw [List.length_zipIdx] at hi
    rw [List.getElem?_eq_getElem hi, Option.getD_some]
  rw [dropCells, hzip, List.filter_map, List.map_map]
  rfl

/-! ### First rows of keys -/

section FirstOfEach

variable {α β : Type} {key : α → String} {l : List α}

/-- One more element is kept when its key is new. -/
theorem firstOfEach_append_singleton (key : α → String) (seen : List String) (l : List α) (a : α) :
    firstOfEach key seen (l ++ [a]) =
      firstOfEach key seen l ++ if key a ∈ seen ∨ key a ∈ l.map key then [] else [a] := by
  fun_induction firstOfEach key seen l with
  | case1 seen =>
    by_cases ha : key a ∈ seen
    · simp [firstOfEach, ha]
    · simp [firstOfEach, ha]
  | case2 seen b rest hb ih =>
    rw [List.cons_append, firstOfEach, if_pos hb, ih]
    by_cases ha : key a = key b
    · simp [ha, hb]
    · simp [ha]
  | case3 seen b rest hb ih =>
    rw [List.cons_append, firstOfEach, if_neg hb, ih, List.cons_append]
    refine congrArg (fun rest' => b :: (_ ++ rest')) (if_congr ?_ rfl rfl)
    rw [List.mem_cons, List.map_cons, List.mem_cons]
    tauto

/-- Every key that occurs is that of an element that is kept. -/
theorem mem_map_firstOfEach {k : String} (key : α → String) (seen : List String) (l : List α) :
    k ∈ (firstOfEach key seen l).map key ↔ k ∈ l.map key ∧ k ∉ seen := by
  fun_induction firstOfEach key seen l with
  | case1 => simp
  | case2 seen a rest ha ih =>
    rw [ih, List.map_cons, List.mem_cons]
    constructor
    · rintro ⟨hmem, hseen⟩
      exact ⟨Or.inr hmem, hseen⟩
    · rintro ⟨rfl | hmem, hseen⟩
      · exact absurd ha hseen
      · exact ⟨hmem, hseen⟩
  | case3 seen a rest ha ih =>
    rw [List.map_cons, List.mem_cons, ih, List.map_cons, List.mem_cons, List.mem_cons]
    constructor
    · rintro (rfl | ⟨hmem, hseen⟩)
      · exact ⟨Or.inl rfl, ha⟩
      · exact ⟨Or.inr hmem, fun h => hseen (Or.inr h)⟩
    · rintro ⟨rfl | hmem, hseen⟩
      · exact Or.inl rfl
      · by_cases hk : k = key a
        · exact Or.inl hk
        · exact Or.inr ⟨hmem, fun h => h.elim hk hseen⟩

theorem idxOf?_append_singleton (l : List String) (a k : String) :
    (l ++ [a]).idxOf? k = (l.idxOf? k).or (if a = k then some l.length else none) := by
  rw [List.idxOf?, List.findIdx?_append, List.findIdx?_singleton]
  by_cases h : a = k <;> simp [h]

/-- At the place of a key a change reaches the element with this key and no other. -/
theorem modify_map_idxOf {k : String} {i : Nat} {f : α → β} {g : β → β} (hl : (l.map key).Nodup)
    (hi : (l.map key).idxOf? k = some i) :
    (l.map f).modify i g = l.map fun a => if key a = k then g (f a) else f a := by
  obtain ⟨hlt, hk, -⟩ := List.idxOf?_eq_some_iff.1 hi
  refine List.ext_getElem (by simp) fun j hj hj' => ?_
  rw [List.getElem_modify, List.getElem_map, List.getElem_map]
  -- the keys are distinct, so this is the only place where the key stands
  refine if_congr ?_ rfl rfl
  have hlt' : j < (l.map key).length := by simpa using hj'
  have hinj : (l.map key)[i] = (l.map key)[j] ↔ i = j := hl.getElem_inj_iff
  rw [hk, List.getElem_map, eq_comm] at hinj
  exact hinj.symm

end FirstOfEach

/-! ### Places and groups -/

variable {indices : List Nat} {columns : List String} {rows firsts : List Row} {g : Groups}

/-- The nested table of a key: what is left of the rows with this key. -/
def groupTable (indices : List Nat) (columns : List String) (rows : List Row) (key : String) :
    Table :=
  ⟨columns, (rows.filter fun row => rowKey indices row == key).map (dropCells indices)⟩

/-- One more row goes to the end of the table of its key and changes no other. -/
theorem groupTable_append_singleton (row : Row) (key : String) :
    groupTable indices columns (rows ++ [row]) key =
      if rowKey indices row = key then
        ⟨columns, (groupTable indices columns rows key).rows ++ [dropCells indices row]⟩
      else groupTable indices columns rows key := by
  rw [groupTable, List.filter_append, List.map_append]
  by_cases h : rowKey indices row = key
  · rw [if_pos h, List.filter_cons_of_pos (by simpa using h)]
    rfl
  · rw [if_neg h, List.filter_cons_of_neg (by simpa using h), List.filter_nil, List.map_nil,
      List.append_nil]
    rfl

namespace Groups

/-- The groups are those of the given first rows, with the tables of the rows so far, and each key
has its place. -/
structure Agrees (indices : List Nat) (columns : List String) (firsts rows : List Row)
    (g : Groups) : Prop where
  lookup : ∀ key, g.places.lookup key = (firsts.map (rowKey indices)).idxOf? key
  groups : g.groups = firsts.map fun row =>
    (pick indices row, groupTable indices columns rows (rowKey indices row))

theorem agrees_empty : Agrees indices columns [] [] empty :=
  ⟨fun _ => rfl, rfl⟩

section Enter

variable {row : Row} {place : Nat}

theorem enter_of_lookup_eq_some (h : g.places.lookup (rowKey indices row) = some place) :
    g.enter columns (pick indices row) = (g, place) := by
  rw [rowKey] at h
  rw [enter, h]

theorem enter_of_lookup_eq_none (h : g.places.lookup (rowKey indices row) = none) :
    g.enter columns (pick indices row) =
      (⟨(rowKey indices row, g.groups.length) :: g.places,
        g.groups ++ [(pick indices row, Table.empty columns)]⟩, g.groups.length) := by
  rw [rowKey] at h
  rw [enter, h]
  rfl

end Enter

/-- A new key opens a group behind all others, which has no rows yet. -/
theorem Agrees.opened (h : g.Agrees indices columns firsts rows) {row : Row}
    (hfirsts : rowKey indices row ∉ firsts.map (rowKey indices))
    (hrows : rowKey indices row ∉ rows.map (rowKey indices)) :
    Agrees indices columns (firsts ++ [row]) rows
      ⟨(rowKey indices row, g.groups.length) :: g.places,
        g.groups ++ [(pick indices row, Table.empty columns)]⟩ := by
  constructor
  · intro key
    rw [List.map_append, List.map_singleton, idxOf?_append_singleton, List.length_map]
    by_cases hkey : key = rowKey indices row
    · rw [hkey, List.lookup_cons_self, List.idxOf?_eq_none_iff.2 hfirsts, if_pos rfl, h.groups,
        List.length_map]
      rfl
    · rw [List.lookup_cons, beq_eq_false_iff_ne.2 hkey, h.lookup, if_neg (Ne.symm hkey),
        Option.or_none]
  · have hnone : groupTable indices columns rows (rowKey indices row) = Table.empty columns := by
      rw [groupTable, List.filter_eq_nil_iff.2]
      · rfl
      · intro r hr heq
        exact hrows (List.mem_map.2 ⟨r, hr, beq_iff_eq.1 heq⟩)
    rw [List.map_append, ← h.groups, List.map_singleton, hnone]

/-- Entering finds the place of the key among those of the rows, the new one counted. -/
theorem Agrees.enter (h : g.Agrees indices columns (firstOfEach (rowKey indices) [] rows) rows)
    (row : Row) :
    (g.enter columns (pick indices row)).1.Agrees indices columns
        (firstOfEach (rowKey indices) [] (rows ++ [row])) rows ∧
      ((firstOfEach (rowKey indices) [] (rows ++ [row])).map (rowKey indices)).idxOf?
        (rowKey indices row) = some (g.enter columns (pick indices row)).2 := by
  have hlookup := h.lookup (rowKey indices row)
  have hmem := mem_map_firstOfEach (k := rowKey indices row) (rowKey indices) [] rows
  rw [firstOfEach_append_singleton]
  cases hplace : g.places.lookup (rowKey indices row) with
  | some place =>
    -- the key has a place, so its first row is an earlier one and no group is opened
    have hold : rowKey indices row ∈ rows.map (rowKey indices) := by
      refine (hmem.1 ?_).1
      rw [← List.isSome_idxOf?, ← hlookup, hplace]
      rfl
    rw [enter_of_lookup_eq_some hplace, if_pos (Or.inr hold), List.append_nil]
    exact ⟨h, hlookup.symm.trans hplace⟩
  | none =>
    -- the key has no place, so no earlier row has it and this row is its first
    have hfirsts := List.idxOf?_eq_none_iff.1 (hlookup.symm.trans hplace)
    have hnew : rowKey indices row ∉ rows.map (rowKey indices) := fun hrow =>
      hfirsts (hmem.2 ⟨hrow, List.not_mem_nil⟩)
    have hopened := h.opened hfirsts hnew
    rw [enter_of_lookup_eq_none hplace, if_neg (by simpa using hnew)]
    refine ⟨hopened, ?_⟩
    rw [← hopened.lookup, List.lookup_cons_self]

/-- Putting a row into a group counts it. -/
theorem Agrees.add (h : g.Agrees indices columns (firstOfEach (rowKey indices) [] rows) rows)
    (row : Row) :
    (g.add indices columns row).Agrees indices columns
      (firstOfEach (rowKey indices) [] (rows ++ [row])) (rows ++ [row]) := by
  obtain ⟨hentered, hplace⟩ := h.enter row
  refine ⟨hentered.lookup, ?_⟩
  show (g.enter columns (pick indices row)).1.groups.modify
    (g.enter columns (pick indices row)).2 _ = _
  rw [hentered.groups, modify_map_idxOf (nodup_map_firstOfEach _ _ _) hplace]
  refine List.map_congr_left fun r _ => ?_
  rw [groupTable_append_singleton]
  by_cases hr : rowKey indices r = rowKey indices row
  · rw [if_pos hr, if_pos hr.symm]
    rfl
  · rw [if_neg hr, if_neg (Ne.symm hr)]

/-- After all rows the groups are those of the rows. -/
theorem agrees_foldl (indices : List Nat) (columns : List String) (rows : List Row) :
    (rows.foldl (add indices columns) empty).Agrees indices columns
      (firstOfEach (rowKey indices) [] rows) rows := by
  -- on the last row, which is the one that has just been put into a group
  induction rows using List.reverseRecOn with
  | nil => exact agrees_empty
  | append_singleton rows row ih =>
    rw [List.foldl_append]
    exact ih.add row

end Groups

/-- The rows that `group` makes: one for the first row of each key. -/
theorem groupRows_eq_map (indices : List Nat) (t : Table) :
    groupRows indices t = (firstOfEach (rowKey indices) [] t.rows).map fun row =>
      pick indices row ++ [.nested (groupTable indices
        (t.columnNames (complement t.columns.length indices)) t.rows (rowKey indices row))] := by
  rw [groupRows, (Groups.agrees_foldl _ _ _).groups, List.map_map]
  rfl

end TablePipeline
