import Mathlib.Data.List.NodupEquivFin
import Mathlib.Data.List.Perm.Basic
import TablePipeline.Proofs.Pipeline.WellFormed

/-!
# Renaming and the order of columns

`rename` goes through its pairs one after the other, and each pair renames the first column of its
old name.  The names only have to be distinct when all pairs are done, so that in between several
columns may have one name.  A pair that looks for such a name takes the column that stands first:
then it depends on the order of the columns which of them gets the new name.

Everything else is independent of that order.  Whether a pair finds its name, and which names there
are afterwards, depends on the names as a collection (`RenamePair.step_perm`), hence so does the
success of the whole.  A column that never shares its name with another one when a pair looks for it
goes through the same names wherever it stands (`Undisputed.getElem?_eq`).  Any other column may end
under two names: the first column of a table wins whatever is disputed, the last one loses it, and
the two never come together again (`names_part`).

## Main definitions

* `RenamePair.step` — the names after one pair
* `Undisputed` — a column does not share its name with another one when a pair looks for it

## Main statements

* `exists_renameAll_of_perm` — success does not depend on the order of the columns
* `renameColumns_reordered` — nor does the name of a column, exactly if it is undisputed
-/

namespace TablePipeline

/-- The names after the first column of the old name has been renamed. -/
def RenamePair.step (pair : RenamePair) (columns : List String) : List String :=
  columns.set (columns.idxOf pair.old) pair.new

/-- Whenever a pair looks for the name that the column at the given position has by then, no other
column has this name. -/
def Undisputed : List RenamePair → List String → Nat → Prop
  | [], _, _ => True
  | pair :: rest, columns, i =>
    (columns[i]? = some pair.old → columns.count pair.old = 1) ∧
      Undisputed rest (pair.step columns) i

instance decidableUndisputed :
    ∀ (pairs : List RenamePair) (columns : List String) (i : Nat),
      Decidable (Undisputed pairs columns i)
  | [], _, _ => inferInstanceAs (Decidable True)
  | pair :: rest, columns, i =>
    have := decidableUndisputed rest (pair.step columns) i
    inferInstanceAs (Decidable ((_ → _) ∧ _))

section Names

variable {pair : RenamePair} {pairs : List RenamePair} {columns columns' names names' : List String}
  {name : String} {i j : Nat}

theorem renameAll_cons_eq_ok_iff :
    renameAll (pair :: pairs) columns = .ok names ↔
      pair.old ∈ columns ∧ renameAll pairs (pair.step columns) = .ok names := by
  rw [renameAll, RenamePair.step]
  by_cases h : pair.old ∈ columns
  · obtain ⟨k, hk⟩ := Option.isSome_iff_exists.1 (List.isSome_idxOf?.2 h)
    rw [hk, List.idxOf_eq_getD_idxOf?, hk, Option.getD_some]
    exact ⟨fun hnames => ⟨h, hnames⟩, fun hnames => hnames.2⟩
  · rw [List.idxOf?_eq_none_iff.2 h]
    constructor
    · intro hnames
      cases hnames
    · intro hnames
      exact absurd hnames.1 h

/-! ### Names as a collection -/

theorem RenamePair.step_perm_cons (h : pair.old ∈ columns) :
    (pair.step columns).Perm (pair.new :: columns.erase pair.old) := by
  have hset := List.set_perm_cons_eraseIdx (List.idxOf_lt_length_of_mem h) pair.new
  rwa [List.eraseIdx_idxOf_eq_erase] at hset

/-- Which names there are after a pair does not depend on the order of the columns. -/
theorem RenamePair.step_perm (h : columns.Perm columns') (hmem : pair.old ∈ columns) :
    (pair.step columns).Perm (pair.step columns') :=
  (step_perm_cons hmem).trans
    (((h.erase pair.old).cons pair.new).trans (step_perm_cons (h.mem_iff.1 hmem)).symm)

/-- Renaming succeeds in every order of the columns or in none, and gives the same names. -/
theorem exists_renameAll_of_perm (h : columns.Perm columns')
    (hnames : renameAll pairs columns = .ok names) :
    ∃ names', renameAll pairs columns' = .ok names' ∧ names.Perm names' := by
  induction pairs generalizing columns columns' with
  | nil =>
    cases hnames
    exact ⟨columns', rfl, h⟩
  | cons pair rest ih =>
    obtain ⟨hmem, hrest⟩ := renameAll_cons_eq_ok_iff.1 hnames
    obtain ⟨names', hnames', hperm⟩ := ih (RenamePair.step_perm h hmem) hrest
    exact ⟨names', renameAll_cons_eq_ok_iff.2 ⟨h.mem_iff.1 hmem, hnames'⟩, hperm⟩

/-! ### The name of one column -/

/-- A column whose name is not the old one keeps it. -/
theorem RenamePair.getElem?_step_of_ne (hi : columns[i]? = some name) (hname : name ≠ pair.old) :
    (pair.step columns)[i]? = some name := by
  have hne : columns.idxOf pair.old ≠ i := by
    rintro rfl
    obtain ⟨hlt, hget⟩ := List.getElem?_eq_some_iff.1 hi
    exact hname (hget.symm.trans (List.getElem_idxOf hlt))
  rw [step, List.getElem?_set_ne hne, hi]

/-- The only column of the old name is renamed. -/
theorem RenamePair.getElem?_step_of_count (hi : columns[i]? = some pair.old)
    (hcount : columns.count pair.old = 1) : (pair.step columns)[i]? = some pair.new := by
  obtain ⟨hlt, hget⟩ := List.getElem?_eq_some_iff.1 hi
  have hidx : columns.idxOf pair.old = i := by
    by_contra hne
    have hmem : pair.old ∈ columns := hget ▸ List.getElem_mem hlt
    have hidx := List.idxOf_lt_length_of_mem hmem
    have htwo : List.Duplicate pair.old columns := by
      rw [List.duplicate_iff_exists_distinct_get]
      rcases Nat.lt_or_gt_of_ne hne with hlt' | hlt'
      · exact ⟨⟨_, hidx⟩, ⟨i, hlt⟩, hlt', (List.getElem_idxOf hidx).symm, hget.symm⟩
      · exact ⟨⟨i, hlt⟩, ⟨_, hidx⟩, hlt', hget.symm, (List.getElem_idxOf hidx).symm⟩
    have hle := List.duplicate_iff_two_le_count.1 htwo
    omega
  rw [step, hidx, List.getElem?_set_self hlt]

/-- **An undisputed column** has the same name in the end, wherever it stands. -/
theorem Undisputed.getElem?_eq (h : Undisputed pairs columns i) (hperm : columns.Perm columns')
    (hi : columns[i]? = some name) (hj : columns'[j]? = some name)
    (hnames : renameAll pairs columns = .ok names)
    (hnames' : renameAll pairs columns' = .ok names') : names[i]? = names'[j]? := by
  induction pairs generalizing columns columns' name with
  | nil =>
    cases hnames
    cases hnames'
    exact hi.trans hj.symm
  | cons pair rest ih =>
    obtain ⟨hone, hrest⟩ := h
    obtain ⟨hmem, hnames⟩ := renameAll_cons_eq_ok_iff.1 hnames
    obtain ⟨-, hnames'⟩ := renameAll_cons_eq_ok_iff.1 hnames'
    have hperm' := RenamePair.step_perm hperm hmem
    by_cases hname : name = pair.old
    · subst hname
      have hcount := hone hi
      exact ih hrest hperm' (RenamePair.getElem?_step_of_count hi hcount)
        (RenamePair.getElem?_step_of_count hj (hperm.count_eq _ ▸ hcount)) hnames hnames'
    · exact ih hrest hperm' (RenamePair.getElem?_step_of_ne hi hname)
        (RenamePair.getElem?_step_of_ne hj hname) hnames hnames'

/-! ### The first column and the last one -/

section Ends

variable {first last : String} {others others' : List String}

theorem RenamePair.step_cons_of_eq (h : first = pair.old) :
    pair.step (first :: others) = pair.new :: others := by
  rw [step, h, List.idxOf_cons_self, List.set_cons_zero]

theorem RenamePair.step_cons_of_ne (h : first ≠ pair.old) :
    pair.step (first :: others) = first :: pair.step others := by
  rw [step, List.idxOf_cons_ne others h, List.set_cons_succ, step]

theorem RenamePair.step_append_of_mem (h : pair.old ∈ others) :
    pair.step (others ++ [last]) = pair.step others ++ [last] := by
  rw [step, List.idxOf_append_of_mem h, List.set_append_left _ _ (List.idxOf_lt_length_of_mem h),
    step]

/-- The last column is renamed only if no other one has the old name. -/
theorem RenamePair.step_append_of_notMem (h : pair.old ∉ others) (hlast : last = pair.old) :
    pair.step (others ++ [last]) = others ++ [pair.new] := by
  rw [step, List.idxOf_append_of_notMem h, hlast, List.idxOf_cons_self, Nat.add_zero,
    List.set_append_right _ _ (Nat.le_refl _), Nat.sub_self, List.set_cons_zero]

theorem RenamePair.mem_step_of_ne (hmem : name ∈ columns) (hname : name ≠ pair.old) :
    name ∈ pair.step columns := by
  obtain ⟨k, hk⟩ := List.mem_iff_getElem?.1 hmem
  exact List.mem_iff_getElem?.2 ⟨k, getElem?_step_of_ne hk hname⟩

theorem two_le_count_cons (h : name ∈ columns) : 2 ≤ (name :: columns).count name := by
  rw [List.count_cons_self]
  exact Nat.succ_le_succ (List.count_pos_iff.2 h)

/-- The same columns are renamed in two orders.  If the name of the first column in the one order
is not that of the last column in the other, or is not the only one of its kind, then the two are
different in the end.  For wherever they come together there are two columns of that name, and the
next pair that looks for it renames the first column and not the last one. -/
theorem names_part (h : (first :: others).Perm (others' ++ [last]))
    (hpart : first = last → 2 ≤ (first :: others).count first)
    (hnames : renameAll pairs (first :: others) = .ok names)
    (hnames' : renameAll pairs (others' ++ [last]) = .ok names') (hnodup : names.Nodup) :
    names.head? ≠ names'.getLast? := by
  induction pairs generalizing first last others others' with
  | nil =>
    cases hnames
    cases hnames'
    rw [List.head?_cons, List.getLast?_concat]
    intro heq
    have htwo := hpart (Option.some.inj heq)
    have hone := List.nodup_iff_count_le_one.1 hnodup first
    omega
  | cons pair rest ih =>
    obtain ⟨hmem, hnames⟩ := renameAll_cons_eq_ok_iff.1 hnames
    obtain ⟨hmem', hnames'⟩ := renameAll_cons_eq_ok_iff.1 hnames'
    have hperm := RenamePair.step_perm h hmem
    by_cases hfirst : first = pair.old
    · rw [RenamePair.step_cons_of_eq hfirst] at hperm hnames
      have hothers : pair.old ∈ others' := by
        by_contra hnot
        have hlast := List.mem_singleton.1 ((List.mem_append.1 hmem').resolve_left hnot)
        have htwo := hpart (hfirst.trans hlast)
        rw [h.count_eq, hfirst, List.count_append, List.count_eq_zero.2 hnot, ← hlast] at htwo
        simp at htwo
      rw [RenamePair.step_append_of_mem hothers] at hperm hnames'
      refine ih hperm (fun heq => two_le_count_cons ?_) hnames hnames'
      -- the new name is that of the last column, which is not the first one in the first order
      rw [heq]
      by_cases hsame : first = last
      · have htwo := hpart hsame
        rw [List.count_cons_self] at htwo
        rw [← hsame]
        exact List.count_pos_iff.1 (Nat.le_of_succ_le_succ htwo)
      · have hlast : last ∈ first :: others := h.mem_iff.2 (by simp)
        exact (List.mem_cons.1 hlast).resolve_left (Ne.symm hsame)
    · rw [RenamePair.step_cons_of_ne hfirst] at hperm hnames
      have hrenamed : pair.old ∈ others := (List.mem_cons.1 hmem).resolve_left (Ne.symm hfirst)
      by_cases hothers : pair.old ∈ others'
      · rw [RenamePair.step_append_of_mem hothers] at hperm hnames'
        refine ih hperm (fun heq => two_le_count_cons ?_) hnames hnames'
        have htwo := hpart heq
        rw [List.count_cons_self] at htwo
        have hfound := List.count_pos_iff.1 (Nat.le_of_succ_le_succ htwo)
        exact RenamePair.mem_step_of_ne hfound hfirst
      · have hlast := List.mem_singleton.1 ((List.mem_append.1 hmem').resolve_left hothers)
        rw [RenamePair.step_append_of_notMem hothers hlast.symm] at hperm hnames'
        refine ih hperm (fun heq => two_le_count_cons ?_) hnames hnames'
        -- the name of the first column is the new one, which another column has just been given
        rw [heq]
        exact (RenamePair.step_perm_cons hrenamed).mem_iff.2 List.mem_cons_self

/-- **A disputed column** has different names in the end when it stands first and when it stands
last. -/
theorem names_part_of_disputed (h : ¬Undisputed pairs columns i) (hi : columns[i]? = some name)
    (hfirst : columns.Perm (name :: others)) (hlast : columns.Perm (others' ++ [name]))
    (hnames : renameAll pairs (name :: others) = .ok names)
    (hnames' : renameAll pairs (others' ++ [name]) = .ok names') (hnodup : names.Nodup) :
    names.head? ≠ names'.getLast? := by
  induction pairs generalizing columns name others others' with
  | nil => exact absurd trivial h
  | cons pair rest ih =>
    by_cases hone : columns[i]? = some pair.old → columns.count pair.old = 1
    · have hrest : ¬Undisputed rest (pair.step columns) i := fun hrest => h ⟨hone, hrest⟩
      obtain ⟨hmem, hnames⟩ := renameAll_cons_eq_ok_iff.1 hnames
      obtain ⟨hmem', hnames'⟩ := renameAll_cons_eq_ok_iff.1 hnames'
      have hfirst' := RenamePair.step_perm hfirst (hfirst.mem_iff.2 hmem)
      have hlast' := RenamePair.step_perm hlast (hlast.mem_iff.2 hmem')
      by_cases hname : name = pair.old
      · have hcount := hone (hname ▸ hi)
        have hothers : pair.old ∉ others' := by
          rw [hlast.count_eq, hname, List.count_append, List.count_singleton_self] at hcount
          exact List.count_eq_zero.1 (Nat.succ.inj hcount)
        rw [RenamePair.step_cons_of_eq hname] at hfirst' hnames
        rw [RenamePair.step_append_of_notMem hothers hname] at hlast' hnames'
        exact ih hrest (RenamePair.getElem?_step_of_count (hname ▸ hi) hcount) hfirst' hlast'
          hnames hnames'
      · have hothers : pair.old ∈ others' := by
          refine (List.mem_append.1 hmem').resolve_right fun hold => hname ?_
          exact (List.mem_singleton.1 hold).symm
        rw [RenamePair.step_cons_of_ne hname] at hfirst' hnames
        rw [RenamePair.step_append_of_mem hothers] at hlast' hnames'
        exact ih hrest (RenamePair.getElem?_step_of_ne hi hname) hfirst' hlast' hnames hnames'
    -- the pair looks for the name of the column, and another column has it too
    · obtain ⟨hold, hcount⟩ := Classical.not_imp.1 hone
      have hname : name = pair.old := Option.some.inj (hi.symm.trans hold)
      refine names_part (hfirst.symm.trans hlast) (fun _ => ?_) hnames hnames' hnodup
      rw [← hfirst.count_eq, hname]
      have hpos := List.count_pos_iff.2 (List.mem_of_getElem? hold)
      omega

end Ends

end Names

/-! ### Tables with their columns in another order -/

section Tables

variable {t r r' : Table} {order : List Nat} {pairs : List RenamePair} {row : Row} {i j : Nat}

theorem renameColumns_eq_ok_iff :
    renameColumns pairs t = .ok r ↔
      ∃ names, renameAll pairs t.columns = .ok names ∧ names.Nodup ∧ r = ⟨names, t.rows⟩ := by
  rw [renameColumns, ofSchema_eq_ok_iff, bind_eq_ok_iff]
  refine exists_congr fun names => and_congr_right fun _ => ?_
  rw [bind_eq_ok_iff]
  constructor
  · rintro ⟨_, hdistinct, h⟩
    exact ⟨checkDistinct_eq_ok hdistinct, (pure_eq_ok_iff.1 h).symm⟩
  · rintro ⟨hnodup, rfl⟩
    exact ⟨(), checkDistinct_eq_ok_iff.2 hnodup, rfl⟩

theorem Table.columns_perm_project (h : order.Perm (List.range t.columns.length)) :
    t.columns.Perm (t.project order).columns := by
  have hnames := h.map fun k => t.columns[k]?.getD ""
  have hrange : (List.range t.columns.length).map (fun k => t.columns[k]?.getD "") = t.columns :=
    t.columnNames_range
  rw [hrange] at hnames
  exact hnames.symm

/-- The name and the cells of a column go to its place in the new order. -/
theorem Table.getElem?_columns_project (hj : order[j]? = some i) (hi : i < t.columns.length) :
    (t.project order).columns[j]? = t.columns[i]? := by
  rw [project, columnNames, List.getElem?_map, hj, Option.map_some, List.getElem?_eq_getElem hi,
    Option.getD_some]

theorem cellAt_pick (hj : order[j]? = some i) (row : Row) :
    cellAt (pick order row) j = cellAt row i := by
  rw [cellAt, pick, List.getElem?_map, hj]
  rfl

/-- Renaming succeeds on the columns in another order if it does on the table. -/
theorem exists_renameColumns_project (h : order.Perm (List.range t.columns.length))
    (hr : renameColumns pairs t = .ok r) :
    ∃ r', renameColumns pairs (t.project order) = .ok r' ∧ r.columns.Perm r'.columns := by
  obtain ⟨names, hnames, hnodup, rfl⟩ := renameColumns_eq_ok_iff.1 hr
  obtain ⟨names', hnames', hperm⟩ :=
    exists_renameAll_of_perm (Table.columns_perm_project h) hnames
  exact ⟨⟨names', (t.project order).rows⟩,
    renameColumns_eq_ok_iff.2 ⟨names', hnames', hperm.nodup_iff.1 hnodup, rfl⟩, hperm⟩

/-- And it fails if it fails on the table. -/
theorem exists_of_renameColumns_project (h : order.Perm (List.range t.columns.length))
    (hr : renameColumns pairs (t.project order) = .ok r) :
    ∃ r', renameColumns pairs t = .ok r' := by
  obtain ⟨names, hnames, hnodup, -⟩ := renameColumns_eq_ok_iff.1 hr
  obtain ⟨names', hnames', hperm⟩ :=
    exists_renameAll_of_perm (Table.columns_perm_project h).symm hnames
  exact ⟨_, renameColumns_eq_ok_iff.2 ⟨names', hnames', hperm.nodup_iff.1 hnodup, rfl⟩⟩

/-- The cells of an undisputed column stand under the same name. -/
theorem Undisputed.cell_eq (h : order.Perm (List.range t.columns.length))
    (hr : renameColumns pairs t = .ok r) (hr' : renameColumns pairs (t.project order) = .ok r')
    {name : String} (hname : name ∈ r.columns)
    (hundisputed : Undisputed pairs t.columns (r.columns.idxOf name)) (row : Row) :
    r'.cell (pick order row) name = r.cell row name := by
  obtain ⟨names, hnames, -, rfl⟩ := renameColumns_eq_ok_iff.1 hr
  obtain ⟨names', hnames', hnodup', rfl⟩ := renameColumns_eq_ok_iff.1 hr'
  generalize hi : names.idxOf name = i at hundisputed
  have hlt : i < t.columns.length := by
    rw [← length_of_renameAll hnames, ← hi]
    exact List.idxOf_lt_length_of_mem hname
  have hj : order[order.idxOf i]? = some i :=
    List.getElem?_idxOf (h.mem_iff.2 (List.mem_range.2 hlt))
  -- the column goes through the same names at its place in the new order
  have hsame : names[i]? = names'[order.idxOf i]? :=
    hundisputed.getElem?_eq (Table.columns_perm_project h) (List.getElem?_eq_getElem hlt)
      ((Table.getElem?_columns_project hj hlt).trans (List.getElem?_eq_getElem hlt)) hnames hnames'
  rw [← hi, List.getElem?_idxOf hname, hi, eq_comm] at hsame
  obtain ⟨hlt', hget⟩ := List.getElem?_eq_some_iff.1 hsame
  have hidx : names'.idxOf name = order.idxOf i := hget ▸ hnodup'.idxOf_getElem _ hlt'
  show cellAt (pick order row) (names'.idxOf name) = cellAt row (names.idxOf name)
  rw [hidx, cellAt_pick hj, hi]

/-- A disputed column has another name in some order of the columns. -/
theorem exists_project_of_disputed (hr : renameColumns pairs t = .ok r)
    (hi : i < t.columns.length) (hdisputed : ¬Undisputed pairs t.columns i) :
    ∃ order r', order.Perm (List.range t.columns.length) ∧
      renameColumns pairs (t.project order) = .ok r' ∧
      r'.columns[order.idxOf i]? ≠ r.columns[i]? := by
  have hmem : i ∈ List.range t.columns.length := List.mem_range.2 hi
  set others := (List.range t.columns.length).erase i
  have hnot : i ∉ others := (List.nodup_range).not_mem_erase
  have hperm : (i :: others).Perm (List.range t.columns.length) := (List.perm_cons_erase hmem).symm
  have hperm' : (others ++ [i]).Perm (List.range t.columns.length) :=
    (List.perm_append_singleton i others).trans hperm
  obtain ⟨first, hfirst, -⟩ := exists_renameColumns_project hperm hr
  obtain ⟨last, hlast, -⟩ := exists_renameColumns_project hperm' hr
  have hne : first.columns[0]? ≠ last.columns[others.length]? := by
    obtain ⟨front, hfront, hnodup, rfl⟩ := renameColumns_eq_ok_iff.1 hfirst
    obtain ⟨back, hback, -, rfl⟩ := renameColumns_eq_ok_iff.1 hlast
    have hfirsts := Table.columns_perm_project hperm
    have hlasts := Table.columns_perm_project hperm'
    have hlength : back.length = others.length + 1 := by
      have hall := hperm.length_eq
      rw [List.length_cons, List.length_range] at hall
      rw [length_of_renameAll hback, ← hlasts.length_eq, hall]
    simp only [Table.project, Table.columnNames, List.map_cons, List.map_append, List.map_nil,
      List.getElem?_eq_getElem hi, Option.getD_some] at hfront hback hfirsts hlasts
    have hends := names_part_of_disputed hdisputed (List.getElem?_eq_getElem hi) hfirsts hlasts
      hfront hback hnodup
    rwa [List.head?_eq_getElem?, List.getLast?_eq_getElem?, hlength, Nat.add_sub_cancel] at hends
  by_cases hsame : first.columns[0]? = r.columns[i]?
  · refine ⟨_, last, hperm', hlast, ?_⟩
    rw [List.idxOf_append_of_notMem hnot, List.idxOf_cons_self, Nat.add_zero, ← hsame]
    exact hne.symm
  · refine ⟨_, first, hperm, hfirst, ?_⟩
    rwa [List.idxOf_cons_self]

/-- **Renaming and the order of columns.**  Whether a table can be renamed does not depend on the
order of its columns, nor do the names that there are afterwards; and the cells of an undisputed
column stand under the same name.  Any other column gets another name in some order. -/
theorem renameColumns_reordered (t : Table) (pairs : List RenamePair) :
    (∀ order : List Nat, order.Perm (List.range t.columns.length) →
      ((∃ r, renameColumns pairs t = .ok r) ↔
        ∃ r', renameColumns pairs (t.project order) = .ok r') ∧
      ∀ r r', renameColumns pairs t = .ok r → renameColumns pairs (t.project order) = .ok r' →
        r.columns.Perm r'.columns ∧
        List.Forall₂ (fun row row' => ∀ name ∈ r.columns,
          Undisputed pairs t.columns (r.columns.idxOf name) → r'.cell row' name = r.cell row name)
          r.rows r'.rows) ∧
    ∀ r, renameColumns pairs t = .ok r → ∀ i < t.columns.length, ¬Undisputed pairs t.columns i →
      ∃ order r', order.Perm (List.range t.columns.length) ∧
        renameColumns pairs (t.project order) = .ok r' ∧
        r'.columns[order.idxOf i]? ≠ r.columns[i]? := by
  refine ⟨fun order horder => ⟨⟨?_, ?_⟩, fun r r' hr hr' => ⟨?_, ?_⟩⟩,
    fun r hr i hi hdisputed => exists_project_of_disputed hr hi hdisputed⟩
  · rintro ⟨r, hr⟩
    obtain ⟨r', hr', -⟩ := exists_renameColumns_project horder hr
    exact ⟨r', hr'⟩
  · rintro ⟨r', hr'⟩
    exact exists_of_renameColumns_project horder hr'
  · obtain ⟨r'', hr'', hperm⟩ := exists_renameColumns_project horder hr
    rwa [Except.ok.inj (hr'.symm.trans hr'')]
  · have hrows : r'.rows = r.rows.map (pick order) := by
      obtain ⟨-, -, -, rfl⟩ := renameColumns_eq_ok_iff.1 hr
      obtain ⟨-, -, -, rfl⟩ := renameColumns_eq_ok_iff.1 hr'
      rfl
    rw [hrows, List.forall₂_map_right_iff, List.forall₂_same]
    exact fun row _ name hname hundisputed => hundisputed.cell_eq horder hr hr' hname row

/-- Two columns change their names by way of a third one, and none of the three is disputed; and two
columns of which the second one is renamed to what the first one has become. -/
theorem renameColumns_reordered_swapped :
    let t : Table := ⟨["a", "b", "c"], [[.integer 1, .integer 2, .integer 3],
      [.null, .string "x", .boolean true]]⟩
    let swap : List RenamePair := [⟨"a", "t"⟩, ⟨"b", "a"⟩, ⟨"t", "b"⟩]
    let merge : List RenamePair := [⟨"a", "b"⟩, ⟨"b", "d"⟩]
    [2, 0, 1].Perm (List.range 3) ∧
      (∃ r r', renameColumns swap t = .ok r ∧ renameColumns swap (t.project [2, 0, 1]) = .ok r' ∧
        r.columns = ["b", "a", "c"] ∧ r'.columns = ["c", "b", "a"] ∧
        List.Forall₂ (fun row row' => ∀ name ∈ r.columns, r'.cell row' name = r.cell row name)
          r.rows r'.rows) ∧
      (∃ r, renameColumns merge t = .ok r ∧ ¬Undisputed merge t.columns 0 ∧
        ∃ order r', order.Perm (List.range 3) ∧ renameColumns merge (t.project order) = .ok r' ∧
          r'.columns[order.idxOf 0]? ≠ r.columns[0]?) := by
  intro t swap merge
  have hperm : [2, 0, 1].Perm (List.range 3) := by decide
  refine ⟨hperm, ⟨⟨["b", "a", "c"], t.rows⟩, ⟨["c", "b", "a"], _⟩, rfl, rfl, rfl, rfl, ?_⟩, ?_⟩
  · have hsame := (((renameColumns_reordered t swap).1 [2, 0, 1] hperm).2 _ _ rfl rfl).2
    refine hsame.imp fun row row' h name hname => h name hname ?_
    revert name
    decide
  · refine ⟨⟨["d", "b", "c"], t.rows⟩, rfl, by decide, ?_⟩
    exact (renameColumns_reordered t merge).2 _ rfl 0 (by decide) (by decide)

/-- Two columns have one name when a pair looks for it: the cells under the new name are those of
the column that stands first. -/
theorem renameColumns_order_matters :
    let t : Table := ⟨["a", "b"], [[.integer 1, .integer 2]]⟩
    let u : Table := ⟨["b", "a"], [[.integer 2, .integer 1]]⟩
    let pairs : List RenamePair := [⟨"a", "b"⟩, ⟨"b", "c"⟩]
    t.WellFormed ∧ [1, 0].Perm (List.range 2) ∧ t.project [1, 0] = u ∧
      ∃ r r', renameColumns pairs t = .ok r ∧ renameColumns pairs u = .ok r' ∧
        "c" ∈ r.columns ∧ r.cell [.integer 1, .integer 2] "c" = .integer 1 ∧
        r'.cell [.integer 2, .integer 1] "c" = .integer 2 ∧ Value.integer 1 ≠ .integer 2 := by
  intro t u pairs
  have ht : t.WellFormed := by
    rw [Table.wellFormed_iff]
    simp [t, Value.WellFormed]
  exact ⟨ht, by decide, rfl, ⟨["c", "b"], t.rows⟩, ⟨["c", "b"], u.rows⟩, rfl, rfl, by decide, rfl,
    rfl, by simp⟩

end Tables

end TablePipeline
