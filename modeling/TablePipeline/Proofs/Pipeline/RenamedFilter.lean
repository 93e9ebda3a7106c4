import TablePipeline.Proofs.Pipeline.Filtering
import TablePipeline.Proofs.Pipeline.Renaming

/-!
# Filters on renamed columns

A column may be renamed before a filter or behind it, if the condition is written with the new name
in the first case and with the old one in the second.  The filter keeps the same rows, or fails with
the same error.

The names of the table are looked up again after the renaming.  Cells are found where they were,
because the new name is not that of any other column and because the condition does not name it yet:
two names that a renaming maps to one would share a cell afterwards.  The column that is renamed is
there, so the one error that tells the name of a column never tells that of this one.

## Main definitions

* `replaceName`, `Expr.replaceColumn` — one name in place of another one
* `Table.renamed` — the table with a column renamed

## Main statements

* `cellNamed?_map` — cells under other names
* `filterRows_renamed` — a filter on a renamed column
* `rename_filter_comm` — a renaming before a filter and behind it
-/

namespace TablePipeline

/-- One name in place of another one. -/
def replaceName (old new name : String) : String :=
  if name = old then new else name

/-- The expression with every reference to the one column made a reference to the other one. -/
def Expr.replaceColumn (old new : String) (e : Expr) : Expr :=
  e.mapColumns (replaceName old new)

/-- The table with a column renamed. -/
def Table.renamed (old new : String) (t : Table) : Table :=
  ⟨t.columns.map (replaceName old new), t.rows⟩

variable {columns : List String} {old new name : String} {row : Row} {t u : Table}
  {method : SortMethod} {e : Expr}

/-! ### Names -/

/-- Two names are mapped to one only if they are the same, as long as the new name is neither of
them. -/
theorem eq_of_replaceName_eq {c : String} (hc : c ≠ new) (hname : name ≠ new)
    (h : replaceName old new c = replaceName old new name) : c = name := by
  unfold replaceName at h
  split at h
  · split at h
    · simp_all
    · exact absurd h.symm hname
  · split at h
    · exact absurd h hc
    · exact h

/-- Names are found where they were, if no other one is mapped to the same name. -/
theorem lastIndexOf?_map {f : String → String} (h : ∀ c ∈ columns, f c = f name → c = name) :
    lastIndexOf? (f name) (columns.map f) = lastIndexOf? name columns := by
  induction columns with
  | nil => rfl
  | cons c rest ih =>
    have hfirst : f c = f name ↔ c = name := ⟨h c List.mem_cons_self, congrArg f⟩
    have hrest := ih fun c' hc' => h c' (List.mem_cons_of_mem c hc')
    rw [List.map_cons, lastIndexOf?, lastIndexOf?, hrest]
    simp only [hfirst]

theorem cellNamed?_map {f : String → String} (h : ∀ c ∈ columns, f c = f name → c = name) :
    cellNamed? (columns.map f) row (f name) = cellNamed? columns row name := by
  rw [cellNamed?, cellNamed?, lastIndexOf?_map h]

/-- Where names are distinct, renaming the first column of a name is renaming all of them. -/
theorem RenamePair.step_eq_map {pair : RenamePair} (h : columns.Nodup) :
    pair.step columns = columns.map (replaceName pair.old pair.new) := by
  induction columns with
  | nil => rfl
  | cons c rest ih =>
    obtain ⟨hc, hrest⟩ := List.nodup_cons.1 h
    rw [List.map_cons]
    by_cases hold : c = pair.old
    · have hothers : rest.map (replaceName pair.old pair.new) = rest := by
        refine (List.map_congr_left fun name hname => ?_).trans (List.map_id rest)
        exact if_neg fun heq : name = pair.old => hc (hold.trans heq.symm ▸ hname)
      rw [step_cons_of_eq hold, hothers, replaceName, if_pos hold]
    · rw [step_cons_of_ne hold, ih hrest, replaceName, if_neg hold]

/-! ### The stages -/

/-- A column can be renamed to a name that is not there. -/
theorem renameColumns_singleton (hc : t.columns.Nodup) (hold : old ∈ t.columns)
    (hnew : new ∉ t.columns) : renameColumns [⟨old, new⟩] t = .ok (t.renamed old new) := by
  let pair : RenamePair := ⟨old, new⟩
  have hnodup : (pair.step t.columns).Nodup := by
    have hperm : (pair.step t.columns).Perm (new :: t.columns.erase old) :=
      RenamePair.step_perm_cons hold
    rw [hperm.nodup_iff, List.nodup_cons]
    exact ⟨fun hmem => hnew (List.mem_of_mem_erase hmem), hc.erase old⟩
  refine renameColumns_eq_ok_iff.2 ⟨pair.step t.columns, ?_, hnodup, ?_⟩
  · exact renameAll_cons_eq_ok_iff.2 ⟨hold, rfl⟩
  · rw [RenamePair.step_eq_map hc]
    rfl

/-- The value of an expression on a row of the renamed table. -/
theorem Expr.eval_replaceColumn (ht : t.WellFormed) (hold : old ∈ t.columns)
    (hnew : new ∉ t.columns) (he : new ∉ e.mentions) (hrow : row ∈ t.rows) :
    (e.replaceColumn old new).eval (t.renamed old new).columns row = e.eval t.columns row := by
  refine evalIn_mapColumns fun name hname => ⟨cellNamed?_map fun c hc heq => ?_, fun hnone => ?_⟩
  · exact eq_of_replaceName_eq (ne_of_mem_of_not_mem hc hnew) (ne_of_mem_of_not_mem hname he) heq
  · rw [ht.cellNamed?_eq hrow] at hnone
    refine if_neg fun heq => ?_
    rw [heq, if_pos hold] at hnone
    cases hnone

theorem filterRows_renamed (ht : t.WellFormed) (hold : old ∈ t.columns) (hnew : new ∉ t.columns)
    (he : new ∉ e.mentions) :
    filterRows (e.replaceColumn old new) (t.renamed old new) =
      (filterRows e t).map (·.renamed old new) := by
  have hrows := keepWhere_map (f := id) fun row hrow =>
    Expr.eval_replaceColumn ht hold hnew he hrow
  rw [List.map_id] at hrows
  rw [filterRows, filterRows]
  show keepWhere _ (t.renamed old new).columns t.rows >>= _ = _
  rw [hrows]
  cases keepWhere e t.columns t.rows with
  | error fault => rfl
  | ok kept =>
    simp only [Except.map, List.map_id]
    rfl

/-- **Renaming and filters**: a column may be renamed before a filter, with the new name in the
condition, or behind it, with the same rows or the same error. -/
theorem rename_filter_comm (ht : t.WellFormed) (hold : old ∈ t.columns) (hnew : new ∉ t.columns)
    (he : new ∉ e.mentions) :
    runOperations method [.rename [⟨old, new⟩], .filter (e.replaceColumn old new)] t =
        runOperations method [.filter e, .rename [⟨old, new⟩]] t ∧
      runOperations method [.filter e, .rename [⟨old, new⟩]] t =
        ((Operation.filter e).apply method t).map (·.renamed old new) := by
  have hbefore : runOperations method [.rename [⟨old, new⟩], .filter (e.replaceColumn old new)] t =
      ((Operation.filter e).apply method t).map (·.renamed old new) := by
    have hrename : (Operation.rename [⟨old, new⟩]).apply method t = .ok (t.renamed old new) :=
      renameColumns_singleton ht.nodup_columns hold hnew
    rw [runOperations_pair, hrename]
    exact filterRows_renamed ht hold hnew he
  have hbehind : runOperations method [.filter e, .rename [⟨old, new⟩]] t =
      ((Operation.filter e).apply method t).map (·.renamed old new) := by
    rw [runOperations_pair]
    cases hfilter : (Operation.filter e).apply method t with
    | error fault => rfl
    | ok kept =>
      -- the filter leaves the columns, among which the one to rename is found
      have hcolumns : kept.columns = t.columns :=
        (Operation.ChoosesRowsBy.filter e).columns_eq hfilter
      exact renameColumns_singleton (hcolumns ▸ ht.nodup_columns) (hcolumns ▸ hold)
        (hcolumns ▸ hnew)
  exact ⟨hbefore.trans hbehind.symm, hbehind⟩

/-- A condition that names the column in the argument of a call, and one that names a missing column
besides, the error of which is the same. -/
theorem rename_filter_comm_missing :
    let t : Table := ⟨["x", "n"], [[.string "a", .integer 1], [.string "b", .null],
      [.string "c", .integer 3]]⟩
    let small : Expr := .binary .less (.column "n") (.literal (.integer 2))
    let e : Expr := .call "coalesce" [small, .literal (.boolean true)]
    let missing : Expr := .binary .and small (.column "z")
    let out : Table := ⟨["x", "m"], [[.string "a", .integer 1], [.string "b", .null]]⟩
    let fault : StageError := .eval (.stage "filter") (.unknownColumn "z")
    t.WellFormed ∧ "n" ∈ t.columns ∧ "m" ∉ t.columns ∧ "m" ∉ e.mentions ∧ "m" ∉ missing.mentions ∧
      runOperations .standard [.rename [⟨"n", "m"⟩], .filter (e.replaceColumn "n" "m")] t =
        .ok out ∧
      runOperations .standard [.filter e, .rename [⟨"n", "m"⟩]] t = .ok out ∧
      runOperations .standard [.rename [⟨"n", "m"⟩], .filter (missing.replaceColumn "n" "m")] t =
        .error fault ∧
      runOperations .standard [.filter missing, .rename [⟨"n", "m"⟩]] t = .error fault := by
  intro t small e missing out fault
  have ht : t.WellFormed := by
    rw [Table.wellFormed_iff]
    simp [t, Value.WellFormed]
  have hold : "n" ∈ t.columns := by decide
  have hnew : "m" ∉ t.columns := by decide
  have he : "m" ∉ e.mentions := by decide
  have hmissing : "m" ∉ missing.mentions := by decide
  have hout : ((Operation.filter e).apply .standard t).map (·.renamed "n" "m") = .ok out := by rfl
  have hfault : ((Operation.filter missing).apply .standard t).map (·.renamed "n" "m") =
      .error fault := by
    rfl
  obtain ⟨hcomm, hbehind⟩ := rename_filter_comm ht hold hnew he
  obtain ⟨hcomm', hbehind'⟩ := rename_filter_comm ht hold hnew hmissing
  rw [hout] at hbehind
  rw [hfault] at hbehind'
  exact ⟨ht, hold, hnew, he, hmissing, hcomm.trans hbehind, hbehind, hcomm'.trans hbehind',
    hbehind'⟩

end TablePipeline
