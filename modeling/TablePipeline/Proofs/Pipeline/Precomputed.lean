import TablePipeline.Proofs.Pipeline.Computed

/-!
# Reductions in two steps

A reduction may compute with what its calls give, as in `sum(x) / count()`.  There are two
evaluators then: the one over a table and, if the calls are made first and kept in columns of their
own, the one on a row.  They come to the same (`Expr.Precomputes.evalIn_eq`): literals, arithmetic
and minus combine values in one way in both.

So a `reduce` can be taken apart into a `reduce` that only makes the calls, a `transform` that
computes with the columns, and a `remove` of these columns, if their names are new.  What is left is
the same table, with the columns in the same order, also where the result replaces another column or
the nested tables themselves.

## Main definitions

* `Expr.Precomputes` — the calls of an expression, and the expression that reads their columns

## Main statements

* `Expr.Precomputes.evalIn_eq` — the two evaluators
* `reduce_iff_precomputed` — one `reduce`, and the three stages
-/

namespace TablePipeline

/-- Each call of the expression has a column of its own, and the second expression reads the column
in its place.  The calls are joined by arithmetic and minus only.  A function that is no aggregate
never has a value over a table, so that there is no need to leave it out here. -/
inductive Expr.Precomputes : Expr → List Assignment → Expr → Prop
  | literal (l : Literal) : Precomputes (.literal l) [] (.literal l)
  | call (column function : String) (arguments : List Expr) :
      Precomputes (.call function arguments) [⟨column, .call function arguments⟩] (.column column)
  | binary {op : BinaryOp} {left right left' right' : Expr} {first second : List Assignment}
      (family : op.family = .arithmetic) (hleft : Precomputes left first left')
      (hright : Precomputes right second right') :
      Precomputes (.binary op left right) (first ++ second) (.binary op left' right')
  | negate {operand operand' : Expr} {calls : List Assignment}
      (hoperand : Precomputes operand calls operand') :
      Precomputes (.unary .negate operand) calls (.unary .negate operand')

/-- **The two evaluators**: over a table, and on a row that has the outcomes of the calls in it. -/
theorem Expr.Precomputes.evalIn_eq {e e' : Expr} {calls : List Assignment}
    (h : e.Precomputes calls e') {inner : Table} {cell : String → Option Value}
    (hcalls : ∀ a ∈ calls, ∃ v, a.expr.aggregate inner = .ok v ∧ cell a.column = some v) :
    e'.evalIn cell = e.aggregate inner := by
  induction h with
  | literal l => rfl
  | call column function arguments =>
    obtain ⟨v, hv, hcell⟩ := hcalls _ List.mem_cons_self
    rw [hv, evalIn, hcell]
  | @binary op left right left' right' first second family _ _ ihleft ihright =>
    have hleft := ihleft fun a ha => hcalls a (List.mem_append_left _ ha)
    have hright := ihright fun a ha => hcalls a (List.mem_append_right _ ha)
    have happly : ∀ a b, applyBinary op a b = arithmetic op a b := fun a b => by
      rw [applyBinary, family]
    rw [evalIn, aggregate, if_pos family, hleft, hright]
    simp only [happly]
  | negate hoperand ih => rw [evalIn, aggregate, ih hcalls]

/-! ### Columns that come and go -/

section Columns

variable {columns : List String} {row : Row} {name : String} {assignments : List Assignment}
  {keep : String → Bool}

/-- Leaving columns out before or after one is added. -/
theorem filter_withColumn :
    (withColumn columns name).filter keep =
      if keep name then withColumn (columns.filter keep) name else columns.filter keep := by
  unfold withColumn
  by_cases hmem : name ∈ columns
  · by_cases hkeep : keep name = true
    · rw [if_pos hmem, if_pos hkeep, if_pos (List.mem_filter.2 ⟨hmem, hkeep⟩)]
    · rw [if_pos hmem, if_neg hkeep]
  · have hnew : name ∉ columns.filter keep := fun h => hmem (List.mem_filter.1 h).1
    rw [if_neg hmem, if_neg hnew, List.filter_append]
    by_cases hkeep : keep name = true
    · simp [hkeep]
    · simp [hkeep]

namespace AssignmentPlan

/-- Leaving columns out of a plan is planning without them. -/
theorem filter_columns_make :
    (make columns assignments).columns.filter keep =
      (make (columns.filter keep) (assignments.filter (keep ·.column))).columns := by
  induction assignments generalizing columns with
  | nil => rfl
  | cons a rest ih =>
    rw [columns_make_cons, ih, filter_withColumn]
    cases hkeep : keep a.column with
    | true =>
      rw [if_pos rfl, List.filter_cons_of_pos (by exact hkeep), columns_make_cons]
    | false =>
      rw [if_neg Bool.false_ne_true, List.filter_cons_of_neg (by simpa using hkeep)]

end AssignmentPlan

end Columns

/-! ### The three stages -/

section Stages

variable {columns : List String} {row : Row} {x nested : String} {t u : Table}
  {method : SortMethod} {e e' : Expr} {calls : List Assignment}

/-- What is left of the columns when those of the calls are taken away. -/
theorem filter_withColumn_make (hx : x ∉ calls.map (·.column))
    (hnew : ∀ name ∈ calls.map (·.column), name ∉ columns) :
    (withColumn (AssignmentPlan.make columns calls).columns x).filter
        (· ∉ calls.map (·.column)) = withColumn columns x := by
  have hcalls : calls.filter (fun a => decide (a.column ∉ calls.map (·.column))) = [] :=
    List.filter_eq_nil_iff.2 fun a ha => by simpa using ⟨a, ha, rfl⟩
  have hcolumns : columns.filter (· ∉ calls.map (·.column)) = columns :=
    List.filter_eq_self.2 fun name hname => decide_eq_true fun hmem => hnew name hmem hname
  rw [filter_withColumn, if_pos (decide_eq_true hx), AssignmentPlan.filter_columns_make, hcalls,
    hcolumns, AssignmentPlan.make]

/-- What is left of a row: the result stands where it would stand without the calls. -/
theorem map_cellAt_withCell_assignRow (value : Assignment → Value) (v : Value) (hc : columns.Nodup)
    (hrow : row.length = columns.length) (hx : x ∉ calls.map (·.column))
    (hnew : ∀ name ∈ calls.map (·.column), name ∉ columns) :
    (withColumn columns x).map (fun name =>
        cellAt (withCell (AssignmentPlan.make columns calls).columns
            (assignRow columns calls value row) x v)
          ((withColumn (AssignmentPlan.make columns calls).columns x).idxOf name)) =
      withCell columns row x v := by
  refine Eq.trans (List.map_congr_left fun name hname => ?_)
    (map_cellAt_idxOf (nodup_withColumn hc) (length_withCell hrow))
  have hlast : lastAssignment? calls name = none := by
    rw [lastAssignment?_eq_none_iff]
    rintro a ha rfl
    have hmem := List.mem_map_of_mem (f := Assignment.column) ha
    rcases mem_withColumn.1 hname with hold | rfl
    · exact hnew _ hmem hold
    · exact hx hmem
  rw [cellAt_withCell (length_assignRow hrow), cellAt_withCell hrow, cellAt_assignRow hrow, hlast]
  rfl

/-- The table with the calls and the result, with the columns of the calls taken away again. -/
theorem mapRows_without_assign {first second result : Row → Assignment → Value} (ht : t.WellFormed)
    (hx : x ∉ calls.map (·.column)) (hnew : ∀ name ∈ calls.map (·.column), name ∉ t.columns)
    (hvalue : ∀ row ∈ t.rows,
      second (assignRow t.columns calls (first row) row) ⟨x, e'⟩ = result row ⟨x, e⟩) :
    let w := (t.assign calls first).assign [⟨x, e'⟩] second
    w.mapRows (w.columns.filter (· ∉ calls.map (·.column))) (w.without (calls.map (·.column))) =
      t.assign [⟨x, e⟩] result := by
  intro w
  have hw : w.columns = withColumn (AssignmentPlan.make t.columns calls).columns x :=
    AssignmentPlan.columns_make_singleton _ ⟨x, e'⟩
  have hcolumns : w.columns.filter (· ∉ calls.map (·.column)) = withColumn t.columns x := by
    rw [hw]
    exact filter_withColumn_make hx hnew
  refine congrArg₂ Table.mk
    (hcolumns.trans (AssignmentPlan.columns_make_singleton t.columns ⟨x, e⟩).symm) ?_
  show ((t.rows.map _).map _).map _ = _
  rw [List.map_map, List.map_map]
  refine List.map_congr_left fun row hrow => ?_
  have hlength := ht.length_row hrow
  -- the cells of the row with the calls and the result, under the names that are left
  have hout :
      assignRow (t.assign calls first).columns [⟨x, e'⟩]
          (second (assignRow t.columns calls (first row) row))
          (assignRow t.columns calls (first row) row) =
        withCell (AssignmentPlan.make t.columns calls).columns
          (assignRow t.columns calls (first row) row) x (result row ⟨x, e⟩) := by
    rw [← hvalue row hrow]
    exact assignRow_singleton (length_assignRow hlength)
  rw [assignRow_singleton hlength,
    ← map_cellAt_withCell_assignRow (first row) _ ht.nodup_columns hlength hx hnew,
    ← hout, ← hw, ← hcolumns]
  rfl

/-- On the rows with the calls in them the second evaluator gives what the first one does over the
nested tables. -/
theorem Expr.Precomputes.eval_assignRow (he : e.Precomputes calls e') (ht : t.WellFormed)
    (hcolumns : (calls.map (·.column)).Nodup) (hu : (t.reduced nested calls).WellFormed)
    (hrow : row ∈ t.rows) {inner : Table} (hinner : t.cell row nested = .nested inner)
    (hcalls : ∀ a ∈ calls, ∃ v, a.expr.aggregate inner = .ok v) :
    e'.eval (t.reduced nested calls).columns
        (assignRow t.columns calls (·.expr.valueOver (t.cell row nested)) row) =
      e.aggregate inner := by
  refine he.evalIn_eq fun a ha => ?_
  obtain ⟨v, hv⟩ := hcalls a ha
  refine ⟨v, hv, ?_⟩
  have hmem : a.column ∈ (AssignmentPlan.make t.columns calls).columns :=
    AssignmentPlan.mem_columns_make.2 (Or.inr ⟨a, ha, rfl⟩)
  refine (hu.cellNamed?_eq (List.mem_map_of_mem hrow) a.column).trans ?_
  refine (if_pos hmem).trans (congrArg some ?_)
  refine (cellAt_assignRow (ht.length_row hrow)).trans ?_
  rw [lastAssignment?_of_mem hcolumns ha]
  show a.expr.valueOver (t.cell row nested) = v
  rw [hinner, Expr.valueOver_eq hv]

/-- Both evaluators have a value on every row, or neither has. -/
theorem forall_exists_eval_iff
    (heval : ∀ row ∈ t.rows, ∃ inner, t.cell row nested = .nested inner ∧
      e'.eval (t.reduced nested calls).columns
        (assignRow t.columns calls (·.expr.valueOver (t.cell row nested)) row) =
          e.aggregate inner) :
    (∀ out ∈ (t.reduced nested calls).rows,
        ∃ v, e'.eval (t.reduced nested calls).columns out = .ok v) ↔
      ∀ row ∈ t.rows, ∃ inner, t.cell row nested = .nested inner ∧
        ∃ v, e.aggregate inner = .ok v := by
  refine List.forall_mem_map.trans (forall₂_congr fun row hrow => ?_)
  obtain ⟨inner, hinner, hvalue⟩ := heval row hrow
  rw [hvalue]
  constructor
  · intro hv
    exact ⟨inner, hinner, hv⟩
  · rintro ⟨inner', hinner', hv⟩
    rwa [Value.nested.inj (hinner.symm.trans hinner')]

/-- Removing the columns of the calls leaves the table that is computed at once, whether the
expression has values or not. -/
theorem removeColumns_assign (ht : t.WellFormed) (hu : (t.reduced nested calls).WellFormed)
    (hx : x ∉ calls.map (·.column)) (hnew : ∀ name ∈ calls.map (·.column), name ∉ t.columns)
    (heval : ∀ row ∈ t.rows, ∃ inner, t.cell row nested = .nested inner ∧
      e'.eval (t.reduced nested calls).columns
        (assignRow t.columns calls (·.expr.valueOver (t.cell row nested)) row) =
          e.aggregate inner) :
    removeColumns (calls.map (·.column)) ((t.reduced nested calls).transformed [⟨x, e'⟩]) =
      .ok (t.reduced nested [⟨x, e⟩]) := by
  have hmem : ∀ name ∈ calls.map (·.column), name ∈ (AssignmentPlan.make
      (AssignmentPlan.make t.columns calls).columns [⟨x, e'⟩]).columns := by
    intro name hname
    obtain ⟨a, ha, rfl⟩ := List.mem_map.1 hname
    exact AssignmentPlan.mem_columns_make.2
      (Or.inl (AssignmentPlan.mem_columns_make.2 (Or.inr ⟨a, ha, rfl⟩)))
  refine (removeColumns_eq_ok (AssignmentPlan.nodup_columns_make hu.nodup_columns) hmem).trans ?_
  refine congrArg Except.ok (mapRows_without_assign ht hx hnew fun row hrow => ?_)
  obtain ⟨inner, hinner, hvalue⟩ := heval row hrow
  show Expr.valueOn _ _ e' = e.valueOver (t.cell row nested)
  rw [Expr.valueOn, hvalue, hinner, Expr.valueOver]

/-- **A `reduce` in three stages**: computing over the nested tables is making the calls, computing
with their columns and removing these.  Where all calls have a value, either both succeed, with the
same table, or neither does. -/
theorem reduce_iff_precomputed (ht : t.WellFormed) (he : e.Precomputes calls e')
    (hcolumns : (calls.map (·.column)).Nodup) (hx : x ∉ calls.map (·.column))
    (hnew : ∀ name ∈ calls.map (·.column), name ∉ t.columns) (hnested : nested ∈ t.columns)
    (hcalls : ∀ row ∈ t.rows, ∃ inner, t.cell row nested = .nested inner ∧
      ∀ a ∈ calls, ∃ v, a.expr.aggregate inner = .ok v) :
    runOperations method [.reduce nested [⟨x, e⟩]] t = .ok u ↔
      runOperations method [.reduce nested calls, .transform [⟨x, e'⟩],
        .remove (calls.map (·.column))] t = .ok u := by
  have hreduce := reduceRows_eq_ok_iff.2 ⟨hnested, hcalls, rfl⟩
  have hwf := reduceRows_wellFormed ht hreduce
  have heval : ∀ row ∈ t.rows, ∃ inner, t.cell row nested = .nested inner ∧
      e'.eval (t.reduced nested calls).columns
        (assignRow t.columns calls (·.expr.valueOver (t.cell row nested)) row) =
          e.aggregate inner := by
    intro row hrow
    obtain ⟨inner, hinner, hall⟩ := hcalls row hrow
    exact ⟨inner, hinner, he.eval_assignRow ht hcolumns hwf hrow hinner hall⟩
  have hremove := removeColumns_assign ht hwf hx hnew heval
  have hstages : runOperations method [.reduce nested calls, .transform [⟨x, e'⟩],
      .remove (calls.map (·.column))] t = .ok u ↔ ∃ w,
        transformRows [⟨x, e'⟩] (t.reduced nested calls) = .ok w ∧
          removeColumns (calls.map (·.column)) w = .ok u := by
    rw [runOperations, Operation.apply, hreduce]
    show runOperations method [_, _] (t.reduced nested calls) = _ ↔ _
    rw [runOperations_pair]
    exact bind_eq_ok_iff
  rw [hstages, runOperations_singleton, Operation.apply]
  simp only [reduceRows_eq_ok_iff, transformRows_eq_ok_iff, List.forall_mem_singleton,
    forall_exists_eval_iff heval]
  constructor
  · rintro ⟨-, hvalues, rfl⟩
    exact ⟨_, ⟨hvalues, rfl⟩, hremove⟩
  · rintro ⟨_, ⟨hvalues, rfl⟩, hu⟩
    exact ⟨hnested, hvalues, Except.ok.inj (hremove.symm.trans hu)⟩

/-- The result stands in place of the nested tables, which the calls have been made over by then;
the second nested table has no number in it. -/
theorem reduce_iff_precomputed_replaced :
    let t : Table := ⟨["k", "g"],
      [[.string "a", .nested ⟨["v"], [[.integer 1], [.integer 5]]⟩],
       [.string "b", .nested ⟨["v"], [[.null]]⟩]]⟩
    let e : Expr := .unary .negate
      (.binary .divide (.call "sum" [.column "v"]) (.call "count" []))
    let calls : List Assignment :=
      [⟨"total", .call "sum" [.column "v"]⟩, ⟨"size", .call "count" []⟩]
    let e' : Expr := .unary .negate (.binary .divide (.column "total") (.column "size"))
    let u : Table := ⟨["k", "g"], [[.string "a", .integer (-3)], [.string "b", .null]]⟩
    t.WellFormed ∧ e.Precomputes calls e' ∧
      runOperations .standard [.reduce "g" [⟨"g", e⟩]] t = .ok u ∧
      runOperations .standard
        [.reduce "g" calls, .transform [⟨"g", e'⟩], .remove ["total", "size"]] t = .ok u := by
  intro t e calls e' u
  have ht : t.WellFormed := by
    rw [Table.wellFormed_iff]
    simp [t, Value.WellFormed, Table.wellFormed_iff]
  have he : e.Precomputes calls e' := .negate (.binary rfl (.call ..) (.call ..))
  have hcalls : ∀ row ∈ t.rows, ∃ inner, t.cell row "g" = .nested inner ∧
      ∀ a ∈ calls, ∃ v, a.expr.aggregate inner = .ok v := by
    simp only [t, calls, List.forall_mem_cons, List.not_mem_nil, false_imp_iff, implies_true,
      and_true]
    exact ⟨⟨_, rfl, ⟨_, rfl⟩, ⟨_, rfl⟩⟩, ⟨_, rfl, ⟨_, rfl⟩, ⟨_, rfl⟩⟩⟩
  have hreduce : runOperations .standard [.reduce "g" [⟨"g", e⟩]] t = .ok u := by rfl
  exact ⟨ht, he, hreduce, (reduce_iff_precomputed ht he (by decide) (by decide) (by decide)
    (by decide) hcalls).1 hreduce⟩

end Stages

end TablePipeline
