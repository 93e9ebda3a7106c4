import TablePipeline.Proofs.Pipeline.Projection

/-!
# Filters

A filter asks its condition for a truth value on every row.  Null is none, and the filter fails at
the first row on which the condition is not true or false, or has no value at all.  Otherwise it
keeps the rows on which the condition is true.

The operators see this differently.  For `and`, `or` and `not` null is false, and both operands of
`and` are evaluated, whereas a second filter evaluates its condition on the rows only that the first
one has kept.  So a filter by a conjunction may succeed where the filters by its parts do not.  But
where these succeed all values are true or false, and then the laws are those of truth values: the
order of two filters does not matter, both together are one by the conjunction, and the negation
keeps what the condition drops.

## Main definitions

* `Expr.IsTruthOn` — the condition is true or false on a row
* `Expr.holdsOn` — the condition is true on a row
* `Expr.Offends` — the error at a row without a truth value

## Main statements

* `keepWhere_eq_ok_iff`, `keepWhere_eq_error_iff` — the rows that are kept, and the first failure
* `filter_conjunction_complement` — the laws
-/

namespace TablePipeline

variable {a b condition : Expr} {columns : List String} {row : Row} {rows kept : List Row}
  {e : StageError} {p q : Bool} {t u : Table} {method : SortMethod}

/-! ### Conditions on a row -/

namespace Expr

/-- The condition is true or false on a row. -/
def IsTruthOn (condition : Expr) (columns : List String) (row : Row) : Prop :=
  ∃ p, condition.eval columns row = .ok (.boolean p)

/-- Whether the condition is true on a row. -/
def holdsOn (condition : Expr) (columns : List String) (row : Row) : Bool :=
  match condition.eval columns row with
  | .ok (.boolean p) => p
  | _ => false

/-- The error that a filter reports at a row on which its condition is not true or false. -/
inductive Offends (condition : Expr) (columns : List String) (row : Row) : StageError → Prop
  | fails {fault : EvalError} (h : condition.eval columns row = .error fault) :
      Offends condition columns row (.eval (.stage "filter") fault)
  | notTruth {v : Value} (h : condition.eval columns row = .ok v) (hkind : v.kind ≠ .boolean) :
      Offends condition columns row (.filterNotBoolean v.kind)

theorem holdsOn_of_eval (h : condition.eval columns row = .ok (.boolean p)) :
    condition.holdsOn columns row = p := by
  rw [holdsOn, h]

theorem IsTruthOn.eval_eq (h : condition.IsTruthOn columns row) :
    condition.eval columns row = .ok (.boolean (condition.holdsOn columns row)) := by
  obtain ⟨p, hp⟩ := h
  rw [holdsOn_of_eval hp, hp]

/-- On truth values `and` is the conjunction. -/
theorem eval_and (ha : a.eval columns row = .ok (.boolean p))
    (hb : b.eval columns row = .ok (.boolean q)) :
    (Expr.binary .and a b).eval columns row = .ok (.boolean (p && q)) := by
  rw [eval] at ha hb ⊢
  rw [evalIn, ha, hb]
  rfl

/-- On truth values `not` is the negation. -/
theorem eval_not (ha : a.eval columns row = .ok (.boolean p)) :
    (Expr.unary .not a).eval columns row = .ok (.boolean !p) := by
  rw [eval] at ha ⊢
  rw [evalIn, ha]
  rfl

end Expr

/-! ### The loop -/

theorem conditionHolds_eq_ok_iff :
    conditionHolds condition columns row = .ok p ↔
      condition.eval columns row = .ok (.boolean p) := by
  rw [conditionHolds, bind_eq_ok_iff]
  constructor
  · rintro ⟨v, hv, hp⟩
    cases v with
    | boolean p' =>
      cases hp
      exact ofEval_eq_ok_iff.1 hv
    | null | integer | float | string | nested => cases hp
  · intro h
    exact ⟨_, ofEval_eq_ok_iff.2 h, rfl⟩

theorem conditionHolds_eq_error_iff :
    conditionHolds condition columns row = .error e ↔ condition.Offends columns row e := by
  rw [conditionHolds, bind_eq_error_iff]
  constructor
  · rintro (h | ⟨v, hv, he⟩)
    · obtain ⟨fault, hfault, rfl⟩ := ofEval_eq_error_iff.1 h
      exact .fails hfault
    · have heval := ofEval_eq_ok_iff.1 hv
      cases v with
      | boolean p => cases he
      | null | integer | float | string | nested =>
        cases he
        exact .notTruth heval (by simp [Value.kind])
  · intro h
    cases h with
    | fails heval => exact .inl (ofEval_eq_error_iff.2 ⟨_, heval, rfl⟩)
    | @notTruth v heval hkind =>
      refine .inr ⟨v, ofEval_eq_ok_iff.2 heval, ?_⟩
      cases v with
      | boolean p => exact absurd rfl hkind
      | null | integer | float | string | nested => rfl

/-- The loop succeeds exactly when the condition has a truth value on each row, and then it has kept
the rows on which the condition is true. -/
theorem keepWhere_eq_ok_iff :
    keepWhere condition columns rows = .ok kept ↔
      (∀ row ∈ rows, condition.IsTruthOn columns row) ∧
        rows.filter (condition.holdsOn columns) = kept := by
  induction rows generalizing kept with
  | nil => simp [keepWhere, pure_eq_ok_iff]
  | cons row rest ih =>
    rw [keepWhere, bind_eq_ok_iff, List.forall_mem_cons]
    constructor
    · rintro ⟨p, hp, h⟩
      obtain ⟨kept', hkept, h⟩ := bind_eq_ok_iff.1 h
      obtain ⟨hrest, rfl⟩ := ih.1 hkept
      have heval := conditionHolds_eq_ok_iff.1 hp
      refine ⟨⟨⟨p, heval⟩, hrest⟩, ?_⟩
      rw [List.filter_cons, Expr.holdsOn_of_eval heval]
      exact pure_eq_ok_iff.1 h
    · rintro ⟨⟨hrow, hrest⟩, rfl⟩
      refine ⟨_, conditionHolds_eq_ok_iff.2 hrow.eval_eq, ?_⟩
      refine bind_eq_ok_iff.2 ⟨_, ih.2 ⟨hrest, rfl⟩, ?_⟩
      rw [List.filter_cons, pure_eq_ok_iff]

/-- The loop fails at the first row on which the condition has no truth value. -/
theorem keepWhere_eq_error_iff :
    keepWhere condition columns rows = .error e ↔
      ∃ before row after, rows = before ++ row :: after ∧
        (∀ other ∈ before, condition.IsTruthOn columns other) ∧
          condition.Offends columns row e := by
  induction rows with
  | nil => simp [keepWhere, pure, Except.pure]
  | cons first rest ih =>
    rw [keepWhere, bind_eq_error_iff]
    simp only [bind_pure_eq_error_iff, conditionHolds_eq_error_iff, conditionHolds_eq_ok_iff, ih]
    constructor
    · rintro (hfirst | ⟨p, hp, before, row, after, rfl, hbefore, hrow⟩)
      · exact ⟨[], first, rest, rfl, List.forall_mem_nil _, hfirst⟩
      · refine ⟨first :: before, row, after, rfl, ?_, hrow⟩
        rw [List.forall_mem_cons]
        exact ⟨⟨p, hp⟩, hbefore⟩
    · rintro ⟨before, row, after, hrows, hbefore, hrow⟩
      cases before with
      | nil =>
        cases hrows
        exact .inl hrow
      | cons other before =>
        cases hrows
        rw [List.forall_mem_cons] at hbefore
        obtain ⟨⟨p, hp⟩, hbefore⟩ := hbefore
        exact .inr ⟨p, hp, before, row, after, rfl, hbefore, hrow⟩

/-! ### The stage -/

namespace Table

/-- The rows that are kept, under the same columns. -/
def keeping (t : Table) (keep : Row → Bool) : Table :=
  ⟨t.columns, t.rows.filter keep⟩

end Table

theorem filterRows_eq_ok_iff :
    filterRows condition t = .ok u ↔
      (∀ row ∈ t.rows, condition.IsTruthOn t.columns row) ∧
        t.keeping (condition.holdsOn t.columns) = u := by
  rw [filterRows, bind_eq_ok_iff]
  simp only [keepWhere_eq_ok_iff, pure_eq_ok_iff]
  constructor
  · rintro ⟨kept, ⟨htruth, rfl⟩, rfl⟩
    exact ⟨htruth, rfl⟩
  · rintro ⟨htruth, rfl⟩
    exact ⟨_, ⟨htruth, rfl⟩, rfl⟩

theorem filterRows_eq_error_iff :
    filterRows condition t = .error e ↔
      ∃ before row after, t.rows = before ++ row :: after ∧
        (∀ other ∈ before, condition.IsTruthOn t.columns other) ∧
          condition.Offends t.columns row e := by
  rw [filterRows, bind_pure_eq_error_iff, keepWhere_eq_error_iff]

/-- Filtering by truth values. -/
theorem filterRows_eq_ok {keep : Row → Bool}
    (h : ∀ row ∈ t.rows, condition.eval t.columns row = .ok (.boolean (keep row))) :
    filterRows condition t = .ok (t.keeping keep) := by
  refine filterRows_eq_ok_iff.2 ⟨fun row hrow => ⟨keep row, h row hrow⟩, ?_⟩
  refine congrArg (Table.mk t.columns) (List.filter_congr fun row hrow => ?_)
  exact Expr.holdsOn_of_eval (h row hrow)

/-- The second filter has a truth value on each row that the first one has kept. -/
theorem runOperations_filter_filter (ha : ∀ row ∈ t.rows, a.IsTruthOn t.columns row)
    (hb : ∀ row ∈ t.rows, b.IsTruthOn t.columns row) :
    runOperations method [.filter a, .filter b] t =
      .ok (t.keeping fun row => a.holdsOn t.columns row && b.holdsOn t.columns row) := by
  have hfirst : filterRows a t = .ok (t.keeping (a.holdsOn t.columns)) :=
    filterRows_eq_ok_iff.2 ⟨ha, rfl⟩
  have hsecond : filterRows b (t.keeping (a.holdsOn t.columns)) =
      .ok ((t.keeping (a.holdsOn t.columns)).keeping (b.holdsOn t.columns)) := by
    refine filterRows_eq_ok_iff.2 ⟨fun row hrow => hb row ?_, rfl⟩
    exact List.mem_of_mem_filter hrow
  rw [runOperations_pair, Operation.apply, hfirst]
  refine hsecond.trans (congrArg (fun rows => Except.ok (Table.mk t.columns rows)) ?_)
  show (t.rows.filter (a.holdsOn t.columns)).filter (b.holdsOn t.columns) = _
  rw [List.filter_filter]
  exact List.filter_congr fun row _ => Bool.and_comm _ _

/-- **The laws of filters.**  A filter succeeds exactly when its condition is true or false on every
row, and otherwise its error is that at the first row where it is not.  It keeps the rows on which
the condition is true, and a filter by the negation keeps the others.  Where the filters by two
conditions succeed, both of them in either order and the filter by their conjunction come to the
same. -/
theorem filter_conjunction_complement (method : SortMethod) (t : Table) (a : Expr) :
    ((∃ u, (Operation.filter a).apply method t = .ok u) ↔
      ∀ row ∈ t.rows, a.IsTruthOn t.columns row) ∧
    (∀ e, (Operation.filter a).apply method t = .error e ↔
      ∃ before row after, t.rows = before ++ row :: after ∧
        (∀ other ∈ before, a.IsTruthOn t.columns other) ∧ a.Offends t.columns row e) ∧
    (∀ u, (Operation.filter a).apply method t = .ok u →
      u = t.keeping (a.holdsOn t.columns) ∧
        (Operation.filter (.unary .not a)).apply method t =
          .ok (t.keeping fun row => !a.holdsOn t.columns row)) ∧
    ∀ b u v, (Operation.filter a).apply method t = .ok u →
      (Operation.filter b).apply method t = .ok v →
      ∃ w, w = t.keeping (fun row => a.holdsOn t.columns row && b.holdsOn t.columns row) ∧
        runOperations method [.filter a, .filter b] t = .ok w ∧
        runOperations method [.filter b, .filter a] t = .ok w ∧
        runOperations method [.filter (.binary .and a b)] t = .ok w := by
  refine ⟨?_, fun e => filterRows_eq_error_iff, ?_, ?_⟩
  · constructor
    · rintro ⟨u, hu⟩
      exact (filterRows_eq_ok_iff.1 hu).1
    · intro htruth
      exact ⟨_, filterRows_eq_ok_iff.2 ⟨htruth, rfl⟩⟩
  · intro u hu
    obtain ⟨htruth, rfl⟩ := filterRows_eq_ok_iff.1 hu
    exact ⟨rfl, filterRows_eq_ok fun row hrow => Expr.eval_not (htruth row hrow).eval_eq⟩
  · intro b u v hu hv
    have ha := (filterRows_eq_ok_iff.1 hu).1
    have hb := (filterRows_eq_ok_iff.1 hv).1
    refine ⟨_, rfl, runOperations_filter_filter ha hb, ?_, ?_⟩
    · rw [runOperations_filter_filter hb ha]
      simp only [Bool.and_comm]
    · rw [runOperations_singleton]
      exact filterRows_eq_ok fun row hrow =>
        Expr.eval_and (ha row hrow).eval_eq (hb row hrow).eval_eq

/-- The third condition is null on the second row: a filter by it fails there, and a filter by its
conjunction with another one does not. -/
theorem filter_conjunction_complement_null :
    let t : Table := ⟨["n", "s"], [[.integer 1, .string "x"], [.integer 5, .null],
      [.integer 7, .string "v"]]⟩
    let a : Expr := .binary .greater (.column "n") (.literal (.integer 2))
    let b : Expr := .nullTest (.column "s") false
    let c : Expr := .binary .greater (.column "s") (.literal (.string "w"))
    let both : Table := ⟨["n", "s"], [[.integer 5, .null]]⟩
    (∃ u, (Operation.filter a).apply .standard t = .ok u) ∧
      (∃ v, (Operation.filter b).apply .standard t = .ok v) ∧
      runOperations .standard [.filter a, .filter b] t = .ok both ∧
      runOperations .standard [.filter b, .filter a] t = .ok both ∧
      runOperations .standard [.filter (.binary .and a b)] t = .ok both ∧
      (Operation.filter (.unary .not a)).apply .standard t =
        .ok ⟨["n", "s"], [[.integer 1, .string "x"]]⟩ ∧
      (Operation.filter c).apply .standard t = .error (.filterNotBoolean .null) ∧
      ∃ u, (Operation.filter (.binary .and c a)).apply .standard t = .ok u := by
  intro t a b c both
  have ha : (Operation.filter a).apply .standard t = .ok (t.keeping (a.holdsOn t.columns)) := by rfl
  have hb : (Operation.filter b).apply .standard t = .ok (t.keeping (b.holdsOn t.columns)) := by rfl
  have laws := filter_conjunction_complement .standard t a
  obtain ⟨w, hw, hab, hba, hand⟩ := laws.2.2.2 b _ _ ha hb
  have hboth : w = both := hw
  rw [hboth] at hab hba hand
  refine ⟨⟨_, ha⟩, ⟨_, hb⟩, hab, hba, hand, (laws.2.2.1 _ ha).2, ?_, ⟨_, rfl⟩⟩
  refine ((filter_conjunction_complement .standard t c).2.1 _).2
    ⟨[[.integer 1, .string "x"]], [.integer 5, .null], [[.integer 7, .string "v"]], rfl, ?_, ?_⟩
  · rw [List.forall_mem_singleton]
    exact ⟨true, rfl⟩
  · have heval : c.eval t.columns [.integer 5, .null] = .ok .null := rfl
    exact .notTruth heval (by decide)

end TablePipeline
