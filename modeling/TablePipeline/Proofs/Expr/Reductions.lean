import TablePipeline.Expr.Aggregate
import TablePipeline.Proofs.Table.Positions

/-!
# The expressions of `reduce`

Not every expression has a value over a table.  Those that may have one are built from literals and
calls of aggregate functions by arithmetic and minus (`Expr.IsReduction`).  No list of them is kept
anywhere: a column, a comparison or a function of cells is refused where it is met, and where it
stands deep inside of what is allowed, the refusal is that of the whole.  So an expression with a
value over any table at all is one of these.

Conversely such an expression is never refused for its form.  On a table that has the columns it
gathers, it only fails for the values in them: an operand or a summand of the wrong kind, or an
integer out of range (`EvalError.OfValues`).

## Main definitions

* `Expr.IsReduction` — what may have a value over a table
* `Expr.gathered` — the columns whose values its calls gather
* `EvalError.OfValues` — errors that depend on values

## Main statements

* `Expr.isReduction_of_aggregate` — nothing else has a value
* `Expr.IsReduction.ofValues_of_aggregate` — only values make it fail
* `aggregate_accepts_reductions` — both
-/

namespace TablePipeline

/-- Expressions that may have a value over a table.  Counting ignores its arguments, every other
function gathers one column. -/
inductive Expr.IsReduction : Expr → Prop
  | literal (l : Literal) : IsReduction (.literal l)
  | count (arguments : List Expr) : IsReduction (.call AggregateFunction.count.name arguments)
  | gathering {f : AggregateFunction} (ne_count : f ≠ .count) (name : String) :
      IsReduction (.call f.name [.column name])
  | binary {op : BinaryOp} {left right : Expr} (family : op.family = .arithmetic)
      (hleft : IsReduction left) (hright : IsReduction right) :
      IsReduction (.binary op left right)
  | negate {operand : Expr} (hoperand : IsReduction operand) :
      IsReduction (.unary .negate operand)

/-- The column that a call gathers.  Counting gathers none. -/
def gatheredBy (function : String) : List Expr → List String
  | [.column name] => if function = AggregateFunction.count.name then [] else [name]
  | _ => []

/-- The columns that the calls of an expression gather. -/
def Expr.gathered : Expr → List String
  | .binary _ left right => left.gathered ++ right.gathered
  | .unary _ operand => operand.gathered
  | .call function arguments => gatheredBy function arguments
  | _ => []

/-- The error depends on what the values are: one has the wrong kind, or a result does not fit. -/
inductive EvalError.OfValues : EvalError → Prop
  | operands (op : BinaryOp) (left right : Value.Kind) :
      OfValues (.typeFault (.arithmetic op left right))
  | operand (found : Value.Kind) : OfValues (.typeFault (.negation found))
  | gathered (function value : String) : OfValues (.typeFault (.notNumeric function value))
  | overflow (fault : OverflowFault) : OfValues (.overflow fault)

/-! ### Operators and functions -/

section Values

variable {op : BinaryOp} {m n : Int64} {a b : Value} {f : AggregateFunction} {values : List Value}
  {error : EvalError}

theorem ofValues_of_narrowResult {z : Int} (h : narrowResult op m n z = .error error) :
    error.OfValues := by
  unfold narrowResult at h
  split at h
  · cases h
  · cases h
    exact .overflow _

theorem ofValues_of_integerArithmetic (h : integerArithmetic op m n = .error error) :
    error.OfValues := by
  unfold integerArithmetic at h
  split at h
  · exact ofValues_of_narrowResult h
  · exact ofValues_of_narrowResult h
  · exact ofValues_of_narrowResult h
  · split at h
    · cases h
    · split at h
      · exact ofValues_of_narrowResult h
      · cases h

theorem ofValues_of_arithmetic (h : arithmetic op a b = .error error) : error.OfValues := by
  unfold arithmetic at h
  split at h
  · cases h
  · cases h
  · exact ofValues_of_integerArithmetic h
  · split at h
    · cases h
    · split at h
      · cases h
      · cases h
        exact .operands _ _ _

theorem ofValues_of_negate (h : negate a = .error error) : error.OfValues := by
  unfold negate at h
  split at h
  · cases h
  · split at h
    · cases h
    · cases h
      exact .overflow _
  · cases h
  · cases h
    exact .operand _

theorem ofValues_of_requireNumbers (h : requireNumbers f values = .error error) :
    error.OfValues := by
  unfold requireNumbers at h
  split at h
  · cases h
    exact .gathered _ _
  · cases h

theorem ofValues_of_sumIntegers {total : Int64} (h : sumIntegers total values = .error error) :
    error.OfValues := by
  fun_induction sumIntegers total values with
  | case1 => cases h
  | case2 _ _ _ _ _ ih => exact ih h
  | case3 =>
    cases h
    exact .overflow _
  | case4 _ _ _ _ ih => exact ih h

theorem ofValues_of_sumValues (h : sumValues values = .error error) : error.OfValues := by
  rcases bind_eq_error_iff.1 h with h | ⟨_, -, h⟩
  · exact ofValues_of_requireNumbers h
  · split at h
    · cases h
    · split at h
      · exact ofValues_of_sumIntegers (bind_pure_eq_error_iff.1 h)
      · split at h <;> cases h

theorem ofValues_of_averageValues (h : averageValues values = .error error) : error.OfValues := by
  rcases bind_eq_error_iff.1 h with h | ⟨_, -, h⟩
  · exact ofValues_of_requireNumbers h
  · split at h <;> cases h

theorem ofValues_of_extremeValue {wanted : Ordering}
    (h : extremeValue f wanted values = .error error) : error.OfValues := by
  rcases bind_eq_error_iff.1 h with h | ⟨_, -, h⟩
  · exact ofValues_of_requireNumbers h
  · cases values with
    | nil => cases h
    | cons first rest =>
      dsimp only at h
      split at h <;> cases h

end Values

/-! ### Calls -/

section Calls

variable {t : Table} {f : AggregateFunction} {name : String} {arguments : List Expr}
  {values : List Value} {error : EvalError}

/-- Where values are gathered, the only argument is a column. -/
theorem exists_column_of_gather (h : gather f arguments t = .ok values) :
    ∃ name, arguments = [.column name] := by
  unfold gather at h
  split at h
  · exact ⟨_, rfl⟩
  · cases h
  · cases h

/-- A column that exists is gathered. -/
theorem exists_gather_column (f : AggregateFunction) (h : name ∈ t.columns) :
    ∃ values, gather f [.column name] t = .ok values := by
  rw [gather, Table.columnIndex?_of_mem h]
  exact ⟨_, rfl⟩

/-- Every function but `count` gathers first, so that it has no value where it cannot. -/
theorem exists_gather_of_applyAggregate {v : Value} (hf : f ≠ .count)
    (h : applyAggregate f arguments t = .ok v) : ∃ values, gather f arguments t = .ok values := by
  cases f with
  | count => exact absurd rfl hf
  | sum | avg | min | max | first | last =>
    obtain ⟨values, hvalues, -⟩ := bind_eq_ok_iff.1 h
    exact ⟨values, hvalues⟩

/-- Once the values are gathered, only they can make the call fail. -/
theorem ofValues_of_applyAggregate (hgather : gather f arguments t = .ok values)
    (h : applyAggregate f arguments t = .error error) : error.OfValues := by
  cases f with
  | count => cases h
  | sum =>
    rw [applyAggregate, hgather] at h
    exact ofValues_of_sumValues h
  | avg =>
    rw [applyAggregate, hgather] at h
    exact ofValues_of_averageValues h
  | min | max =>
    rw [applyAggregate, hgather] at h
    exact ofValues_of_extremeValue h
  | first | last =>
    rw [applyAggregate, hgather] at h
    cases h

theorem applyAggregateCall_name (f : AggregateFunction) (arguments : List Expr) (t : Table) :
    applyAggregateCall f.name arguments t = applyAggregate f arguments t := by
  rw [applyAggregateCall, AggregateFunction.ofName?_name]

theorem AggregateFunction.name_injective : Function.Injective AggregateFunction.name := by
  intro f g heq
  have hf := AggregateFunction.ofName?_name f
  rw [heq, AggregateFunction.ofName?_name] at hf
  exact (Option.some.inj hf).symm

/-- A call that has a value is one of an aggregate function. -/
theorem exists_applyAggregate_of_call {function : String} {v : Value}
    (h : applyAggregateCall function arguments t = .ok v) :
    ∃ f : AggregateFunction, f.name = function ∧ applyAggregate f arguments t = .ok v := by
  unfold applyAggregateCall at h
  split at h
  · rename_i f hf
    exact ⟨f, AggregateFunction.name_of_ofName? hf, h⟩
  · split at h <;> cases h

end Calls

/-! ### Expressions -/

namespace Expr

variable {e : Expr} {t : Table} {error : EvalError}

/-- An expression with a value over some table is a reduction. -/
theorem isReduction_of_aggregate {v : Value} (h : e.aggregate t = .ok v) : e.IsReduction := by
  induction e generalizing v with
  | literal l => exact .literal l
  | column name => cases h
  | nullTest operand negated => cases h
  | binary op left right ihleft ihright =>
    rw [aggregate] at h
    split at h
    · rename_i family
      obtain ⟨a, ha, h⟩ := bind_eq_ok_iff.1 h
      obtain ⟨b, hb, -⟩ := bind_eq_ok_iff.1 h
      exact .binary family (ihleft ha) (ihright hb)
    · cases h
  | unary op operand ih =>
    cases op with
    | not => cases h
    | negate =>
      obtain ⟨a, ha, -⟩ := bind_eq_ok_iff.1 h
      exact .negate (ih ha)
  | call function arguments _ =>
    obtain ⟨f, rfl, happly⟩ := exists_applyAggregate_of_call h
    by_cases hf : f = .count
    · subst hf
      exact .count arguments
    · obtain ⟨values, hvalues⟩ := exists_gather_of_applyAggregate hf happly
      obtain ⟨name, rfl⟩ := exists_column_of_gather hvalues
      exact .gathering hf name

/-- A reduction fails for the values only, if the columns it gathers exist. -/
theorem IsReduction.ofValues_of_aggregate (he : e.IsReduction)
    (hcolumns : ∀ name ∈ e.gathered, name ∈ t.columns) (h : e.aggregate t = .error error) :
    error.OfValues := by
  induction he generalizing error with
  | literal l => cases h
  | count arguments => cases h
  | @gathering f ne_count name =>
    have hname : f.name ≠ AggregateFunction.count.name :=
      fun heq => ne_count (AggregateFunction.name_injective heq)
    have hmem : name ∈ t.columns := by
      refine hcolumns name ?_
      rw [gathered, gatheredBy, if_neg hname]
      exact List.mem_singleton_self name
    obtain ⟨values, hvalues⟩ := exists_gather_column f hmem
    rw [aggregate, applyAggregateCall_name] at h
    exact ofValues_of_applyAggregate hvalues h
  | @binary op left right family _ _ ihleft ihright =>
    rw [aggregate, if_pos family] at h
    -- the left operand fails, or the right one, or both have values and the operator fails
    rcases bind_eq_error_iff.1 h with h | ⟨a, -, h⟩
    · exact ihleft (fun name hname => hcolumns name (List.mem_append_left _ hname)) h
    · rcases bind_eq_error_iff.1 h with h | ⟨b, -, h⟩
      · exact ihright (fun name hname => hcolumns name (List.mem_append_right _ hname)) h
      · exact ofValues_of_arithmetic h
  | negate _ ih =>
    rcases bind_eq_error_iff.1 h with h | ⟨a, -, h⟩
    · exact ih hcolumns h
    · exact ofValues_of_negate h

end Expr

/-- **The expressions of `reduce`.**  An expression with a value over some table is a reduction, and
a reduction over a table that has the columns it gathers has a value, or fails for the kinds or the
size of values. -/
theorem aggregate_accepts_reductions (e : Expr) :
    ((∃ t v, e.aggregate t = .ok v) → e.IsReduction) ∧
    (e.IsReduction → ∀ t : Table, (∀ name ∈ e.gathered, name ∈ t.columns) →
      (∃ v, e.aggregate t = .ok v) ∨
        (∃ fault, e.aggregate t = .error (.typeFault fault)) ∨
        ∃ fault, e.aggregate t = .error (.overflow fault)) := by
  constructor
  · rintro ⟨t, v, h⟩
    exact e.isReduction_of_aggregate h
  · intro he t hcolumns
    cases h : e.aggregate t with
    | ok v => exact .inl ⟨v, rfl⟩
    | error error =>
      cases he.ofValues_of_aggregate hcolumns h with
      | operands | operand | gathered => exact .inr (.inl ⟨_, rfl⟩)
      | overflow fault => exact .inr (.inr ⟨fault, rfl⟩)

/-- A reduction may have a value over one table and fail over another one.  A column deep inside of
what would be a reduction makes it fail over every table. -/
theorem aggregate_accepts_reductions_nested :
    let average : Expr := .binary .divide (.call "sum" [.column "x"]) (.call "count" [.column "z"])
    let numbers : Table := ⟨["x"], [[.integer 2], [.integer 4]]⟩
    let texts : Table := ⟨["x"], [[.integer 2], [.string "a"]]⟩
    average.aggregate numbers = .ok (.integer 3) ∧ average.IsReduction ∧
      (∀ name ∈ average.gathered, name ∈ texts.columns) ∧
      (∃ fault, average.aggregate texts = .error (.typeFault fault)) ∧
      ∀ t v, (Expr.binary .add average (.unary .negate (.column "x"))).aggregate t ≠ .ok v := by
  intro average numbers texts
  have hvalue : average.aggregate numbers = .ok (.integer 3) := by
    simp only [average, numbers]
    rfl
  have haverage : average.IsReduction :=
    (aggregate_accepts_reductions average).1 ⟨numbers, _, hvalue⟩
  have hgathered : ∀ name ∈ average.gathered, name ∈ texts.columns := by decide
  refine ⟨hvalue, haverage, hgathered, ?_, ?_⟩
  · rcases (aggregate_accepts_reductions average).2 haverage texts hgathered with
      ⟨v, hv⟩ | hfault | ⟨fault, hfault⟩
    · cases hv
    · exact hfault
    · cases hfault
  · intro t v h
    cases (aggregate_accepts_reductions _).1 ⟨t, v, h⟩ with
    | binary _ _ hright =>
      cases hright with
      | negate hoperand => cases hoperand

end TablePipeline
