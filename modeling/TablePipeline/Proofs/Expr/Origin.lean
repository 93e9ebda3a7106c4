import TablePipeline.Expr.Aggregate
import TablePipeline.Proofs.Table.Positions

/-!
# Where the values of expressions come from

Operators and functions compute scalars; none of them makes a table.  A table can only be handed
on: by a column reference, by `coalesce` and `if`, which give back the value of an argument, and
over a table by `first` and `last`, which give back a cell.  So the value of an expression is a
scalar or one of the cells that it was given.

## Main definitions

* `Value.IsScalar` — a value that is no table

## Main statements

* `arithmetic_isScalar`, `applyBinary_isScalar`, `applyUnary_isScalar` — operators
* `ScalarFunction.apply_isScalar_or_mem` — functions, from the outcomes of their arguments
* `Expr.evalIn_isScalar_or_cell` — expressions on a row
* `Expr.aggregate_isScalar_or_mem` — expressions over a table
-/

namespace TablePipeline

/-- A value that is no table. -/
def Value.IsScalar (v : Value) : Prop :=
  v.kind ≠ .table

section Scalars

variable (b : Bool) (n : Int64) (x : Float) (s : String)

@[simp] theorem Value.isScalar_null : Value.null.IsScalar := nofun

@[simp] theorem Value.isScalar_boolean : (Value.boolean b).IsScalar := nofun

@[simp] theorem Value.isScalar_integer : (Value.integer n).IsScalar := nofun

@[simp] theorem Value.isScalar_float : (Value.float x).IsScalar := nofun

@[simp] theorem Value.isScalar_string : (Value.string s).IsScalar := nofun

theorem Literal.value_isScalar (l : Literal) : l.value.IsScalar := by
  cases l <;> simp [Literal.value]

end Scalars

/-! ### Operators -/

section Operators

variable {op : BinaryOp} {m n : Int64} {a b v : Value}

theorem floatArithmetic_isScalar (op : BinaryOp) (x y : Float) :
    (floatArithmetic op x y).IsScalar := by
  unfold floatArithmetic
  split <;> simp

/-- A result in range is an integer; any other is an error. -/
theorem narrowResult_isScalar {z : Int} (h : narrowResult op m n z = .ok v) : v.IsScalar := by
  unfold narrowResult at h
  split at h
  · cases h
    simp
  · cases h

/-- Integers give an integer, or for a division null or a double. -/
theorem integerArithmetic_isScalar (h : integerArithmetic op m n = .ok v) : v.IsScalar := by
  unfold integerArithmetic at h
  split at h
  · exact narrowResult_isScalar h
  · exact narrowResult_isScalar h
  · exact narrowResult_isScalar h
  · split at h
    · cases h
      simp
    · split at h
      · exact narrowResult_isScalar h
      · cases h
        exact floatArithmetic_isScalar _ _ _

/-- **Arithmetic** gives null, a number or a string. -/
theorem arithmetic_isScalar (h : arithmetic op a b = .ok v) : v.IsScalar := by
  unfold arithmetic at h
  split at h
  · cases h
    simp
  · cases h
    simp
  · exact integerArithmetic_isScalar h
  · split at h
    · cases h
      simp
    · split at h
      · cases h
        exact floatArithmetic_isScalar _ _ _
      · cases h

/-- A comparison holds, does not hold or is null. -/
theorem compareValues_isScalar (h : compareValues op a b = .ok v) : v.IsScalar := by
  unfold compareValues at h
  split at h
  · split at h <;> cases h <;> simp
  · obtain ⟨o, -, h⟩ := bind_eq_ok_iff.1 h
    rw [← pure_eq_ok_iff.1 h]
    simp

theorem applyLogic_isScalar (h : applyLogic op a b = .ok v) : v.IsScalar := by
  obtain ⟨p, -, h⟩ := bind_eq_ok_iff.1 h
  obtain ⟨q, -, h⟩ := bind_eq_ok_iff.1 h
  rw [← pure_eq_ok_iff.1 h]
  simp

/-- **Binary operators** give scalars, whatever their operands are. -/
theorem applyBinary_isScalar (h : applyBinary op a b = .ok v) : v.IsScalar := by
  unfold applyBinary at h
  split at h
  · exact arithmetic_isScalar h
  · exact compareValues_isScalar h
  · exact applyLogic_isScalar h

theorem negate_isScalar (h : negate a = .ok v) : v.IsScalar := by
  unfold negate at h
  split at h
  · cases h
    simp
  · split at h <;> cases h
    simp
  · cases h
    simp
  · cases h

/-- **Unary operators** give scalars. -/
theorem applyUnary_isScalar {op : UnaryOp} (h : applyUnary op a = .ok v) : v.IsScalar := by
  cases op with
  | not =>
    obtain ⟨p, -, h⟩ := bind_eq_ok_iff.1 h
    rw [← pure_eq_ok_iff.1 h]
    simp
  | negate => exact negate_isScalar h

end Operators

/-! ### Functions -/

section Functions

variable {f : ScalarFunction} {arguments : List Outcome} {v : Value}

/-- A function of a text gives what it makes of the text, or null. -/
theorem applyTextFunction_isScalar {result : List Char → Value}
    (hresult : ∀ cs, (result cs).IsScalar) (h : applyTextFunction f arguments result = .ok v) :
    v.IsScalar := by
  unfold applyTextFunction at h
  split at h
  · obtain ⟨w, -, h⟩ := bind_eq_ok_iff.1 h
    rw [← pure_eq_ok_iff.1 h]
    split
    · simp
    · exact hresult _
  · cases h

/-- A test of a text holds, does not hold or is null. -/
theorem applyTextTest_isScalar {test : List Char → List Char → Except EvalError Bool}
    (h : applyTextTest f arguments test = .ok v) : v.IsScalar := by
  unfold applyTextTest at h
  split at h
  · obtain ⟨subject, -, h⟩ := bind_eq_ok_iff.1 h
    obtain ⟨w, -, h⟩ := bind_eq_ok_iff.1 h
    split at h
    · split at h
      · rw [← pure_eq_ok_iff.1 h]
        simp
      · obtain ⟨holds, -, h⟩ := bind_eq_ok_iff.1 h
        rw [← pure_eq_ok_iff.1 h]
        simp
    · cases h
  · cases h

theorem applySubstring_isScalar (h : applySubstring arguments = .ok v) : v.IsScalar := by
  unfold applySubstring at h
  split at h
  · obtain ⟨subject, -, h⟩ := bind_eq_ok_iff.1 h
    split at h
    · rw [← pure_eq_ok_iff.1 h]
      simp
    · obtain ⟨w, -, h⟩ := bind_eq_ok_iff.1 h
      split at h
      · cases h
      · obtain ⟨w, -, h⟩ := bind_eq_ok_iff.1 h
        split at h
        · cases h
        · rw [← pure_eq_ok_iff.1 h]
          simp
  · cases h

/-- A part of a date is an integer; of null it is null. -/
theorem applyDatePart_isScalar {part : Date → Int}
    (h : applyDatePart f arguments part = .ok v) : v.IsScalar := by
  unfold applyDatePart at h
  split at h
  · obtain ⟨w, -, h⟩ := bind_eq_ok_iff.1 h
    split at h
    · rw [← pure_eq_ok_iff.1 h]
      simp
    · split at h
      · rw [← pure_eq_ok_iff.1 h]
        simp
      · cases h
    · cases h
  · cases h

/-- The first value that is not null is the value of an argument, if there is any. -/
theorem firstNonNull_isScalar_or_mem (h : firstNonNull arguments = .ok v) :
    v.IsScalar ∨ .ok v ∈ arguments := by
  induction arguments with
  | nil =>
    cases h
    simp
  | cons a rest ih =>
    obtain ⟨w, ha, h⟩ := bind_eq_ok_iff.1 h
    split at h
    · exact (ih h).imp_right (List.mem_cons_of_mem _)
    · rw [← pure_eq_ok_iff.1 h, ha]
      exact Or.inr List.mem_cons_self

/-- A choice is between the values of the last two arguments. -/
theorem mem_of_applyChoice (h : applyChoice arguments = .ok v) : .ok v ∈ arguments := by
  unfold applyChoice at h
  split at h
  · obtain ⟨w, -, h⟩ := bind_eq_ok_iff.1 h
    split at h
    · rename_i b _
      cases b with
      | false =>
        rw [if_neg Bool.false_ne_true] at h
        simp [h]
      | true =>
        rw [if_pos rfl] at h
        simp [h]
    · cases h
  · cases h

/-- A function gives a scalar or hands on the value of an argument. -/
theorem ScalarFunction.apply_isScalar_or_mem (h : f.apply arguments = .ok v) :
    v.IsScalar ∨ .ok v ∈ arguments := by
  cases f with
  | upper | lower | trim | len =>
    dsimp only [ScalarFunction.apply] at h
    exact Or.inl (applyTextFunction_isScalar (fun _ => by simp) h)
  | substr => exact Or.inl (applySubstring_isScalar h)
  | coalesce =>
    dsimp only [ScalarFunction.apply] at h
    split at h
    · cases h
    · exact firstNonNull_isScalar_or_mem h
  | choose => exact Or.inr (mem_of_applyChoice h)
  | year | month | day =>
    dsimp only [ScalarFunction.apply] at h
    exact Or.inl (applyDatePart_isScalar h)
  | contains | startsWith | endsWith | matchesPattern =>
    dsimp only [ScalarFunction.apply] at h
    exact Or.inl (applyTextTest_isScalar h)

/-- The same by name; a name of no function gives nothing. -/
theorem applyCall_isScalar_or_mem {function : String} (h : applyCall function arguments = .ok v) :
    v.IsScalar ∨ .ok v ∈ arguments := by
  unfold applyCall at h
  split at h
  · exact ScalarFunction.apply_isScalar_or_mem h
  · split at h <;> cases h

end Functions

/-! ### Expressions on a row -/

/-- The value of an expression is a scalar or one of the cells. -/
theorem Expr.evalIn_isScalar_or_cell {cell : String → Option Value} {e : Expr} {v : Value}
    (h : e.evalIn cell = .ok v) : v.IsScalar ∨ ∃ name, cell name = some v := by
  induction e generalizing v with
  | literal l =>
    cases h
    exact Or.inl l.value_isScalar
  | column name =>
    rw [Expr.evalIn] at h
    split at h
    · rename_i w hw
      cases h
      exact Or.inr ⟨name, hw⟩
    · cases h
  | binary op left right _ _ =>
    rw [Expr.evalIn] at h
    obtain ⟨a, -, h⟩ := bind_eq_ok_iff.1 h
    obtain ⟨b, -, h⟩ := bind_eq_ok_iff.1 h
    exact Or.inl (applyBinary_isScalar h)
  | unary op operand _ =>
    rw [Expr.evalIn] at h
    obtain ⟨a, -, h⟩ := bind_eq_ok_iff.1 h
    exact Or.inl (applyUnary_isScalar h)
  | call function arguments ih =>
    rw [Expr.evalIn, evalArguments_eq_map] at h
    -- what a function hands on is the value of an argument, an expression again
    rcases applyCall_isScalar_or_mem h with h | h
    · exact Or.inl h
    · obtain ⟨e, he, heq⟩ := List.mem_map.1 h
      exact ih e he heq
  | nullTest operand negated _ =>
    rw [Expr.evalIn] at h
    obtain ⟨a, -, h⟩ := bind_eq_ok_iff.1 h
    rw [← pure_eq_ok_iff.1 h]
    simp

/-- A cell that is found under a name is one of the row. -/
theorem mem_of_cellNamed? {columns : List String} {row : Row} {name : String} {v : Value}
    (h : cellNamed? columns row name = some v) : v ∈ row := by
  obtain ⟨i, -, hi⟩ := Option.bind_eq_some_iff.1 h
  exact List.mem_of_getElem? hi

/-! ### Expressions over a table -/

section Aggregates

variable {t : Table} {f : AggregateFunction} {arguments : List Expr} {values : List Value}
  {v : Value}

/-- Where a row has no cell, null is read. -/
theorem cellAt_isScalar_or_mem (row : Row) (i : Nat) :
    (cellAt row i).IsScalar ∨ cellAt row i ∈ row := by
  rw [cellAt]
  cases hi : row[i]? with
  | none => exact Or.inl Value.isScalar_null
  | some v => exact Or.inr (List.mem_of_getElem? hi)

/-- Gathered values are cells. -/
theorem isScalar_or_mem_of_gather (h : gather f arguments t = .ok values) (hv : v ∈ values) :
    v.IsScalar ∨ ∃ row ∈ t.rows, v ∈ row := by
  unfold gather at h
  split at h
  · split at h
    · cases h
      obtain ⟨row, hrow, rfl⟩ := List.mem_map.1 (List.mem_filter.1 hv).1
      exact (cellAt_isScalar_or_mem row _).imp_right fun hmem => ⟨row, hrow, hmem⟩
    · cases h
  · cases h
  · cases h

/-- A sum is null, an integer or a double. -/
theorem sumValues_isScalar (h : sumValues values = .ok v) : v.IsScalar := by
  obtain ⟨_, -, h⟩ := bind_eq_ok_iff.1 h
  split at h
  · cases h
    simp
  · split at h
    · obtain ⟨total, -, h⟩ := bind_eq_ok_iff.1 h
      rw [← pure_eq_ok_iff.1 h]
      simp
    · split at h <;> cases h <;> simp

theorem averageValues_isScalar (h : averageValues values = .ok v) : v.IsScalar := by
  obtain ⟨_, -, h⟩ := bind_eq_ok_iff.1 h
  split at h
  · cases h
    simp
  · rw [← pure_eq_ok_iff.1 h]
    simp

/-- Values that pass the check are numbers. -/
theorem isNumeric_of_requireNumbers (h : requireNumbers f values = .ok ()) (hv : v ∈ values) :
    v.isNumeric = true := by
  unfold requireNumbers at h
  split at h
  · cases h
  · rename_i hnone
    simpa using List.find?_eq_none.1 hnone v hv

theorem isScalar_of_isNumeric (h : v.isNumeric = true) : v.IsScalar := by
  cases v <;> first | simp | cases h

/-- The best value is one of those it was chosen from. -/
theorem bestValue_mem (wanted : Ordering) (best : Value) (values : List Value) :
    bestValue wanted best values ∈ best :: values := by
  induction values generalizing best with
  | nil => exact List.mem_singleton_self best
  | cons w rest ih =>
    rw [bestValue]
    split
    · exact List.mem_cons_of_mem _ (ih w)
    · rcases List.mem_cons.1 (ih best) with h | h
      · rw [h]
        exact List.mem_cons_self
      · exact List.mem_cons_of_mem _ (List.mem_cons_of_mem _ h)

/-- The least and the greatest value have passed the check for numbers. -/
theorem extremeValue_isScalar {wanted : Ordering} (h : extremeValue f wanted values = .ok v) :
    v.IsScalar := by
  obtain ⟨_, hnum, h⟩ := bind_eq_ok_iff.1 h
  cases values with
  | nil =>
    cases h
    simp
  | cons first rest =>
    dsimp only at h
    split at h
    -- the best value is one of those that have been checked to be numbers
    · rw [← pure_eq_ok_iff.1 h]
      exact isScalar_of_isNumeric (isNumeric_of_requireNumbers hnum (bestValue_mem _ _ _))
    · rw [← pure_eq_ok_iff.1 h]
      cases (bestValue wanted first rest).toFloat? <;> simp

/-- **Aggregates**: `first` and `last` hand on a cell, all others compute. -/
theorem applyAggregate_isScalar_or_mem (h : applyAggregate f arguments t = .ok v) :
    v.IsScalar ∨ ∃ row ∈ t.rows, v ∈ row := by
  cases f with
  | count =>
    cases h
    simp
  | sum =>
    obtain ⟨values, -, h⟩ := bind_eq_ok_iff.1 h
    exact Or.inl (sumValues_isScalar h)
  | avg =>
    obtain ⟨values, -, h⟩ := bind_eq_ok_iff.1 h
    exact Or.inl (averageValues_isScalar h)
  | min =>
    obtain ⟨values, -, h⟩ := bind_eq_ok_iff.1 h
    exact Or.inl (extremeValue_isScalar h)
  | max =>
    obtain ⟨values, -, h⟩ := bind_eq_ok_iff.1 h
    exact Or.inl (extremeValue_isScalar h)
  | first =>
    obtain ⟨values, hvalues, h⟩ := bind_eq_ok_iff.1 h
    rw [← pure_eq_ok_iff.1 h]
    cases hhead : values.head? with
    | none => simp
    | some w => exact isScalar_or_mem_of_gather hvalues (List.mem_of_head? hhead)
  | last =>
    obtain ⟨values, hvalues, h⟩ := bind_eq_ok_iff.1 h
    rw [← pure_eq_ok_iff.1 h]
    cases hlast : values.getLast? with
    | none => simp
    | some w => exact isScalar_or_mem_of_gather hvalues (List.mem_of_getLast? hlast)

/-- The value of an expression over a table is a scalar or one of its cells. -/
theorem Expr.aggregate_isScalar_or_mem {e : Expr} (h : e.aggregate t = .ok v) :
    v.IsScalar ∨ ∃ row ∈ t.rows, v ∈ row := by
  cases e with
  | literal l =>
    cases h
    exact Or.inl l.value_isScalar
  | column name => cases h
  | binary op left right =>
    rw [Expr.aggregate] at h
    split at h
    · obtain ⟨a, -, h⟩ := bind_eq_ok_iff.1 h
      obtain ⟨b, -, h⟩ := bind_eq_ok_iff.1 h
      exact Or.inl (arithmetic_isScalar h)
    · cases h
  | unary op operand =>
    cases op with
    | not => cases h
    | negate =>
      obtain ⟨a, -, h⟩ := bind_eq_ok_iff.1 h
      exact Or.inl (negate_isScalar h)
  | call function arguments =>
    rw [Expr.aggregate, applyAggregateCall] at h
    split at h
    · exact applyAggregate_isScalar_or_mem h
    · split at h <;> cases h
  | nullTest operand negated => cases h

end Aggregates

end TablePipeline
