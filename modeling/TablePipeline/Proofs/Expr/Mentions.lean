import TablePipeline.Expr.Aggregate

/-!
# Columns that an expression names

An expression sees a row, or a table, through the columns it names and nothing else.  For values on
a row this is `Expr.evalIn_congr`: two rows with the same cells under every name that the expression
names give the same value or the same error.  For values over a table it is `Expr.aggregate_congr`:
two tables with as many rows, and with the same values under every such name, do.

So nothing depends on the names themselves.  An expression may be given other names throughout
(`Expr.mapColumns`), and where the cells stand under these the value on a row is the same.  Only the
error of a column that is missing tells its name, which for this reason has to stay.

## Main definitions

* `Expr.mentions` — the names of columns in an expression
* `Expr.mapColumns` — the expression with other names
* `Table.valuesOf?` — the values of a column by name

## Main statements

* `Expr.evalIn_congr` — what the value on a row depends on
* `Expr.evalIn_mapColumns` — the value on a row under other names
* `Expr.aggregate_congr` — what the value over a table depends on
-/

namespace TablePipeline

mutual

/-- The names of the columns in an expression, arguments of calls included. -/
def Expr.mentions : Expr → List String
  | .literal _ => []
  | .column name => [name]
  | .binary _ left right => left.mentions ++ right.mentions
  | .unary _ operand => operand.mentions
  | .call _ arguments => argumentMentions arguments
  | .nullTest operand _ => operand.mentions

/-- The names of the columns in arguments. -/
def argumentMentions : List Expr → List String
  | [] => []
  | e :: rest => e.mentions ++ argumentMentions rest

end

mutual

/-- The expression with other names for its columns, arguments of calls included. -/
def Expr.mapColumns (f : String → String) : Expr → Expr
  | .literal l => .literal l
  | .column name => .column (f name)
  | .binary op left right => .binary op (left.mapColumns f) (right.mapColumns f)
  | .unary op operand => .unary op (operand.mapColumns f)
  | .call function arguments => .call function (mapArgumentColumns f arguments)
  | .nullTest operand negated => .nullTest (operand.mapColumns f) negated

/-- The arguments with other names for their columns. -/
def mapArgumentColumns (f : String → String) : List Expr → List Expr
  | [] => []
  | e :: rest => e.mapColumns f :: mapArgumentColumns f rest

end

/-- The values of the column of a given name, from top to bottom. -/
def Table.valuesOf? (t : Table) (name : String) : Option (List Value) :=
  (t.columnIndex? name).map t.column

theorem argumentMentions_eq_flatMap (arguments : List Expr) :
    argumentMentions arguments = arguments.flatMap Expr.mentions := by
  induction arguments with
  | nil => rfl
  | cons e rest ih => rw [argumentMentions, ih, List.flatMap_cons]

theorem mapArgumentColumns_eq_map (f : String → String) (arguments : List Expr) :
    mapArgumentColumns f arguments = arguments.map (·.mapColumns f) := by
  induction arguments with
  | nil => rfl
  | cons e rest ih => rw [mapArgumentColumns, ih, List.map_cons]

/-- An argument names no more than the call does. -/
theorem mem_mentions_call {function name : String} {arguments : List Expr} {e : Expr}
    (he : e ∈ arguments) (hname : name ∈ e.mentions) :
    name ∈ (Expr.call function arguments).mentions := by
  rw [Expr.mentions, argumentMentions_eq_flatMap]
  exact List.mem_flatMap_of_mem he hname

/-- **What a value on a row depends on**: the cells under the names that the expression names.  An
argument that a call leaves out of account is no exception, for its outcome is the same too. -/
theorem Expr.evalIn_congr {cell cell' : String → Option Value} {e : Expr}
    (h : ∀ name ∈ e.mentions, cell name = cell' name) : e.evalIn cell = e.evalIn cell' := by
  induction e with
  | literal l => rfl
  | column name =>
    rw [Expr.evalIn, Expr.evalIn, h name List.mem_cons_self]
  | nullTest operand negated ih =>
    rw [Expr.evalIn, Expr.evalIn, ih h]
  | call function arguments ih =>
    have harguments : ∀ e ∈ arguments, e.evalIn cell = e.evalIn cell' := by
      intro e he
      exact ih e he fun name hname => h name (mem_mentions_call he hname)
    rw [Expr.evalIn, Expr.evalIn, evalArguments_eq_map, evalArguments_eq_map,
      List.map_congr_left harguments]
  | unary op operand ih =>
    rw [Expr.evalIn, Expr.evalIn, ih h]
  | binary op left right ihl ihr =>
    have hl := ihl fun name hname => h name (List.mem_append_left _ hname)
    have hr := ihr fun name hname => h name (List.mem_append_right _ hname)
    rw [Expr.evalIn, Expr.evalIn, hl, hr]

/-- **A value on a row under other names** is the value under the old ones, if each cell stands
under its new name and the names of missing columns stay. -/
theorem Expr.evalIn_mapColumns {f : String → String} {cell cell' : String → Option Value}
    {e : Expr}
    (h : ∀ name ∈ e.mentions, cell' (f name) = cell name ∧ (cell name = none → f name = name)) :
    (e.mapColumns f).evalIn cell' = e.evalIn cell := by
  induction e with
  | literal l => rfl
  | column name =>
    obtain ⟨hcell, hmissing⟩ := h name List.mem_cons_self
    rw [mapColumns, evalIn, evalIn, hcell]
    cases hname : cell name with
    | none => rw [hmissing hname]
    | some v => rfl
  | nullTest operand negated ih =>
    rw [mapColumns, evalIn, evalIn, ih h]
  | call function arguments ih =>
    have harguments : ∀ e ∈ arguments, (e.mapColumns f).evalIn cell' = e.evalIn cell := by
      intro e he
      exact ih e he fun name hname => h name (mem_mentions_call he hname)
    rw [mapColumns, evalIn, evalIn, evalArguments_eq_map, evalArguments_eq_map,
      mapArgumentColumns_eq_map, List.map_map]
    exact congrArg _ (List.map_congr_left harguments)
  | unary op operand ih =>
    rw [mapColumns, evalIn, evalIn, ih h]
  | binary op left right ihl ihr =>
    have hl := ihl fun name hname => h name (List.mem_append_left _ hname)
    have hr := ihr fun name hname => h name (List.mem_append_right _ hname)
    rw [mapColumns, evalIn, evalIn, hl, hr]

section Congruence

variable {t u : Table} {arguments : List Expr}

/-- What a call gathers depends on the columns that its arguments name. -/
theorem gather_congr (f : AggregateFunction)
    (h : ∀ name ∈ argumentMentions arguments, t.valuesOf? name = u.valuesOf? name) :
    gather f arguments t = gather f arguments u := by
  unfold gather
  split
  · rename_i name
    have hname : t.valuesOf? name = u.valuesOf? name :=
      h name (by simp [argumentMentions, Expr.mentions])
    rw [Table.valuesOf?, Table.valuesOf?] at hname
    cases ht : t.columnIndex? name with
    | none =>
      rw [ht, Option.map_none, eq_comm, Option.map_eq_none_iff] at hname
      rw [hname]
    | some i =>
      rw [ht, Option.map_some, eq_comm, Option.map_eq_some_iff] at hname
      obtain ⟨j, hu, hcolumn⟩ := hname
      simp only [hu, hcolumn]
  · rfl
  · rfl

theorem applyAggregateCall_congr (function : String) (hsize : t.size = u.size)
    (h : ∀ name ∈ argumentMentions arguments, t.valuesOf? name = u.valuesOf? name) :
    applyAggregateCall function arguments t = applyAggregateCall function arguments u := by
  unfold applyAggregateCall
  split
  · rename_i f _
    have hgather := gather_congr f h
    cases f with
    | count =>
      show Except.ok (Value.integer (Int64.ofInt t.size)) = _
      rw [hsize]
      rfl
    | _ => exact congrArg (· >>= _) hgather
  · rfl

/-- **What a value over a table depends on**: the number of rows and the columns that the
expression names. -/
theorem Expr.aggregate_congr {e : Expr} (hsize : t.size = u.size)
    (h : ∀ name ∈ e.mentions, t.valuesOf? name = u.valuesOf? name) :
    e.aggregate t = e.aggregate u := by
  induction e with
  | literal l => rfl
  | column name => rfl
  | nullTest operand negated => rfl
  | call function arguments => exact applyAggregateCall_congr function hsize h
  | unary op operand ih =>
    cases op with
    | not => rfl
    | negate =>
      rw [Expr.aggregate, Expr.aggregate, ih h]
  | binary op left right ihl ihr =>
    have hl := ihl fun name hname => h name (List.mem_append_left _ hname)
    have hr := ihr fun name hname => h name (List.mem_append_right _ hname)
    rw [Expr.aggregate, Expr.aggregate, hl, hr]

end Congruence

end TablePipeline
