import TablePipeline.Proofs.Expr.IntegerSums
import TablePipeline.Proofs.Expr.Origin
import TablePipeline.Proofs.Expr.Reductions
import TablePipeline.Proofs.Pipeline.SortLaws

/-!
# The least and the greatest value of a column

The least value of a column is found in one pass, which keeps the best value so far and replaces it
by a better one.  A sort finds it too: it is the first value that is not null when the rows are in
ascending order, and the last one when they are in descending order.  The pass and the sort go
through the rows in different ways and have comparisons of their own, and the sort has to put nulls
somewhere, which the pass never sees.

On a column of integers both end at the same value, because it can be said without either of them:
it is one of the values of the column, and no value of the column comes before it
(`Value.IsFirst`).  Equal integers are the same value, so there is only one such value
(`Value.IsFirst.unique`), and as nothing is said of places it does not depend on the order of the
rows.  The greatest value is the first one of the other direction.

## Main definitions

* `Value.IsFirst` — the first of some values in the order of a sort
* `Table.aggregated` — the outcome of an aggregate function over a column
* `Table.StartsWith` — the first value of a column in the order of a sort

## Main statements

* `Value.extremeValue_of_isInteger` — where the pass ends
* `Value.isFirstOrNull_head?`, `Value.isFirstOrNull_getLast?` — what sorted integers begin and end
  with
* `extremes_eq_ends_of_sorted` — the functions over a column
-/

namespace TablePipeline

namespace Value

/-! ### The first of some integers -/

section Integers

variable {descending : Bool} {values others : List Value} {u v w : Value} {m n : Int64}

/-- The value is one of the given ones, and none of them comes before it in a sort. -/
def IsFirst (descending : Bool) (values : List Value) (v : Value) : Prop :=
  v ∈ values ∧ ∀ w ∈ values, ¬w.Precedes descending v

/-- The outcome of a comparison by which a value comes before another one. -/
def beforeIn (descending : Bool) : Ordering :=
  if descending then .gt else .lt

theorem precedes_integer_iff :
    (integer m).Precedes descending (integer n) ↔
      if descending = true then n.toInt < m.toInt else m.toInt < n.toInt := by
  cases descending <;> simp [Precedes, isNull, Less, Int64.lt_iff_toInt_lt]

/-- The comparison of numbers puts integers in the order of a sort. -/
theorem compareNumbers_iff (hv : v.isInteger = true) (hw : w.isInteger = true) :
    v.compareNumbers w = beforeIn descending ↔ v.Precedes descending w := by
  obtain ⟨m, rfl⟩ := exists_eq_integer hv
  obtain ⟨n, rfl⟩ := exists_eq_integer hw
  rw [precedes_integer_iff, ← Int64.lt_iff_toInt_lt, ← Int64.lt_iff_toInt_lt]
  cases descending with
  | false => exact Std.compare_eq_lt
  | true => exact Std.compare_eq_gt

/-- In the other direction integers come the other way round. -/
theorem precedes_not_iff (hv : v.isInteger = true) (hw : w.isInteger = true) :
    v.Precedes (!descending) w ↔ w.Precedes descending v := by
  obtain ⟨m, rfl⟩ := exists_eq_integer hv
  obtain ⟨n, rfl⟩ := exists_eq_integer hw
  rw [precedes_integer_iff, precedes_integer_iff]
  cases descending <;> simp

theorem not_precedes_of_precedes (hv : v.isInteger = true) (hw : w.isInteger = true)
    (h : v.Precedes descending w) : ¬w.Precedes descending v := by
  obtain ⟨m, rfl⟩ := exists_eq_integer hv
  obtain ⟨n, rfl⟩ := exists_eq_integer hw
  rw [precedes_integer_iff] at h ⊢
  cases descending <;> simp at h ⊢ <;> omega

theorem not_precedes_self (hv : v.isInteger = true) : ¬v.Precedes descending v :=
  fun h => not_precedes_of_precedes hv hv h h

theorem not_precedes_trans (hu : u.isInteger = true) (hv : v.isInteger = true)
    (hw : w.isInteger = true) (huv : ¬u.Precedes descending v)
    (hvw : ¬v.Precedes descending w) : ¬u.Precedes descending w := by
  obtain ⟨k, rfl⟩ := exists_eq_integer hu
  obtain ⟨m, rfl⟩ := exists_eq_integer hv
  obtain ⟨n, rfl⟩ := exists_eq_integer hw
  rw [precedes_integer_iff] at huv hvw ⊢
  cases descending <;> simp at huv hvw ⊢ <;> omega

/-- **There is only one** first integer. -/
theorem IsFirst.unique (hints : ∀ u ∈ values, u.isInteger = true)
    (hv : IsFirst descending values v) (hw : IsFirst descending values w) : v = w := by
  have hvw := hw.2 v hv.1
  have hwv := hv.2 w hw.1
  obtain ⟨m, rfl⟩ := exists_eq_integer (hints v hv.1)
  obtain ⟨n, rfl⟩ := exists_eq_integer (hints w hw.1)
  rw [precedes_integer_iff] at hvw hwv
  refine congrArg integer (Int64.toInt_inj.1 ?_)
  cases descending <;> simp at hvw hwv <;> omega

theorem IsFirst.of_perm (h : IsFirst descending values v) (hperm : others.Perm values) :
    IsFirst descending others v :=
  ⟨hperm.mem_iff.2 h.1, fun w hw => h.2 w (hperm.mem_iff.1 hw)⟩

/-- The first of some values in the order of a sort, or null if there are none. -/
def IsFirstOrNull (descending : Bool) (values : List Value) (v : Value) : Prop :=
  (values = [] ∧ v = .null) ∨ IsFirst descending values v

theorem IsFirst.ne_nil (h : IsFirst descending values v) : values ≠ [] :=
  List.ne_nil_of_mem h.1

theorem IsFirstOrNull.unique (hints : ∀ u ∈ values, u.isInteger = true)
    (hv : IsFirstOrNull descending values v) (hw : IsFirstOrNull descending values w) : v = w := by
  rcases hv with ⟨hnil, rfl⟩ | hv
  · rcases hw with ⟨-, rfl⟩ | hw
    · rfl
    · exact absurd hnil hw.ne_nil
  · rcases hw with ⟨hnil, -⟩ | hw
    · exact absurd hnil hv.ne_nil
    · exact hv.unique hints hw

/-- It does not depend on the order in which the values are given. -/
theorem IsFirstOrNull.of_perm (h : IsFirstOrNull descending values v)
    (hperm : others.Perm values) : IsFirstOrNull descending others v := by
  rcases h with ⟨rfl, hv⟩ | h
  · exact .inl ⟨hperm.eq_nil, hv⟩
  · exact .inr (h.of_perm hperm)

/-! ### The pass -/

/-- **A step of the pass** keeps one of two integers, and neither of them comes before it. -/
theorem exists_kept (descending : Bool) (hv : v.isInteger = true) (hw : w.isInteger = true)
    (rest : List Value) :
    ∃ kept, kept.isInteger = true ∧ ¬v.Precedes descending kept ∧ ¬w.Precedes descending kept ∧
      bestValue (beforeIn descending) v (w :: rest) =
        bestValue (beforeIn descending) kept rest := by
  rw [bestValue]
  by_cases hbefore : w.Precedes descending v
  · rw [if_pos (beq_iff_eq.2 ((compareNumbers_iff hw hv).2 hbefore))]
    exact ⟨w, hw, not_precedes_of_precedes hw hv hbefore, not_precedes_self hw, rfl⟩
  · rw [if_neg (mt beq_iff_eq.1 (mt (compareNumbers_iff hw hv).1 hbefore))]
    exact ⟨v, hv, not_precedes_self hv, hbefore, rfl⟩

/-- No integer that the pass goes through comes before the one it ends at. -/
theorem not_precedes_bestValue (hints : ∀ u ∈ v :: values, u.isInteger = true) :
    ∀ w ∈ v :: values, ¬w.Precedes descending (bestValue (beforeIn descending) v values) := by
  induction values generalizing v with
  | nil =>
    intro w hw
    rw [List.mem_singleton.1 hw]
    exact not_precedes_self (hints v List.mem_cons_self)
  | cons next rest ih =>
    obtain ⟨hv, hnext, hrest⟩ := by simpa only [List.forall_mem_cons] using hints
    obtain ⟨kept, hkept, hvkept, hnextkept, hstep⟩ :=
      exists_kept descending hv hnext rest
    have hall : ∀ u ∈ kept :: rest, u.isInteger = true := List.forall_mem_cons.2 ⟨hkept, hrest⟩
    have hend := hall _ (bestValue_mem (beforeIn descending) kept rest)
    have hbest := ih hall
    have hafter := hbest kept List.mem_cons_self
    rw [hstep]
    -- the two integers come no earlier than the one that is kept, and this one no earlier than
    -- the end
    rw [List.forall_mem_cons, List.forall_mem_cons]
    exact ⟨not_precedes_trans hv hkept hend hvkept hafter,
      not_precedes_trans hnext hkept hend hnextkept hafter,
      fun w hw => hbest w (List.mem_cons_of_mem _ hw)⟩

/-- **The pass** over integers ends at the first one. -/
theorem extremeValue_of_isInteger (descending : Bool) (f : AggregateFunction)
    (hints : ∀ u ∈ values, u.isInteger = true) :
    ∃ v, IsFirstOrNull descending values v ∧
      extremeValue f (beforeIn descending) values = .ok v := by
  rw [extremeValue.eq_def, requireNumbers_of_isInteger f hints]
  cases values with
  | nil => exact ⟨.null, .inl ⟨rfl, rfl⟩, rfl⟩
  | cons first rest =>
    refine ⟨_, .inr ⟨bestValue_mem (beforeIn descending) first rest,
      not_precedes_bestValue hints⟩, ?_⟩
    exact if_pos (List.all_eq_true.2 hints)

/-! ### The sort -/

/-- Sorted integers begin with the first one. -/
theorem isFirst_head {rest : List Value} (hints : ∀ u ∈ v :: rest, u.isInteger = true)
    (hsorted : (v :: rest).Pairwise fun a b => ¬b.Precedes descending a) :
    IsFirst descending (v :: rest) v := by
  refine ⟨List.mem_cons_self, List.forall_mem_cons.2 ⟨?_, ?_⟩⟩
  · exact not_precedes_self (hints v List.mem_cons_self)
  · exact (List.pairwise_cons.1 hsorted).1

theorem isFirstOrNull_head? (hints : ∀ u ∈ values, u.isInteger = true)
    (hsorted : values.Pairwise fun a b => ¬b.Precedes descending a) :
    IsFirstOrNull descending values (values.head?.getD .null) := by
  cases values with
  | nil => exact .inl ⟨rfl, rfl⟩
  | cons v rest => exact .inr (isFirst_head hints hsorted)

/-- Sorted integers end with the first one of the other direction. -/
theorem isFirstOrNull_getLast? (hints : ∀ u ∈ values, u.isInteger = true)
    (hsorted : values.Pairwise fun a b => ¬b.Precedes (!descending) a) :
    IsFirstOrNull descending values (values.getLast?.getD .null) := by
  -- from the end to the beginning they are in the order of the other direction
  have hreverse : values.reverse.Pairwise fun a b => ¬b.Precedes descending a := by
    rw [List.pairwise_reverse]
    refine hsorted.imp_of_mem fun {a b} ha hb hab => ?_
    rwa [precedes_not_iff (hints b hb) (hints a ha)] at hab
  have hhead := isFirstOrNull_head? (fun u hu => hints u (List.mem_reverse.1 hu)) hreverse
  rw [List.head?_reverse] at hhead
  exact hhead.of_perm values.reverse_perm.symm

end Integers

end Value

/-! ### Functions over a column -/

namespace Table

variable {t u : Table} {descending : Bool} {name : String} {v : Value}

/-- The outcome of an aggregate function over a column. -/
def aggregated (t : Table) (f : AggregateFunction) (name : String) : Outcome :=
  (Expr.call f.name [.column name]).aggregate t

/-- The function that finds the first value of a column in the order of a sort. -/
def extreme (descending : Bool) : AggregateFunction :=
  if descending then .max else .min

/-- The first value of a column in the order of a sort, or null if the column has only nulls. -/
def StartsWith (t : Table) (descending : Bool) (name : String) (v : Value) : Prop :=
  Value.IsFirstOrNull descending (t.present name) v

theorem present_eq_nil_iff :
    t.present name = [] ↔ ∀ row ∈ t.rows, (t.cell row name).isNull = true := by
  simp [present, List.filter_eq_nil_iff]

theorem StartsWith.eq_null (h : t.StartsWith descending name v)
    (hnull : ∀ row ∈ t.rows, (t.cell row name).isNull = true) : v = .null := by
  rcases h with ⟨-, hv⟩ | h
  · exact hv
  · exact absurd (present_eq_nil_iff.2 hnull) h.ne_nil

theorem Reorders.present_perm (h : u.Reorders t) (name : String) :
    (u.present name).Perm (t.present name) := by
  rw [present, present, h.cell_eq]
  exact (h.2.map _).filter _

theorem StartsWith.of_reorders (h : t.StartsWith descending name v) (hu : u.Reorders t) :
    u.StartsWith descending name v :=
  Value.IsFirstOrNull.of_perm h (hu.present_perm name)

/-- The least or the greatest value, by the pass. -/
theorem exists_aggregated_extreme (descending : Bool) (hname : name ∈ t.columns)
    (hcells : t.HoldsIntegers name) :
    ∃ v, t.StartsWith descending name v ∧ t.aggregated (extreme descending) name = .ok v := by
  obtain ⟨v, hv, hpass⟩ := Value.extremeValue_of_isInteger descending (extreme descending)
    hcells.isInteger
  refine ⟨v, hv, (applyAggregateCall_name _ _ t).trans ?_⟩
  have hgather := gather_of_mem (extreme descending) hname
  cases descending with
  | false => exact (congrArg (· >>= extremeValue .min .lt) hgather).trans hpass
  | true => exact (congrArg (· >>= extremeValue .max .gt) hgather).trans hpass

theorem aggregated_first (hname : name ∈ t.columns) :
    t.aggregated .first name = .ok ((t.present name).head?.getD .null) := by
  refine (applyAggregateCall_name .first _ t).trans ?_
  rw [applyAggregate, gather_of_mem .first hname]
  rfl

theorem aggregated_last (hname : name ∈ t.columns) :
    t.aggregated .last name = .ok ((t.present name).getLast?.getD .null) := by
  refine (applyAggregateCall_name .last _ t).trans ?_
  rw [applyAggregate, gather_of_mem .last hname]
  rfl

/-! ### Sorted tables -/

theorem HoldsIntegers.uniformAt (hcells : t.HoldsIntegers name) : t.UniformAt name := by
  refine .inl fun v hv => ?_
  obtain ⟨row, hrow, rfl⟩ := List.mem_map.1 hv
  exact hcells row hrow

theorem sorted_reorders (t : Table) (descending : Bool) (names : List String) :
    (t.sorted descending names).Reorders t :=
  ⟨rfl, List.mergeSort_perm _ _⟩

/-- After a sort no value of the column comes before an earlier one. -/
theorem pairwise_present_sorted (descending : Bool) (hcells : t.HoldsIntegers name) :
    ((t.sorted descending [name]).present name).Pairwise
      fun a b => ¬b.Precedes descending a := by
  have hnames : ∀ n ∈ [name], t.UniformAt n := by simpa using hcells.uniformAt
  have hstable : IsStableSort (t.Precedes descending [name]) (t.Ties [name]) t.rows
      (t.sortedRows descending [name]) := isStableSort_sortedRows hnames
  have hvalues : ((t.sortedRows descending [name]).map fun row => t.cell row name).Pairwise
      fun a b => ¬b.Precedes descending a :=
    List.pairwise_map.2 (hstable.pairwise.imp fun hab h => hab (.inl h))
  exact hvalues.filter _

/-- The pass over a column, the beginning of the sorted column and the end of the column that is
sorted in the other direction. -/
theorem exists_startsWith (descending : Bool) (hname : name ∈ t.columns)
    (hcells : t.HoldsIntegers name) :
    ∃ v, t.StartsWith descending name v ∧
      (t.sorted descending [name]).aggregated .first name = .ok v ∧
      (t.sorted (!descending) [name]).aggregated .last name = .ok v ∧
      ∀ u : Table, u.Reorders t → u.aggregated (extreme descending) name = .ok v := by
  obtain ⟨v, hv, -⟩ := exists_aggregated_extreme descending hname hcells
  -- in every order of the rows the column starts with one and the same value
  have hunique : ∀ {u : Table} {w : Value}, u.Reorders t → u.StartsWith descending name w →
      w = v := fun hu hw =>
    Value.IsFirstOrNull.unique (hu.holdsIntegers hcells).isInteger hw (hv.of_reorders hu)
  refine ⟨v, hv, ?_, ?_, fun u hu => ?_⟩
  · have hsorted := t.sorted_reorders descending [name]
    rw [aggregated_first (hsorted.1 ▸ hname)]
    refine congrArg Except.ok (hunique hsorted (Value.isFirstOrNull_head?
      (hsorted.holdsIntegers hcells).isInteger (pairwise_present_sorted descending hcells)))
  · have hsorted := t.sorted_reorders (!descending) [name]
    rw [aggregated_last (hsorted.1 ▸ hname)]
    exact congrArg Except.ok (hunique hsorted (Value.isFirstOrNull_getLast?
      (hsorted.holdsIntegers hcells).isInteger (pairwise_present_sorted _ hcells)))
  · obtain ⟨w, hw, haggregated⟩ :=
      exists_aggregated_extreme descending (hu.1 ▸ hname) (hu.holdsIntegers hcells)
    rw [haggregated, hunique hu hw]

end Table

/-! ### The statement -/

section

variable {t : Table} {method : SortMethod} {name : String}

/-- **The least and the greatest value of a column** of integers and nulls are those at which the
column begins and ends when it is sorted.  They are null if the column has only nulls, and they do
not depend on the order of the rows. -/
theorem extremes_eq_ends_of_sorted (hname : name ∈ t.columns) (hcells : t.HoldsIntegers name) :
    ∃ (least greatest : Value) (up down : Table),
      (Operation.sortAscending [name]).apply method t = .ok up ∧
      (Operation.sortDescending [name]).apply method t = .ok down ∧
      (t.aggregated .min name = .ok least ∧ up.aggregated .first name = .ok least ∧
        down.aggregated .last name = .ok least) ∧
      (t.aggregated .max name = .ok greatest ∧ down.aggregated .first name = .ok greatest ∧
        up.aggregated .last name = .ok greatest) ∧
      ((∀ row ∈ t.rows, (t.cell row name).isNull = true) → least = .null ∧ greatest = .null) ∧
      t.StartsWith false name least ∧ t.StartsWith true name greatest ∧
      ∀ u : Table, u.Reorders t →
        u.aggregated .min name = .ok least ∧ u.aggregated .max name = .ok greatest := by
  have hnames : ∀ n ∈ [name], n ∈ t.columns := by simpa using hname
  have huniform : ∀ n ∈ [name], t.UniformAt n := by simpa using hcells.uniformAt
  obtain ⟨least, hleast, hup, hdown, hmin⟩ := Table.exists_startsWith false hname hcells
  obtain ⟨greatest, hgreatest, hdown', hup', hmax⟩ := Table.exists_startsWith true hname hcells
  have hself := Table.Reorders.refl t
  exact ⟨least, greatest, t.sorted false [name], t.sorted true [name],
    Operation.sort_apply_eq false hnames huniform, Operation.sort_apply_eq true hnames huniform,
    ⟨hmin t hself, hup, hdown⟩, ⟨hmax t hself, hdown', hup'⟩,
    fun hnull => ⟨hleast.eq_null hnull, hgreatest.eq_null hnull⟩, hleast, hgreatest,
    fun u hu => ⟨hmin u hu, hmax u hu⟩⟩

end

/-- Temperatures, with nulls, the least and the greatest integer and one of them twice. -/
def temperatures : Table :=
  ⟨["day", "v"],
    [[.integer 1, .null], [.integer 2, .integer 9223372036854775807], [.integer 3, .integer (-4)],
      [.integer 4, .integer (-9223372036854775808)], [.integer 5, .null],
      [.integer 6, .integer 9223372036854775807]]⟩

theorem extremes_temperatures :
    "v" ∈ temperatures.columns ∧ temperatures.HoldsIntegers "v" ∧
      temperatures.aggregated .min "v" = .ok (.integer (-9223372036854775808)) ∧
      ∃ up down : Table,
        (Operation.sortAscending ["v"]).apply .standard temperatures = .ok up ∧
        (Operation.sortDescending ["v"]).apply .standard temperatures = .ok down ∧
        up.aggregated .first "v" = .ok (.integer (-9223372036854775808)) ∧
        down.aggregated .last "v" = .ok (.integer (-9223372036854775808)) ∧
        down.aggregated .first "v" = .ok (.integer 9223372036854775807) ∧
        up.aggregated .last "v" = .ok (.integer 9223372036854775807) := by
  have hname : "v" ∈ temperatures.columns := by decide
  have hcells : temperatures.HoldsIntegers "v" := by decide
  obtain ⟨least, greatest, up, down, hup, hdown, ⟨hmin, hfirst, hlast⟩, ⟨hmax, hfirst', hlast'⟩,
    -, -, -, -⟩ := extremes_eq_ends_of_sorted hname hcells
  have hleast : temperatures.aggregated .min "v" = .ok (.integer (-9223372036854775808)) := by rfl
  have hgreatest : temperatures.aggregated .max "v" = .ok (.integer 9223372036854775807) := by rfl
  rw [hleast] at hmin
  rw [hgreatest] at hmax
  rw [← hmin] at hfirst hlast
  rw [← hmax] at hfirst' hlast'
  exact ⟨hname, hcells, hleast, up, down, hup, hdown, hfirst, hlast, hfirst', hlast'⟩

end TablePipeline
