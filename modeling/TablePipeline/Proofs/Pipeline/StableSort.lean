import Mathlib.Data.List.Nodup
import Mathlib.Data.List.Sigma
import Mathlib.Data.String.Basic
import TablePipeline.Pipeline.Run
import TablePipeline.Proofs.Table.Positions
import TablePipeline.Proofs.Value.Keys
import TablePipeline.Proofs.Value.Order

/-!
# Sorts are stable

What a sort gives can be said without the way it is found: each row is placed together with the
number it had before (`IsStableSort`).  No row is placed after one that it precedes, and of rows
that the columns do not tell apart the one with the smaller number comes first.  As any two rows are
in one of these relations, only one list of rows is placed like this, and every method of sorting
finds it.

The order of rows is said by the names of the columns, the first column that tells two rows apart
deciding (`Table.Precedes`), and does not mention comparisons.  That the comparison of a sort agrees
with it needs columns in which all values are compared in one way (`Value.Uniform`), since on other
columns a comparison is no order at all (`Value.sortCompare_not_trans`).

## Main definitions

* `IsStableSort` — a list put in order, with elements that are the same in their old order
* `Value.Uniform` — values which are all compared in one way
* `Value.Precedes`, `Value.Ties` — the order of cells in a sort
* `Table.Precedes`, `Table.Ties` — the order of rows by some columns

## Main statements

* `isStableSort_mergeSort`, `IsStableSort.unique` — stable sorts exist and are unique
* `SortMethod.exists_isStableSort` — every method finds one
* `sortRows_eq_sortedRows` — the stage, in terms of the merge sort
* `sort_stable` — the rows after a sort
-/

namespace TablePipeline

/-! ### Stable sorts -/

section General

variable {α β : Type} {before same : α → α → Prop} {l out other : List α}

/-- The elements of a list, each with its place there, are put in an order in which none comes
before an earlier one, and elements that are the same keep the order of their places. -/
def IsStableSort (before same : α → α → Prop) (l out : List α) : Prop :=
  ∃ placed : List (α × Nat), placed.Perm l.zipIdx ∧ placed.map Prod.fst = out ∧
    placed.Pairwise fun a b => ¬before b.1 a.1 ∧ (same a.1 b.1 → a.2 < b.2)

theorem IsStableSort.pairwise (h : IsStableSort before same l out) :
    out.Pairwise fun a b => ¬before b a := by
  obtain ⟨placed, -, rfl, hplaced⟩ := h
  exact List.pairwise_map.2 (hplaced.imp And.left)

/-- Elements of which neither comes before the other are the same, so the order of all places is
given. -/
theorem IsStableSort.unique (hout : IsStableSort before same l out)
    (hother : IsStableSort before same l other)
    (htotal : ∀ a ∈ l, ∀ b ∈ l, before a b ∨ before b a ∨ (same a b ∧ same b a)) :
    other = out := by
  obtain ⟨placed, hperm, rfl, hplaced⟩ := hout
  obtain ⟨placed', hperm', rfl, hplaced'⟩ := hother
  refine congrArg (List.map Prod.fst)
    (List.Perm.eq_of_pairwise ?_ hplaced' hplaced (hperm'.trans hperm.symm))
  intro a b ha hb hab hba
  have hmem : ∀ x ∈ l.zipIdx, x.1 ∈ l := fun x hx => List.fst_mem_of_mem_zipIdx hx
  rcases htotal a.1 (hmem a (hperm'.mem_iff.1 ha)) b.1 (hmem b (hperm.mem_iff.1 hb)) with
    h | h | ⟨h, h'⟩
  · exact absurd h hba.1
  · exact absurd h hab.1
  · exact absurd (hab.2 h) (Nat.lt_asymm (hba.2 h'))

theorem IsStableSort.map {f : α → β} {before' same' : β → β → Prop}
    (h : IsStableSort before same l out)
    (hbefore : ∀ a b, before' (f a) (f b) → before a b)
    (hsame : ∀ a b, same' (f a) (f b) → same a b) :
    IsStableSort before' same' (l.map f) (out.map f) := by
  obtain ⟨placed, hperm, rfl, hplaced⟩ := h
  refine ⟨placed.map (Prod.map f id), ?_, ?_, ?_⟩
  · rw [← List.map_zipIdx]
    exact hperm.map _
  · rw [List.map_map, List.map_map]
    rfl
  · rw [List.pairwise_map]
    refine hplaced.imp fun {a b} hab => ⟨?_, ?_⟩
    · exact fun hlt => hab.1 (hbefore _ _ hlt)
    · exact fun heq => hab.2 (hsame _ _ heq)

/-- A merge sort is a stable sort. -/
theorem isStableSort_mergeSort (cmp : α → α → Ordering) [Std.TransCmp cmp] (l : List α) :
    IsStableSort (fun a b => cmp a b = .lt) (fun a b => cmp a b = .eq) l
      (l.mergeSort fun a b => cmp a b != .gt) := by
  have hswap : ∀ a b, cmp b a = (cmp a b).swap := fun _ _ => Std.OrientedCmp.eq_swap
  have htrans : ∀ a b c, (cmp a b != .gt) = true → (cmp b c != .gt) = true →
      (cmp a c != .gt) = true := by
    intro a b c hab hbc
    rw [bne_iff_ne, Ne, ← Ordering.isLE_iff_ne_gt] at *
    exact Std.TransCmp.isLE_trans hab hbc
  have htotal : ∀ a b, ((cmp a b != .gt) || (cmp b a != .gt)) = true := by
    intro a b
    rw [hswap a b]
    cases cmp a b <;> rfl
  refine ⟨l.zipIdx.mergeSort (List.zipIdxLE fun a b => cmp a b != .gt), List.mergeSort_perm _ _,
    List.mergeSort_zipIdx, ?_⟩
  have hsorted := List.pairwise_mergeSort (List.zipIdxLE_trans htrans)
    (List.zipIdxLE_total htotal) l.zipIdx
  -- no two elements have one place
  have hplaces : (l.zipIdx.mergeSort (List.zipIdxLE fun a b => cmp a b != .gt)).Pairwise
      fun a b => a.2 ≠ b.2 := by
    rw [← List.pairwise_map, ← List.Nodup, ((List.mergeSort_perm _ _).map Prod.snd).nodup_iff]
    exact List.nodup_zipIdx_map_snd l
  refine hsorted.imp₂ (fun a b hle hne => ?_) hplaces
  rw [List.zipIdxLE, hswap a.1 b.1] at hle
  beta_reduce
  rw [hswap a.1 b.1]
  cases hcmp : cmp a.1 b.1 <;> simp [hcmp] at hle ⊢
  omega

/-- **Every method sorts stably** where it is given an order. -/
theorem SortMethod.exists_isStableSort (method : SortMethod) (cmp : α → α → Ordering)
    [Std.TransCmp cmp] (l : List α) :
    ∃ out, method.sort cmp l = some out ∧
      IsStableSort (fun a b => cmp a b = .lt) (fun a b => cmp a b = .eq) l out := by
  have htrans : Std.TransCmp fun i j : Fin l.toArray.size => cmp l.toArray[i] l.toArray[j] :=
    { eq_swap := Std.OrientedCmp.eq_swap
      isLE_trans := Std.TransCmp.isLE_trans }
  obtain ⟨order, horder, hpairwise⟩ := @method.stable _ _ htrans
  have hplaces : (List.finRange l.toArray.size).map (fun i => (l.toArray[i], i.1)) = l.zipIdx := by
    refine List.ext_getElem (by simp) fun i hi hi' => ?_
    simp
  refine ⟨order.map fun i => l.toArray[i], Option.map_eq_some_iff.2 ⟨order, horder, rfl⟩,
    order.map fun i => (l.toArray[i], i.1), ?_, List.map_map, ?_⟩
  · rw [← hplaces]
    exact (method.perm horder).map _
  · refine List.pairwise_map.2 (hpairwise.imp fun {i j} hij => ?_)
    show ¬cmp l.toArray[j] l.toArray[i] = .lt ∧ (cmp l.toArray[i] l.toArray[j] = .eq → i < j)
    rcases hij with hlt | ⟨heq, hlt⟩
    · rw [Std.OrientedCmp.gt_of_lt hlt, show cmp l.toArray[i] l.toArray[j] = .lt from hlt]
      simp
    · rw [Std.OrientedCmp.eq_symm heq]
      exact ⟨by simp, fun _ => hlt⟩

end General

/-! ### The order of cells -/

theorem compareTexts_eq_lt_iff {s t : String} : compareTexts s t = .lt ↔ s < t := by
  rw [compareTexts, String.lt_iff_toList_lt]
  generalize t.toList = t
  induction s.toList generalizing t with
  | nil => cases t <;> simp
  | cons c s ih =>
    cases t with
    | nil => simp
    | cons d t =>
      have hchar : compare c d = .lt ↔ c < d := compareOfLessAndEq_eq_lt
      rw [List.compare_cons_cons, List.cons_lt_cons_iff, Ordering.then_eq_lt, ih, hchar,
        Std.compare_eq_iff_eq]

theorem compareTexts_eq_eq_iff {s t : String} : compareTexts s t = .eq ↔ s = t := by
  rw [compareTexts, Std.compare_eq_iff_eq, String.toList_inj]

namespace Value

variable {descending : Bool} {a b c : Value} {values : List Value}

/-- All values are integers, or none of them is a number.  Nulls may be among them. -/
def Uniform (values : List Value) : Prop :=
  (∀ v ∈ values, v.isNull = false → v.isInteger = true) ∨ ∀ v ∈ values, v.isNumeric = false

instance decidableUniform (values : List Value) : Decidable (Uniform values) :=
  inferInstanceAs (Decidable (_ ∨ _))

/-- The order of non-null values: by number for integers and by text for others. -/
def Less : Value → Value → Prop
  | integer m, integer n => m < n
  | a, b => a.text < b.text

instance decidableLess (a b : Value) : Decidable (a.Less b) :=
  match a, b with
  | integer m, integer n => inferInstanceAs (Decidable (m < n))
  | integer _, null | integer _, boolean _ | integer _, float _ | integer _, string _
  | integer _, nested _ | null, _ | boolean _, _ | float _, _ | string _, _ | nested _, _ =>
    inferInstanceAs (Decidable (Value.text _ < Value.text _))

/-- One value comes before another one in a sort: nulls come last in both directions. -/
def Precedes (descending : Bool) (a b : Value) : Prop :=
  a.isNull = false ∧ (b.isNull = true ∨ if descending then b.Less a else a.Less b)

instance decidablePrecedes (descending : Bool) (a b : Value) :
    Decidable (a.Precedes descending b) :=
  inferInstanceAs (Decidable (_ ∧ (_ ∨ _)))

/-- A sort does not tell two values apart.  Integers are equal when their texts are, and an empty
text is not the same as null. -/
def Ties (a b : Value) : Prop :=
  a.isNull = b.isNull ∧ a.text = b.text

instance decidableTies (a b : Value) : Decidable (a.Ties b) :=
  inferInstanceAs (Decidable (_ ∧ _))

theorem Uniform.subset {part : List Value} (h : Uniform values) (hpart : part ⊆ values) :
    Uniform part :=
  h.imp (fun h v hv => h v (hpart hv)) (fun h v hv => h v (hpart hv))

theorem less_iff_of_isNumeric (h : a.isNumeric = false) : a.Less b ↔ a.text < b.text := by
  cases a <;> first | rfl | cases h

/-- Where values are compared in one way, the comparison is that of numbers or of texts. -/
theorem Uniform.compare_iff (h : Uniform [a, b]) (ha : a.isNull = false) (hb : b.isNull = false) :
    (compare a b = .lt ↔ a.Less b) ∧ (compare a b = .eq ↔ a.text = b.text) := by
  rcases h with h | h
  · obtain ⟨m, rfl⟩ := exists_eq_integer (h a (by simp) ha)
    obtain ⟨n, rfl⟩ := exists_eq_integer (h b (by simp) hb)
    rw [integer_text_inj]
    exact ⟨Std.compare_eq_lt, Std.compare_eq_iff_eq⟩
  · have ha := h a (by simp)
    rw [compare_eq_compareTexts (.inl (toFloat?_of_isNumeric ha)), less_iff_of_isNumeric ha]
    exact ⟨compareTexts_eq_lt_iff, compareTexts_eq_eq_iff⟩

/-- Where values are compared in one way, a sort has them in order. -/
theorem Uniform.sortCompare_iff (h : Uniform [a, b]) :
    (sortCompare descending a b = .lt ↔ a.Precedes descending b) ∧
      (sortCompare descending a b = .eq ↔ a.Ties b) := by
  rw [Precedes, Ties]
  by_cases ha : a.isNull = false
  · by_cases hb : b.isNull = false
    · have hflip : Uniform [b, a] := h.subset (by simp)
      rw [sortCompare_eq ha hb, ha, hb]
      cases descending with
      | false => simp [h.compare_iff ha hb]
      | true => simp [hflip.compare_iff hb ha, eq_comm]
    · rw [Bool.not_eq_false] at hb
      simp [sortCompare, ha, hb]
  · rw [Bool.not_eq_false] at ha
    by_cases hb : b.isNull = false
    · simp [sortCompare, ha, hb]
    · rw [Bool.not_eq_false] at hb
      rw [isNull_eq_true_iff.1 ha, isNull_eq_true_iff.1 hb]
      simp [sortCompare, isNull]

/-- Values that are compared in one way fit together. -/
theorem Uniform.fitting (h : Uniform [a, b, c]) : Fitting a b c := by
  rcases h with h | h
  · have hfloat : ∀ x, float x ∉ [a, b, c] := fun x hx => nomatch h _ hx rfl
    refine { texts := ?_, notNaN := ?_, exact := ?_ }
    · intro w hw hnull hword
      obtain ⟨n, rfl⟩ := exists_eq_integer (h w hw hnull)
      cases hword
    · rintro x rfl
      exact absurd (by simp) (hfloat x)
    · rintro m x n - rfl
      exact absurd (by simp) (hfloat x)
  · refine { texts := ?_, notNaN := ?_, exact := ?_ }
    · intro _ _ _ _ m hm n _ hnumeric
      rw [h m hm] at hnumeric
      cases hnumeric
    · intro x _ ha
      rw [h a (by simp)] at ha
      cases ha
    · rintro m x n rfl
      cases h (integer m) (by simp)

end Value

/-! ### The order of rows -/

namespace Table

variable {t : Table} {descending : Bool} {names : List String} {name : String}

/-- One row comes before another one in a sort by some columns: the first column that tells them
apart decides. -/
def Precedes (t : Table) (descending : Bool) : List String → Row → Row → Prop
  | [], _, _ => False
  | name :: rest, a, b =>
    (t.cell a name).Precedes descending (t.cell b name) ∨
      ((t.cell a name).Ties (t.cell b name) ∧ t.Precedes descending rest a b)

instance decidablePrecedes (t : Table) (descending : Bool) :
    (names : List String) → (a b : Row) → Decidable (t.Precedes descending names a b)
  | [], _, _ => inferInstanceAs (Decidable False)
  | _ :: rest, a, b =>
    have := decidablePrecedes t descending rest a b
    inferInstanceAs (Decidable (_ ∨ (_ ∧ _)))

/-- No column tells the rows apart. -/
def Ties (t : Table) (names : List String) (a b : Row) : Prop :=
  ∀ name ∈ names, (t.cell a name).Ties (t.cell b name)

instance decidableTies (t : Table) (names : List String) (a b : Row) :
    Decidable (t.Ties names a b) :=
  inferInstanceAs (Decidable (∀ name ∈ names, _))

/-- The cells of a column are compared in one way. -/
def UniformAt (t : Table) (name : String) : Prop :=
  Value.Uniform (t.column (t.columns.idxOf name))

instance decidableUniformAt (t : Table) (name : String) : Decidable (t.UniformAt name) :=
  inferInstanceAs (Decidable (Value.Uniform _))

theorem UniformAt.subset {cells : List Value} (h : t.UniformAt name)
    (hcells : ∀ v ∈ cells, ∃ row ∈ t.rows, t.cell row name = v) : Value.Uniform cells :=
  Value.Uniform.subset h fun v hv => List.mem_map.2 (hcells v hv)

/-- The comparison of the rows of a table. -/
def compareRows (t : Table) (descending : Bool) (names : List String)
    (a b : {row // row ∈ t.rows}) : Ordering :=
  rowCompare descending (names.map t.columns.idxOf) a b

theorem compareRows_cons (t : Table) (descending : Bool) (name : String) (names : List String) :
    t.compareRows descending (name :: names) =
      compareLex (fun a b : {row // row ∈ t.rows} =>
          Value.sortCompare descending (t.cell a name) (t.cell b name))
        (t.compareRows descending names) :=
  rfl

/-- The comparison of rows is transitive, since that of each column is. -/
theorem transCmp_compareRows (h : ∀ name ∈ names, t.UniformAt name) :
    Std.TransCmp (t.compareRows descending names) := by
  induction names with
  | nil => exact { eq_swap := rfl, isLE_trans := fun _ _ => rfl }
  | cons name rest ih =>
    rw [List.forall_mem_cons] at h
    have hrest := ih h.2
    have hcell : Std.TransCmp fun a b : {row // row ∈ t.rows} =>
        Value.sortCompare descending (t.cell a name) (t.cell b name) :=
      { eq_swap := Value.sortCompare_swap descending _ _
        isLE_trans := by
          intro a b c hab hbc
          rw [Ordering.isLE_iff_ne_gt] at *
          refine Value.sortCompare_trans (Value.Uniform.fitting (h.1.subset ?_)) hab hbc
          simp only [List.forall_mem_cons]
          exact ⟨⟨a, a.2, rfl⟩, ⟨b, b.2, rfl⟩, ⟨c, c.2, rfl⟩, nofun⟩ }
    rw [compareRows_cons]
    infer_instance

theorem compareRows_iff (h : ∀ name ∈ names, t.UniformAt name) (descending : Bool)
    (a b : {row // row ∈ t.rows}) :
    (t.compareRows descending names a b = .lt ↔ t.Precedes descending names a b) ∧
      (t.compareRows descending names a b = .eq ↔ t.Ties names a b) := by
  induction names with
  | nil => simp [compareRows, rowCompare, Precedes, Ties]
  | cons name rest ih =>
    rw [List.forall_mem_cons] at h
    have hcells : Value.Uniform [t.cell a name, t.cell b name] := by
      refine h.1.subset ?_
      simp only [List.forall_mem_cons]
      exact ⟨⟨a, a.2, rfl⟩, ⟨b, b.2, rfl⟩, nofun⟩
    rw [compareRows_cons, compareLex, Ordering.then_eq_lt, Ordering.then_eq_eq,
      hcells.sortCompare_iff.1, hcells.sortCompare_iff.2, (ih h.2).1, (ih h.2).2, Precedes, Ties,
      Ties, List.forall_mem_cons]
    exact ⟨Iff.rfl, Iff.rfl⟩

/-- Of two rows one comes before the other one, or no column tells them apart. -/
theorem precedes_total (h : ∀ name ∈ names, t.UniformAt name) {a b : Row} (ha : a ∈ t.rows)
    (hb : b ∈ t.rows) :
    t.Precedes descending names a b ∨ t.Precedes descending names b a ∨
      (t.Ties names a b ∧ t.Ties names b a) := by
  have htrans : Std.TransCmp (t.compareRows descending names) := transCmp_compareRows h
  have hab := compareRows_iff h descending ⟨a, ha⟩ ⟨b, hb⟩
  have hba := compareRows_iff h descending ⟨b, hb⟩ ⟨a, ha⟩
  cases hcmp : t.compareRows descending names ⟨a, ha⟩ ⟨b, hb⟩ with
  | lt => exact .inl (hab.1.1 hcmp)
  | gt => exact .inr (.inl (hba.1.1 (Std.OrientedCmp.gt_iff_lt.1 hcmp)))
  | eq => exact .inr (.inr ⟨hab.2.1 hcmp, hba.2.1 (Std.OrientedCmp.eq_symm hcmp)⟩)

/-- The rows as one method sorts them.  Where the cells of each column are compared in one way, all
others find the same (`sortRows_eq_sortedRows`). -/
def sortedRows (t : Table) (descending : Bool) (names : List String) : List Row :=
  t.rows.mergeSort fun a b => rowCompare descending (names.map t.columns.idxOf) a b != .gt

theorem isStableSort_sortedRows (h : ∀ name ∈ names, t.UniformAt name) :
    IsStableSort (t.Precedes descending names) (t.Ties names) t.rows
      (t.sortedRows descending names) := by
  have htrans : Std.TransCmp (t.compareRows descending names) := transCmp_compareRows h
  have hiff := compareRows_iff h descending
  have hstable := (isStableSort_mergeSort (t.compareRows descending names) t.rows.attach).map
    (f := Subtype.val) (fun a b => (hiff a b).1.2) (fun a b => (hiff a b).2.2)
  have hrows : (t.rows.attach.mergeSort fun a b => t.compareRows descending names a b != .gt).map
      Subtype.val = t.rows.attach.unattach.mergeSort
        fun a b => rowCompare descending (names.map t.columns.idxOf) a b != .gt :=
    List.map_mergeSort fun _ _ _ _ => rfl
  rw [hrows, List.attach_map_subtype_val] at hstable
  rwa [List.unattach_attach] at hstable

end Table

/-! ### The stage -/

/-- The sort in one direction. -/
def Operation.sort (descending : Bool) (columns : List String) : Operation :=
  if descending then .sortDescending columns else .sortAscending columns

theorem Operation.sort_apply (method : SortMethod) (descending : Bool) (columns : List String)
    (t : Table) :
    (Operation.sort descending columns).apply method t = sortRows method descending columns t := by
  cases descending <;> rfl

section

variable (method : SortMethod) (descending : Bool) (names : List String) (t : Table)

/-- A sort by columns with cells that are compared in one way. -/
theorem sortRows_eq_sortedRows (hnames : ∀ name ∈ names, name ∈ t.columns)
    (huniform : ∀ name ∈ names, t.UniformAt name) :
    sortRows method descending names t = .ok ⟨t.columns, t.sortedRows descending names⟩ := by
  have htrans : Std.TransCmp (t.compareRows descending names) :=
    Table.transCmp_compareRows huniform
  have hiff := Table.compareRows_iff huniform descending
  obtain ⟨placed, hplaced, hstable⟩ :=
    method.exists_isStableSort (t.compareRows descending names) t.rows.attach
  have hrows := hstable.map (f := Subtype.val) (fun a b => (hiff a b).1.2) fun a b => (hiff a b).2.2
  have hsort : method.sort (rowCompare descending (names.map t.columns.idxOf))
      (t.rows.attach.map Subtype.val) =
        (method.sort (t.compareRows descending names) t.rows.attach).map (List.map Subtype.val) :=
    method.sort_map fun _ _ _ _ => rfl
  rw [List.attach_map_subtype_val] at hrows
  rw [List.attach_map_subtype_val, hplaced] at hsort
  have hsorted := (Table.isStableSort_sortedRows huniform).unique hrows fun a ha b hb =>
    Table.precedes_total huniform ha hb
  rw [sortRows_of_ok (Table.columnIndices_of_forall_mem hnames), hsort, ← hsorted]
  rfl

/-- The rows after a sort are the one stable sort of the rows of the table, whatever the method. -/
theorem sort_stable (hnames : ∀ name ∈ names, name ∈ t.columns)
    (huniform : ∀ name ∈ names, t.UniformAt name) :
    ∃ rows, (Operation.sort descending names).apply method t = .ok ⟨t.columns, rows⟩ ∧
      IsStableSort (t.Precedes descending names) (t.Ties names) t.rows rows ∧
      ∀ other, IsStableSort (t.Precedes descending names) (t.Ties names) t.rows other →
        other = rows := by
  have hstable : IsStableSort (t.Precedes descending names) (t.Ties names) t.rows
      (t.sortedRows descending names) := Table.isStableSort_sortedRows huniform
  refine ⟨t.sortedRows descending names, ?_, hstable, fun other hother => ?_⟩
  · rw [Operation.sort_apply, sortRows_eq_sortedRows method descending names t hnames huniform]
  · exact hstable.unique hother fun a ha b hb => Table.precedes_total huniform ha hb

end

/-- Stock of shops, with rows that differ only in what is not sorted by. -/
def stock : Table :=
  ⟨["shop", "count", "item"],
    [[.string "b", .integer 9, .string "ink"],
      [.null, .integer 10, .string "pen"],
      [.string "b", .null, .string "cup"],
      [.string "a", .integer 7, .string "tea"],
      [.string "b", .integer 10, .string "jam"],
      [.string "b", .integer 9, .string "oil"]]⟩

theorem sort_stock :
    (Operation.sort true ["shop", "count"]).apply .standard stock =
      .ok ⟨["shop", "count", "item"],
        [[.string "b", .integer 10, .string "jam"],
          [.string "b", .integer 9, .string "ink"],
          [.string "b", .integer 9, .string "oil"],
          [.string "b", .null, .string "cup"],
          [.string "a", .integer 7, .string "tea"],
          [.null, .integer 10, .string "pen"]]⟩ := by
  obtain ⟨rows, happly, -, hunique⟩ :=
    sort_stable .standard true ["shop", "count"] stock (by decide) (by decide)
  rw [happly]
  refine congrArg (fun rows => Except.ok (Table.mk _ rows)) (hunique _ ?_).symm
  have hplaces : [4, 0, 5, 2, 3, 1].Perm (List.range 6) := by decide
  exact ⟨_, hplaces.map fun i => (stock.rows[i]?.getD [], i), rfl, by decide⟩

end TablePipeline
