import Mathlib.Data.List.Perm.Basic
import TablePipeline.Proofs.Pipeline.Filtering
import TablePipeline.Proofs.Pipeline.StableSort

/-!
# Sorts behind other stages

What a sort makes of its rows depends on the order in which they come in, for rows that its columns
do not tell apart keep this order.  So a sort by some columns and then by others is one sort by the
others first: where these tie, the earlier sort has the say.  And rows may be dropped before a sort
or behind it.

Both are statements about lists that are put in order stably.  As there is only one stable sort of a
list (`IsStableSort.unique`), it is enough that what one comes to in two steps is a stable sort
again: of the list itself by the combined order (`IsStableSort.trans`), or of the part of the list
that is kept (`IsStableSort.filter`).

## Main definitions

* `Table.sorted` — the table with its rows in order

## Main statements

* `IsStableSort.trans`, `IsStableSort.filter` — stable sorts in sequence, and of parts of a list
* `Table.sortedRows_sortedRows`, `Table.filter_sortedRows` — rows that are sorted twice, and rows
  that are dropped before a sort or behind it
* `sort_sort_eq_sort_append` — two sorts in sequence
* `filter_sort_comm` — a filter before a sort and behind it
-/

namespace TablePipeline

/-! ### Lists -/

section Lists

variable {α : Type} {before same before' same' : α → α → Prop} {l mid out : List α}

/-- Of two elements with their places the one with the smaller place stands in front. -/
theorem rel_of_mem_zipIdx {R : α → α → Prop} {c d : α × Nat} (h : l.Pairwise R)
    (hc : c ∈ l.zipIdx) (hd : d ∈ l.zipIdx) (hlt : c.2 < d.2) : R c.1 d.1 := by
  obtain ⟨hlc, hcget⟩ := List.getElem?_eq_some_iff.1 (List.mem_zipIdx_iff_getElem?.1 hc)
  obtain ⟨hld, hdget⟩ := List.getElem?_eq_some_iff.1 (List.mem_zipIdx_iff_getElem?.1 hd)
  have hrel := List.pairwise_iff_getElem.1 h c.2 d.2 hlc hld hlt
  rwa [hcget, hdget] at hrel

/-- Where a number grows along a list, the elements stand in the order of their numbers. -/
theorem place_lt_of_mem_zipIdx {f : α → Nat} {c d : α × Nat}
    (h : l.Pairwise fun a b => f a < f b) (hc : c ∈ l.zipIdx) (hd : d ∈ l.zipIdx)
    (hlt : f c.1 < f d.1) : c.2 < d.2 := by
  rcases Nat.lt_trichotomy c.2 d.2 with hplace | hplace | hplace
  · exact hplace
  · have hcget := List.mem_zipIdx_iff_getElem?.1 hc
    have hdget := List.mem_zipIdx_iff_getElem?.1 hd
    rw [hplace, hdget] at hcget
    rw [Option.some.inj hcget] at hlt
    exact absurd hlt (Nat.lt_irrefl _)
  · exact absurd hlt (Nat.lt_asymm (rel_of_mem_zipIdx h hd hc hplace))

theorem pairwise_place_lt_zipIdx (l : List α) : l.zipIdx.Pairwise fun c d => c.2 < d.2 := by
  rw [← List.pairwise_map (f := Prod.snd) (R := (· < ·)), List.zipIdx_map_snd]
  exact List.pairwise_lt_range'

/-- **Stable sorts in sequence** are one: the second order decides, and the first one where the
second does not tell two elements apart. -/
theorem IsStableSort.trans (hsymm : ∀ a b, same' a b → same' b a)
    (hmid : IsStableSort before same l mid) (hout : IsStableSort before' same' mid out) :
    IsStableSort (fun a b => before' a b ∨ (same' a b ∧ before a b))
      (fun a b => same' a b ∧ same a b) l out := by
  obtain ⟨placed, hperm, rfl, hplaced⟩ := hmid
  obtain ⟨placed', hperm', rfl, hplaced'⟩ := hout
  -- in the second order each element carries its place in the list and that in the first order
  rw [← List.map_zipIdx] at hperm'
  obtain ⟨both, rfl, hboth⟩ :=
    (congrFun₂ (List.eq_map_comp_perm (Prod.map Prod.fst id)) placed' placed.zipIdx).mpr hperm'
  refine ⟨both.map Prod.fst, ?_, ?_, ?_⟩
  · have hfirst := hboth.map Prod.fst
    rw [List.zipIdx_map_fst] at hfirst
    exact hfirst.trans hperm
  · rw [List.map_map, List.map_map]
    rfl
  · rw [List.pairwise_map] at hplaced' ⊢
    refine hplaced'.imp_of_mem fun {c d} hc hd hcd => ?_
    have hfirst : same' c.1.1 d.1.1 →
        ¬before d.1.1 c.1.1 ∧ (same c.1.1 d.1.1 → c.1.2 < d.1.2) := by
      intro hsame
      exact rel_of_mem_zipIdx hplaced (hboth.mem_iff.1 hc) (hboth.mem_iff.1 hd) (hcd.2 hsame)
    constructor
    · rintro (hbefore | ⟨hsame, hbefore⟩)
      · exact hcd.1 hbefore
      · exact (hfirst (hsymm _ _ hsame)).1 hbefore
    · rintro ⟨hsame', hsame⟩
      exact (hfirst hsame').2 hsame

/-- **Parts of a stable sort** are stable sorts of parts. -/
theorem IsStableSort.filter (h : IsStableSort before same l out) (keep : α → Bool) :
    IsStableSort before same (l.filter keep) (out.filter keep) := by
  obtain ⟨placed, hperm, rfl, hplaced⟩ := h
  -- each element that is kept carries its place in the list and that among all that are kept
  let kept := l.zipIdx.filter fun c => keep c.1
  have hplaces : kept.Pairwise fun c d => c.2 < d.2 := (pairwise_place_lt_zipIdx l).filter _
  have hkept : kept.map Prod.fst = l.filter keep := by
    conv_rhs => rw [← List.zipIdx_map_fst 0 l, List.filter_map]
    rfl
  have hpart : (placed.filter fun c => keep c.1).Perm (kept.zipIdx.map Prod.fst) := by
    rw [List.zipIdx_map_fst]
    exact hperm.filter _
  obtain ⟨both, hfst, hboth⟩ :=
    (congrFun₂ (List.eq_map_comp_perm Prod.fst) _ kept.zipIdx).mpr hpart
  refine ⟨both.map (Prod.map Prod.fst id), ?_, ?_, ?_⟩
  · rw [← hkept, ← List.map_zipIdx]
    exact hboth.map _
  · have hfiltered : (placed.map Prod.fst).filter keep =
        (placed.filter fun c => keep c.1).map Prod.fst := List.filter_map
    rw [hfiltered, hfst, List.map_map, List.map_map]
    rfl
  · have hsorted := hplaced.filter fun c => keep c.1
    rw [hfst, List.pairwise_map] at hsorted
    rw [List.pairwise_map]
    refine hsorted.imp_of_mem fun {c d} hc hd hcd => ⟨hcd.1, fun hsame => ?_⟩
    exact place_lt_of_mem_zipIdx (f := Prod.snd) hplaces (hboth.mem_iff.1 hc)
      (hboth.mem_iff.1 hd) (hcd.2 hsame)

end Lists

/-! ### Rows -/

namespace Table

variable {t : Table} {descending : Bool} {first second names : List String} {name : String}
  {rows : List Row} {a b : Row}

theorem Ties.symm (h : t.Ties names a b) : t.Ties names b a :=
  fun name hname => ⟨(h name hname).1.symm, (h name hname).2.symm⟩

theorem ties_cons :
    t.Ties (name :: names) a b ↔ (t.cell a name).Ties (t.cell b name) ∧ t.Ties names a b :=
  List.forall_mem_cons

theorem ties_append :
    t.Ties (first ++ second) = fun a b => t.Ties first a b ∧ t.Ties second a b := by
  funext a b
  exact propext List.forall_mem_append

/-- More columns decide where the columns in front of them do not. -/
theorem precedes_append :
    t.Precedes descending (first ++ second) =
      fun a b => t.Precedes descending first a b ∨
        (t.Ties first a b ∧ t.Precedes descending second a b) := by
  funext a b
  rw [eq_iff_iff]
  induction first with
  | nil => simp [Precedes, Ties]
  | cons name rest ih =>
    rw [List.cons_append, Precedes, Precedes, ih, ties_cons]
    tauto

/-- Rows are in order by the names of the columns alone. -/
theorem precedes_of_columns (rows : List Row) :
    Precedes ⟨t.columns, rows⟩ descending names = t.Precedes descending names := by
  funext a b
  induction names with
  | nil => rfl
  | cons name rest ih =>
    rw [Precedes, Precedes, ih]
    rfl

theorem UniformAt.of_rows (h : t.UniformAt name) (hrows : rows ⊆ t.rows) :
    UniformAt ⟨t.columns, rows⟩ name :=
  Value.Uniform.subset h (List.map_subset _ hrows)

/-- There is only one stable sort of the rows. -/
theorem eq_sortedRows (h : ∀ name ∈ names, t.UniformAt name)
    (hrows : IsStableSort (t.Precedes descending names) (t.Ties names) t.rows rows) :
    rows = t.sortedRows descending names :=
  (isStableSort_sortedRows h).unique hrows fun _ ha _ hb => precedes_total h ha hb

theorem mem_sortedRows : a ∈ t.sortedRows descending names ↔ a ∈ t.rows :=
  List.mem_mergeSort

/-- The table with its rows in order. -/
def sorted (t : Table) (descending : Bool) (names : List String) : Table :=
  ⟨t.columns, t.sortedRows descending names⟩

theorem sortedRows_sortedRows (descending : Bool) (hfirst : ∀ name ∈ first, t.UniformAt name)
    (hsecond : ∀ name ∈ second, t.UniformAt name) :
    (t.sorted descending first).sortedRows descending second =
      t.sortedRows descending (second ++ first) := by
  have hmid : IsStableSort (t.Precedes descending first) (t.Ties first) t.rows
      (t.sorted descending first).rows := isStableSort_sortedRows hfirst
  have huniform : ∀ name ∈ second, (t.sorted descending first).UniformAt name :=
    fun name hname => (hsecond name hname).of_rows fun _ => mem_sortedRows.1
  have hout : IsStableSort (t.Precedes descending second) (t.Ties second)
      (t.sorted descending first).rows
      ((t.sorted descending first).sortedRows descending second) := by
    rw [← precedes_of_columns (t.sorted descending first).rows]
    exact isStableSort_sortedRows huniform
  refine eq_sortedRows (List.forall_mem_append.2 ⟨hsecond, hfirst⟩) ?_
  rw [precedes_append, ties_append]
  exact hmid.trans (fun _ _ => Ties.symm) hout

/-- Columns that are named twice decide as if they were named once. -/
theorem sortedRows_append_self (descending : Bool) (h : ∀ name ∈ names, t.UniformAt name) :
    t.sortedRows descending (names ++ names) = t.sortedRows descending names := by
  have hstable : IsStableSort (t.Precedes descending (names ++ names)) (t.Ties (names ++ names))
      t.rows (t.sortedRows descending (names ++ names)) :=
    isStableSort_sortedRows (List.forall_mem_append.2 ⟨h, h⟩)
  have hprecedes : t.Precedes descending (names ++ names) = t.Precedes descending names := by
    rw [precedes_append]
    funext a b
    exact propext ⟨fun hab => hab.elim id And.right, Or.inl⟩
  have hties : t.Ties (names ++ names) = t.Ties names := by
    rw [ties_append]
    funext a b
    exact propext and_self_iff
  rw [hprecedes, hties] at hstable
  exact eq_sortedRows h hstable

/-- Rows that are dropped before a sort or behind it. -/
theorem filter_sortedRows (descending : Bool) (h : ∀ name ∈ names, t.UniformAt name)
    (keep : Row → Bool) :
    (t.sortedRows descending names).filter keep =
      (t.keeping keep).sortedRows descending names := by
  have hpart : IsStableSort (t.Precedes descending names) (t.Ties names) (t.keeping keep).rows
      ((t.sortedRows descending names).filter keep) := (isStableSort_sortedRows h).filter keep
  have huniform : ∀ name ∈ names, (t.keeping keep).UniformAt name :=
    fun name hname => (h name hname).of_rows (List.filter_subset_self _)
  rw [← precedes_of_columns (t.keeping keep).rows] at hpart
  exact eq_sortedRows huniform hpart

end Table

/-! ### The stages -/

section Stages

variable {t u : Table} {method : SortMethod} {condition : Expr} {names : List String}

theorem Operation.sort_apply_eq (descending : Bool) (h : ∀ name ∈ names, name ∈ t.columns)
    (huniform : ∀ name ∈ names, t.UniformAt name) :
    (Operation.sort descending names).apply method t = .ok (t.sorted descending names) := by
  rw [sort_apply, sortRows_eq_sortedRows method descending names t h huniform]
  rfl

/-- **Sorts in sequence**: a sort by some columns and then by others is the sort by the others and
then the first ones, and a sort that is repeated changes nothing. -/
theorem sort_sort_eq_sort_append (descending : Bool) (first second : List String)
    (hnames : ∀ name ∈ second ++ first, name ∈ t.columns)
    (huniform : ∀ name ∈ second ++ first, t.UniformAt name) :
    ∃ once twice : List Row,
      IsStableSort (t.Precedes descending (second ++ first)) (t.Ties (second ++ first)) t.rows
        twice ∧
      runOperations method [.sort descending first, .sort descending second] t =
        .ok ⟨t.columns, twice⟩ ∧
      runOperations method [.sort descending (second ++ first)] t = .ok ⟨t.columns, twice⟩ ∧
      runOperations method [.sort descending first] t = .ok ⟨t.columns, once⟩ ∧
      runOperations method [.sort descending first, .sort descending first] t =
        .ok ⟨t.columns, once⟩ := by
  obtain ⟨hsecond, hfirst⟩ := List.forall_mem_append.1 hnames
  obtain ⟨husecond, hufirst⟩ := List.forall_mem_append.1 huniform
  -- the first sort leaves the columns, so that the second one finds its own
  have hpair : ∀ names, (∀ name ∈ names, name ∈ t.columns) →
      (∀ name ∈ names, t.UniformAt name) →
      runOperations method [.sort descending first, .sort descending names] t =
        .ok ⟨t.columns, (t.sorted descending first).sortedRows descending names⟩ := by
    intro names h huniform
    rw [runOperations_pair, Operation.sort_apply_eq descending hfirst hufirst]
    refine Operation.sort_apply_eq (t := t.sorted descending first) descending h
      fun name hname => ?_
    exact (huniform name hname).of_rows fun _ => Table.mem_sortedRows.1
  refine ⟨t.sortedRows descending first, t.sortedRows descending (second ++ first),
    Table.isStableSort_sortedRows huniform, ?_, ?_, ?_, ?_⟩
  · rw [hpair second hsecond husecond, Table.sortedRows_sortedRows descending hufirst husecond]
  · rw [runOperations_singleton]
    exact Operation.sort_apply_eq descending hnames huniform
  · rw [runOperations_singleton]
    exact Operation.sort_apply_eq descending hfirst hufirst
  · rw [hpair first hfirst hufirst, Table.sortedRows_sortedRows descending hufirst hufirst,
      Table.sortedRows_append_self descending hufirst]

/-- Two sorts by columns of which one is named in both: of the two rows that the second sort does
not tell apart, the one that comes first is that which the first sort has put in front. -/
theorem sort_sort_stock :
    let first : List String := ["item", "shop"]
    let second : List String := ["shop", "count"]
    let out : List Row :=
      [[.string "b", .integer 10, .string "jam"], [.string "b", .integer 9, .string "oil"],
        [.string "b", .integer 9, .string "ink"], [.string "b", .null, .string "cup"],
        [.string "a", .integer 7, .string "tea"], [.null, .integer 10, .string "pen"]]
    (∀ name ∈ second ++ first, name ∈ stock.columns) ∧
      (∀ name ∈ second ++ first, stock.UniformAt name) ∧
      runOperations .standard [.sort true first, .sort true second] stock =
        .ok ⟨stock.columns, out⟩ ∧
      runOperations .standard [.sort true (second ++ first)] stock = .ok ⟨stock.columns, out⟩ ∧
      runOperations .standard [.sort true first, .sort true first] stock =
        runOperations .standard [.sort true first] stock := by
  intro first second out
  have hnames : ∀ name ∈ second ++ first, name ∈ stock.columns := by decide
  have huniform : ∀ name ∈ second ++ first, stock.UniformAt name := by decide
  obtain ⟨once, twice, hstable, hpair, hsingle, honce, hrepeated⟩ :=
    @sort_sort_eq_sort_append stock .standard true first second hnames huniform
  have hout : IsStableSort (stock.Precedes true (second ++ first)) (stock.Ties (second ++ first))
      stock.rows out := by
    have hplaces : [4, 5, 0, 2, 3, 1].Perm (List.range 6) := by decide
    exact ⟨_, hplaces.map fun i => (stock.rows[i]?.getD [], i), rfl, by decide⟩
  have htwice : twice = out :=
    (Table.eq_sortedRows huniform hstable).trans (Table.eq_sortedRows huniform hout).symm
  rw [htwice] at hpair hsingle
  exact ⟨hnames, huniform, hpair, hsingle, hrepeated.trans honce.symm⟩

/-- **Filters and sorts**: rows may be dropped before a sort or behind it. -/
theorem filter_sort_comm (descending : Bool)
    (hfilter : (Operation.filter condition).apply method t = .ok u)
    (hnames : ∀ name ∈ names, name ∈ t.columns) (huniform : ∀ name ∈ names, t.UniformAt name) :
    ∃ rows, IsStableSort (t.Precedes descending names) (t.Ties names) u.rows rows ∧
      runOperations method [.filter condition, .sort descending names] t = .ok ⟨t.columns, rows⟩ ∧
      runOperations method [.sort descending names, .filter condition] t =
        .ok ⟨t.columns, rows⟩ := by
  obtain ⟨htruth, rfl⟩ := filterRows_eq_ok_iff.1 hfilter
  have hstable : IsStableSort (t.Precedes descending names) (t.Ties names) t.rows
      (t.sortedRows descending names) := Table.isStableSort_sortedRows huniform
  refine ⟨_, hstable.filter (condition.holdsOn t.columns), ?_, ?_⟩
  · rw [runOperations_pair, hfilter, Table.filter_sortedRows descending huniform]
    exact Operation.sort_apply_eq (t := t.keeping (condition.holdsOn t.columns)) descending hnames
      fun name hname => (huniform name hname).of_rows (List.filter_subset_self _)
  · rw [runOperations_pair, Operation.sort_apply_eq descending hnames huniform]
    refine filterRows_eq_ok_iff.2 ⟨fun row hrow => ?_, rfl⟩
    exact htruth row (Table.mem_sortedRows.1 hrow)

/-- Two rows are dropped, one of them with a null that is sorted by. -/
theorem filter_sort_comm_stock :
    let condition : Expr := .binary .and (.nullTest (.column "count") true)
      (.binary .notEqual (.column "item") (.literal (.string "tea")))
    let out : List Row :=
      [[.string "b", .integer 9, .string "ink"], [.string "b", .integer 9, .string "oil"],
        [.string "b", .integer 10, .string "jam"], [.null, .integer 10, .string "pen"]]
    (∃ u, (Operation.filter condition).apply .standard stock = .ok u) ∧
      (∀ name ∈ ["shop", "count"], name ∈ stock.columns) ∧
      (∀ name ∈ ["shop", "count"], stock.UniformAt name) ∧
      runOperations .standard [.filter condition, .sort false ["shop", "count"]] stock =
        .ok ⟨stock.columns, out⟩ ∧
      runOperations .standard [.sort false ["shop", "count"], .filter condition] stock =
        .ok ⟨stock.columns, out⟩ := by
  intro condition out
  let kept : List Row := [[.string "b", .integer 9, .string "ink"],
    [.null, .integer 10, .string "pen"], [.string "b", .integer 10, .string "jam"],
    [.string "b", .integer 9, .string "oil"]]
  have hfilter : (Operation.filter condition).apply .standard stock =
      .ok ⟨stock.columns, kept⟩ := by rfl
  have hnames : ∀ name ∈ ["shop", "count"], name ∈ stock.columns := by decide
  have huniform : ∀ name ∈ ["shop", "count"], stock.UniformAt name := by decide
  obtain ⟨rows, hstable, hfirst, hsecond⟩ := filter_sort_comm false hfilter hnames huniform
  have hout : IsStableSort (stock.Precedes false ["shop", "count"])
      (stock.Ties ["shop", "count"]) kept out := by
    have hplaces : [0, 3, 2, 1].Perm (List.range 4) := by decide
    exact ⟨_, hplaces.map fun i => (kept[i]?.getD [], i), rfl, by decide⟩
  have hsubset : kept ⊆ stock.rows := (Operation.ChoosesRowsBy.filter condition).subset hfilter
  have hrows : out = rows := hstable.unique hout fun _ ha _ hb =>
    Table.precedes_total huniform (hsubset ha) (hsubset hb)
  rw [← hrows] at hfirst hsecond
  exact ⟨⟨_, hfilter⟩, hnames, huniform, hfirst, hsecond⟩

end Stages

end TablePipeline
