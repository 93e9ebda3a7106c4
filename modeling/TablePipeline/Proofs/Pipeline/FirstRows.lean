import TablePipeline.Proofs.Pipeline.RowStages

/-!
# The first row of each key

`distinct` remembers the keys it has seen and keeps a row when its key is new.  What it has seen
before a row are the keys of all rows in front of it, whether these were kept or not.  So the rows
it keeps can be said without any memory: they are the rows the key of which no row in front of them
has (`Table.firstRows`), in their order.

Their keys are distinct, so that a second `distinct` by the same columns finds each of them new.
This is so in every case: without columns, where the key is that of the whole row, and with a column
that does not exist, where no row is left.

## Main definitions

* `Table.distinctKey` — the key by which `distinct` tells rows apart
* `Table.firstRows` — the rows with a key that no earlier row has

## Main statements

* `firstOfEach_eq_filter` — first elements without a memory
* `firstOfEach_eq_self` — elements with new and distinct keys
* `distinct_firstRows` — the stage, once and twice
-/

namespace TablePipeline

/-! ### First elements -/

section FirstOfEach

variable {α : Type} {key : α → String} {l : List α} {seen : List String}

/-- The first elements are those with a key that no element in front of them has. -/
theorem firstOfEach_eq_filter (key : α → String) (l : List α) :
    firstOfEach key [] l =
      (l.zipIdx.filter fun c => key c.1 ∉ (l.take c.2).map key).map Prod.fst := by
  -- on the last element, which has all others in front of it
  induction l using List.reverseRecOn with
  | nil => rfl
  | append_singleton l a ih =>
    have hfront : ∀ c ∈ l.zipIdx, (l ++ [a]).take c.2 = l.take c.2 := by
      intro c hc
      obtain ⟨-, hlt, -⟩ := List.mem_zipIdx hc
      exact List.take_append_of_le_length (by omega)
    have hold : (l.zipIdx.filter fun c => key c.1 ∉ ((l ++ [a]).take c.2).map key) =
        l.zipIdx.filter fun c => key c.1 ∉ (l.take c.2).map key :=
      List.filter_congr fun c hc => by rw [hfront c hc]
    rw [firstOfEach_append_singleton, ih, List.zipIdx_append, List.filter_append, List.map_append,
      hold]
    refine congrArg _ ?_
    rw [List.zipIdx_singleton, Nat.zero_add, List.filter_singleton, List.take_left]
    by_cases hkey : key a ∈ l.map key
    · simp [hkey]
    · simp [hkey]

/-- Elements with new and distinct keys are all first ones. -/
theorem firstOfEach_eq_self (hkeys : (l.map key).Nodup) (hseen : ∀ a ∈ l, key a ∉ seen) :
    firstOfEach key seen l = l := by
  induction l generalizing seen with
  | nil => rfl
  | cons a rest ih =>
    rw [List.map_cons, List.nodup_cons] at hkeys
    rw [firstOfEach, if_neg (hseen a List.mem_cons_self), ih hkeys.2]
    intro b hb hmem
    rcases List.mem_cons.1 hmem with heq | hmem
    · exact hkeys.1 (heq ▸ List.mem_map_of_mem hb)
    · exact hseen b (List.mem_cons_of_mem a hb) hmem

/-- Taking the first elements twice is taking them once. -/
theorem firstOfEach_firstOfEach (key : α → String) (l : List α) :
    firstOfEach key [] (firstOfEach key [] l) = firstOfEach key [] l :=
  firstOfEach_eq_self (nodup_map_firstOfEach key [] l) fun _ _ => List.not_mem_nil

end FirstOfEach

/-! ### The stage -/

namespace Table

/-- The key by which `distinct` tells rows apart: that of the cells under the names, and that of the
whole row when there are no names. -/
def distinctKey (t : Table) (columns : List String) (row : Row) : String :=
  if columns = [] then compositeKey row else t.keyOf columns row

/-- The rows with a key that no earlier row has. -/
def firstRows (t : Table) (key : Row → String) : List Row :=
  (t.rows.zipIdx.filter fun c => key c.1 ∉ (t.rows.take c.2).map key).map Prod.fst

end Table

section Stage

variable {t : Table} {columns : List String}

/-- A row is the choice of all its cells. -/
theorem pick_range (row : Row) : pick (List.range row.length) row = row := by
  refine List.ext_getElem (by simp) fun i hi hi' => ?_
  simp [pick, cellAt, List.getElem?_eq_getElem hi']

theorem distinctRows_eq_firstRows (ht : t.WellFormed) (h : ∀ name ∈ columns, name ∈ t.columns) :
    distinctRows columns t = ⟨t.columns, t.firstRows (t.distinctKey columns)⟩ := by
  rw [Table.firstRows, ← firstOfEach_eq_filter]
  by_cases hne : columns = []
  · subst hne
    refine congrArg (Table.mk t.columns) (firstOfEach_congr (fun row hrow => ?_) [])
    rw [rowKey, ← ht.length_row hrow, pick_range]
    exact (if_pos rfl).symm
  · rw [distinctRows_of_ok hne (Table.columnIndices_of_forall_mem h)]
    refine congrArg (Table.mk t.columns) (firstOfEach_congr (fun row _ => ?_) [])
    exact (if_neg hne).symm

/-- The columns alone decide which rows the stage keeps, and it keeps these once more. -/
theorem exists_distinctRows_eq (columns : List String) (t : Table) :
    ∃ keep : List Row → List Row, (∀ rows, keep (keep rows) = keep rows) ∧
      ∀ rows, distinctRows columns ⟨t.columns, rows⟩ = ⟨t.columns, keep rows⟩ := by
  have hindices (rows : List Row) :
      distinctIndices columns ⟨t.columns, rows⟩ = distinctIndices columns t := rfl
  cases h : distinctIndices columns t with
  | error e =>
    refine ⟨fun _ => [], fun _ => rfl, fun rows => ?_⟩
    rw [distinctRows, hindices, h]
    rfl
  | ok indices =>
    refine ⟨firstOfEach (rowKey indices) [], firstOfEach_firstOfEach _, fun rows => ?_⟩
    rw [distinctRows, hindices, h]

/-- The stage keeps the columns, so that both times it tells rows apart by the same key. -/
theorem distinctRows_distinctRows (columns : List String) (t : Table) :
    distinctRows columns (distinctRows columns t) = distinctRows columns t := by
  obtain ⟨keep, hkeep, hrows⟩ := exists_distinctRows_eq columns t
  calc distinctRows columns (distinctRows columns t)
      = distinctRows columns ⟨t.columns, keep t.rows⟩ := congrArg _ (hrows t.rows)
    _ = ⟨t.columns, keep t.rows⟩ := by rw [hrows, hkeep]
    _ = distinctRows columns t := (hrows t.rows).symm

/-- A column that does not exist leaves no row. -/
theorem distinctRows_of_notMem (h : ∃ name ∈ columns, name ∉ t.columns) :
    distinctRows columns t = ⟨t.columns, []⟩ := by
  obtain ⟨name, hname, hmissing⟩ := h
  cases hindices : t.columnIndices columns with
  | error e => exact distinctRows_of_error (List.ne_nil_of_mem hname) hindices
  | ok indices => exact absurd ((Table.columnIndices_eq_ok_iff.1 hindices).1 name hname) hmissing

/-- **The first row of each key.**  With columns that exist, or without any, `distinct` keeps the
rows with a key that no earlier row has: each key occurs among them, and only once.  With a column
that does not exist it keeps no row.  A second time it changes nothing. -/
theorem distinct_firstRows (ht : t.WellFormed) (columns : List String) :
    ((∀ name ∈ columns, name ∈ t.columns) →
      distinctRows columns t = ⟨t.columns, t.firstRows (t.distinctKey columns)⟩ ∧
        (t.firstRows (t.distinctKey columns)).Sublist t.rows ∧
        ((t.firstRows (t.distinctKey columns)).map (t.distinctKey columns)).Nodup ∧
        ∀ row ∈ t.rows, ∃ first ∈ t.firstRows (t.distinctKey columns),
          t.distinctKey columns first = t.distinctKey columns row) ∧
    ((∃ name ∈ columns, name ∉ t.columns) → distinctRows columns t = ⟨t.columns, []⟩) ∧
    distinctRows columns (distinctRows columns t) = distinctRows columns t := by
  refine ⟨fun h => ⟨distinctRows_eq_firstRows ht h, ?_⟩, distinctRows_of_notMem,
    distinctRows_distinctRows columns t⟩
  rw [Table.firstRows, ← firstOfEach_eq_filter]
  refine ⟨firstOfEach_sublist _ _ _, nodup_map_firstOfEach _ _ _, fun row hrow => ?_⟩
  have hkey : t.distinctKey columns row ∈
      (firstOfEach (t.distinctKey columns) [] t.rows).map (t.distinctKey columns) :=
    (mem_map_firstOfEach _ _ _).2 ⟨List.mem_map_of_mem hrow, List.not_mem_nil⟩
  exact List.mem_map.1 hkey

/-- By its first column the second row has the key of the first one; as a whole it has not. -/
theorem distinct_firstRows_repeated :
    let t : Table := ⟨["k", "v"], [[.integer 1, .boolean true], [.string "1", .null],
      [.integer 2, .null], [.integer 1, .boolean true]]⟩
    t.WellFormed ∧
      distinctRows ["k"] t = ⟨["k", "v"], [[.integer 1, .boolean true], [.integer 2, .null]]⟩ ∧
      distinctRows ["k"] t = ⟨t.columns, t.firstRows (t.distinctKey ["k"])⟩ ∧
      distinctRows [] t = ⟨["k", "v"], t.rows.take 3⟩ ∧
      distinctRows [] t = ⟨t.columns, t.firstRows (t.distinctKey [])⟩ ∧
      distinctRows ["k", "w"] t = ⟨["k", "v"], []⟩ ∧
      distinctRows ["k"] (distinctRows ["k"] t) = distinctRows ["k"] t := by
  intro t
  have ht : t.WellFormed := by
    rw [Table.wellFormed_iff]
    simp [t, Value.WellFormed]
  have hfirst := distinct_firstRows ht
  refine ⟨ht, rfl, ((hfirst ["k"]).1 (by decide)).1, rfl, ((hfirst []).1 (by decide)).1,
    (hfirst ["k", "w"]).2.1 ⟨"w", by decide, by decide⟩, (hfirst ["k"]).2.2⟩

end Stage

end TablePipeline
