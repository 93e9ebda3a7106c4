import TablePipeline.Proofs.Pipeline.Partition
import TablePipeline.Proofs.Value.Keys

/-!
# Which rows count as the same

`group` puts a row where it finds the key of the row, or opens a new place for it; `distinct` drops
a row when it has seen its key.  A key is made of the texts of cells, so both tell rows apart by
these texts and not by the cells: the integer `1` and the text `1` go to the same place.  Where two
cells are of the same kind, and hold neither tables nor NaN, this is the same as telling them apart
by what they hold.  None of these conditions can be dropped, and the texts of rows with more than
one cell have to be free of the separator (`group_distinct_merge`).

Rows may be repeated, so what happens to a row is said of its position.  The place of a row is the
one that the stage finds when it comes to the row, after those before it.  The keys that have been
found by then are the first ones of all keys, so a later row does not change the place.

## Main definitions

* `Table.placeOf` — the place that `group` finds for the row at a position
* `Table.rowsAt` — the nested table of a place
* `Table.kept` — the positions of the rows that `distinct` keeps
* `Table.Separable` — the key of a row can be taken apart

## Main statements

* `Table.idxOf?_placeOf` — a place is that of the key among all keys
* `groupColumns_eq_rowsAt` — the stage in terms of places
* `group_distinct_byText` — what both stages take for the same
-/

namespace TablePipeline

/-! ### First rows of keys, by position -/

section FirstOfEach

variable {α β : Type} {key : α → String} {l : List α}

/-- The first elements of a list begin with those of each part it begins with. -/
theorem firstOfEach_prefix_append (key : α → String) (l l' : List α) :
    firstOfEach key [] l <+: firstOfEach key [] (l ++ l') := by
  induction l' using List.reverseRecOn with
  | nil => simp
  | append_singleton l' a ih =>
    rw [← List.append_assoc, firstOfEach_append_singleton]
    exact ih.trans (List.prefix_append _ _)

theorem idxOf?_of_prefix {l m : List String} {k : String} {p : Nat} (h : l <+: m)
    (hp : l.idxOf? k = some p) : m.idxOf? k = some p := by
  obtain ⟨rest, rfl⟩ := h
  rw [List.idxOf?, List.findIdx?_append]
  rw [List.idxOf?] at hp
  rw [hp]
  rfl

/-- The first elements are chosen by their keys, whatever else they carry. -/
theorem map_firstOfEach_map (key : α → String) (f : β → α) (seen : List String) (l : List β) :
    (firstOfEach (fun b => key (f b)) seen l).map f = firstOfEach key seen (l.map f) := by
  induction l generalizing seen with
  | nil => rfl
  | cons b l ih =>
    rw [List.map_cons, firstOfEach, firstOfEach]
    by_cases hseen : key (f b) ∈ seen
    · rw [if_pos hseen, if_pos hseen, ih]
    · rw [if_neg hseen, if_neg hseen, List.map_cons, ih]

/-- An element that is not kept has a key that was seen, or that an earlier element has. -/
theorem exists_of_notMem_firstOfEach {seen : List String} {a : α} {l l' : List α}
    (h : a ∉ firstOfEach key seen (l ++ a :: l')) :
    key a ∈ seen ∨ ∃ b ∈ l, key b = key a := by
  induction l generalizing seen with
  | nil =>
    left
    by_contra hseen
    rw [List.nil_append, firstOfEach, if_neg hseen] at h
    exact h List.mem_cons_self
  | cons c l ih =>
    rw [List.cons_append, firstOfEach] at h
    split_ifs at h with hc
    · rcases ih h with hseen | ⟨b, hb, hkey⟩
      · exact .inl hseen
      · exact .inr ⟨b, List.mem_cons_of_mem _ hb, hkey⟩
    · rcases ih (fun hmem => h (List.mem_cons_of_mem _ hmem)) with hseen | ⟨b, hb, hkey⟩
      · rcases List.mem_cons.1 hseen with hkey | hseen
        · exact .inr ⟨c, List.mem_cons_self, hkey.symm⟩
        · exact .inl hseen
      · exact .inr ⟨b, List.mem_cons_of_mem _ hb, hkey⟩

end FirstOfEach

/-! ### Positions and places -/

namespace Table

variable {t : Table} {names : List String} {r s : Row} {i j p : Nat}

/-- The row at a position. -/
def rowAt (t : Table) (i : Nat) : Row :=
  t.rows[i]?.getD []

/-- The place that `group` finds for the row at a position, after all rows before it. -/
def placeOf (t : Table) (names : List String) (i : Nat) : Nat :=
  let indices := names.map t.columns.idxOf
  let columns := t.columnNames (complement t.columns.length indices)
  let before := (t.rows.take i).foldl (Groups.add indices columns) Groups.empty
  (before.enter columns (pick indices (t.rowAt i))).2

/-- The rows with a place, in their order and without the cells of the key. -/
def rowsAt (t : Table) (names : List String) (p : Nat) : Table :=
  ⟨t.columns.filter (· ∉ names),
    ((List.range t.rows.length).filter fun i => t.placeOf names i == p).map fun i =>
      t.without names (t.rowAt i)⟩

/-- The positions of the rows that `distinct` keeps: what it keeps of rows that carry their
positions. -/
def kept (t : Table) (names : List String) : List Nat :=
  (firstOfEach (fun c => rowKey (names.map t.columns.idxOf) c.1) [] t.rows.zipIdx).map Prod.snd

theorem rowAt_eq_getElem (h : i < t.rows.length) : t.rowAt i = t.rows[i] := by
  rw [rowAt, List.getElem?_eq_getElem h, Option.getD_some]

theorem rows_eq_map_rowAt (t : Table) : t.rows = (List.range t.rows.length).map t.rowAt := by
  refine List.ext_getElem (by simp) fun i hi _ => ?_
  rw [List.getElem_map, List.getElem_range, rowAt_eq_getElem hi]

/-- The rows with a key are those at the positions with this key. -/
theorem rowsOf_rows (t : Table) (names : List String) (key : String) :
    (t.rowsOf names key).rows =
      ((List.range t.rows.length).filter fun i => t.keyOf names (t.rowAt i) == key).map
        t.rowAt := by
  show t.rows.filter (fun row => t.keyOf names row == key) = _
  conv_lhs => rw [rows_eq_map_rowAt t, List.filter_map]
  rfl

/-- The place of a row is that of its key among the keys of all rows. -/
theorem idxOf?_placeOf (names : List String) (h : i < t.rows.length) :
    ((firstOfEach (t.keyOf names) [] t.rows).map (t.keyOf names)).idxOf?
      (t.keyOf names (t.rowAt i)) = some (t.placeOf names i) := by
  have hagrees := Groups.agrees_foldl (names.map t.columns.idxOf)
    (t.columnNames (complement t.columns.length (names.map t.columns.idxOf))) (t.rows.take i)
  have hplace := (hagrees.enter (t.rowAt i)).2
  have hrows : t.rows.take i ++ [t.rowAt i] ++ t.rows.drop (i + 1) = t.rows := by
    rw [rowAt_eq_getElem h, List.append_assoc, List.singleton_append, List.getElem_cons_drop,
      List.take_append_drop]
  have hbegin := firstOfEach_prefix_append (t.keyOf names) (t.rows.take i ++ [t.rowAt i])
    (t.rows.drop (i + 1))
  rw [hrows] at hbegin
  rw [rowKey_map_idxOf] at hplace
  exact idxOf?_of_prefix (hbegin.map _) hplace

/-- Rows have the same place when they have the same key. -/
theorem placeOf_eq_iff (hi : i < t.rows.length) (hj : j < t.rows.length) :
    t.placeOf names i = t.placeOf names j ↔
      t.keyOf names (t.rowAt i) = t.keyOf names (t.rowAt j) := by
  have hplacei := idxOf?_placeOf names hi
  have hplacej := idxOf?_placeOf names hj
  constructor
  · intro h
    obtain ⟨hlt, hkeyi, -⟩ := List.idxOf?_eq_some_iff.1 hplacei
    obtain ⟨hlt', hkeyj, -⟩ := List.idxOf?_eq_some_iff.1 hplacej
    rw [← hkeyi, ← hkeyj]
    simp only [h]
  · intro h
    rw [h] at hplacei
    exact Option.some_inj.1 (hplacei.symm.trans hplacej)

/-- A key that stands at a place is the key of the rows with this place. -/
theorem keyOf_eq_iff_placeOf (hi : i < t.rows.length)
    (hp : p < (firstOfEach (t.keyOf names) [] t.rows).length) :
    t.keyOf names (t.rowAt i) = t.keyOf names (firstOfEach (t.keyOf names) [] t.rows)[p] ↔
      t.placeOf names i = p := by
  have hkeys := nodup_map_firstOfEach (t.keyOf names) [] t.rows
  obtain ⟨hlt, hkey, -⟩ := List.idxOf?_eq_some_iff.1 (idxOf?_placeOf names hi)
  have hlt' : p < ((firstOfEach (t.keyOf names) [] t.rows).map (t.keyOf names)).length := by
    simpa using hp
  have hinj : ((firstOfEach (t.keyOf names) [] t.rows).map (t.keyOf names))[t.placeOf names i] =
      ((firstOfEach (t.keyOf names) [] t.rows).map (t.keyOf names))[p] ↔ t.placeOf names i = p :=
    hkeys.getElem_inj_iff
  rwa [hkey, List.getElem_map] at hinj

/-- The rows with the key of a place are those that have gone there. -/
theorem groupOf_eq_rowsAt (hp : p < (firstOfEach (t.keyOf names) [] t.rows).length) :
    t.groupOf names (t.keyOf names (firstOfEach (t.keyOf names) [] t.rows)[p]) =
      t.rowsAt names p := by
  have hpositions : ((List.range t.rows.length).filter fun i => t.keyOf names (t.rowAt i) ==
      t.keyOf names (firstOfEach (t.keyOf names) [] t.rows)[p]) =
        (List.range t.rows.length).filter fun i => t.placeOf names i == p := by
    refine List.filter_congr fun i hi => ?_
    rw [Bool.eq_iff_iff, beq_iff_eq, beq_iff_eq]
    exact keyOf_eq_iff_placeOf (List.mem_range.1 hi) hp
  rw [groupOf, rowsOf_rows, hpositions, List.map_map]
  rfl

/-! ### What is told apart -/

/-- The key of a row can be taken apart: it is one text, or no text of it contains the separator. -/
def Separable (t : Table) (names : List String) (row : Row) : Prop :=
  names.length = 1 ∨ ∀ name ∈ names, (t.cell row name).Plain

/-- Two rows have the same texts under the names. -/
def SameTexts (t : Table) (names : List String) (r s : Row) : Prop :=
  ∀ name ∈ names, (t.cell r name).text = (t.cell s name).text

/-- Two rows hold values of the same kinds under the names, none of which are tables or both
NaN. -/
def SameKinds (t : Table) (names : List String) (r s : Row) : Prop :=
  ∀ name ∈ names, (t.cell r name).kind = (t.cell s name).kind ∧
    (t.cell r name).kind ≠ .table ∧
      ((t.cell r name).isNaN = false ∨ (t.cell s name).isNaN = false)

theorem keyOf_eq_iff (h : t.Separable names r ∨ t.Separable names s) :
    t.keyOf names r = t.keyOf names s ↔ t.SameTexts names r s := by
  have hone : ∀ {r s}, t.Separable names r →
      (t.keyOf names r = t.keyOf names s ↔ t.SameTexts names r s) := by
    intro r s hr
    rw [keyOf, keyOf, compositeKey_eq_iff (by simp)]
    · simp [SameTexts]
    · simpa [Separable] using hr
  rcases h with hr | hs
  · exact hone hr
  · rw [eq_comm, hone hs]
    exact forall₂_congr fun _ _ => eq_comm

theorem sameTexts_iff (h : t.SameKinds names r s) :
    t.SameTexts names r s ↔ ∀ name ∈ names, t.cell r name = t.cell s name := by
  refine forall₂_congr fun name hname => ?_
  obtain ⟨hkind, htable, hnan⟩ := h name hname
  exact Value.text_eq_iff hkind htable hnan

/-- A row that is dropped has the key of an earlier one. -/
theorem exists_of_notMem_kept (hi : i < t.rows.length) (h : i ∉ t.kept names) :
    ∃ j < i, t.keyOf names (t.rowAt j) = t.keyOf names (t.rowAt i) := by
  have hcut : t.rows.zipIdx = (t.rows.take i).zipIdx ++
      (t.rows[i], i) :: (t.rows.drop (i + 1)).zipIdx (i + 1) := by
    conv_lhs => rw [← List.take_append_drop i t.rows, List.zipIdx_append]
    rw [List.drop_eq_getElem_cons hi, List.zipIdx_cons, List.length_take_of_le hi.le, Nat.zero_add]
  have hdropped : (t.rows[i], i) ∉
      firstOfEach (fun c => rowKey (names.map t.columns.idxOf) c.1) [] t.rows.zipIdx :=
    fun hmem => h (List.mem_map_of_mem hmem)
  rw [hcut] at hdropped
  rcases exists_of_notMem_firstOfEach hdropped with hseen | ⟨⟨row, j⟩, hmem, hkey⟩
  · cases hseen
  · obtain ⟨-, hj, hrow⟩ := List.mem_zipIdx hmem
    rw [List.length_take_of_le hi.le] at hj
    simp only [Nat.sub_zero, List.getElem_take] at hrow
    refine ⟨j, by omega, ?_⟩
    rw [rowAt_eq_getElem hi, rowAt_eq_getElem (by omega), ← hrow, ← rowKey_map_idxOf]
    exact hkey

end Table

/-! ### The stages -/

section Stages

variable {t : Table} {names : List String} {nested : String}

/-- The rows that `group` makes: one for each place, with the rows that have gone there. -/
theorem groupColumns_eq_rowsAt (ht : t.WellFormed) (hnames : names.Nodup)
    (h : ∀ name ∈ names, name ∈ t.columns) (hnested : nested ∉ names) :
    ∃ out, groupColumns names nested t = .ok ⟨names ++ [nested], out⟩ ∧
      (∀ i < t.rows.length, t.placeOf names i < out.length) ∧
      ∀ p < out.length, ∃ cells, cells.length = names.length ∧
        out[p]? = some (cells ++ [.nested (t.rowsAt names p)]) := by
  refine ⟨_, groupColumns_eq_ok h hnames hnested, ?_, ?_⟩
  · intro i hi
    obtain ⟨hlt, -⟩ := List.idxOf?_eq_some_iff.1 (Table.idxOf?_placeOf names hi)
    simpa [groupRows_eq ht h] using hlt
  · intro p hp
    rw [groupRows_eq ht h, List.length_map] at hp
    refine ⟨names.map (t.cell (firstOfEach (t.keyOf names) [] t.rows)[p]), List.length_map _, ?_⟩
    rw [groupRows_eq ht h, List.getElem?_map, List.getElem?_eq_getElem hp, Option.map_some,
      Table.groupOf_eq_rowsAt hp]

/-- The rows that `distinct` keeps. -/
theorem distinctRows_eq_kept (hne : names ≠ []) (h : ∀ name ∈ names, name ∈ t.columns) :
    distinctRows names t = ⟨t.columns, (t.kept names).map t.rowAt⟩ := by
  have hindices : distinctIndices names t = .ok (names.map t.columns.idxOf) := by
    rw [distinctIndices, if_neg (by simpa using hne)]
    exact Table.columnIndices_of_forall_mem h
  have hrows : (t.kept names).map t.rowAt =
      (firstOfEach (fun c => rowKey (names.map t.columns.idxOf) c.1) [] t.rows.zipIdx).map
        Prod.fst := by
    rw [Table.kept, List.map_map]
    refine List.map_congr_left fun c hc => ?_
    obtain ⟨-, hlt, hrow⟩ := List.mem_zipIdx ((firstOfEach_sublist _ _ _).subset hc)
    rw [Function.comp_apply, Table.rowAt_eq_getElem (by omega), hrow]
    rfl
  rw [distinctRows, hindices, hrows]
  simp only [map_firstOfEach_map (rowKey (names.map t.columns.idxOf)) Prod.fst,
    List.zipIdx_map_fst]

/-- **Rows are told apart by the texts of their cells.**  `group` puts two rows into the same nested
table exactly when their cells have the same texts; where the cells are of the same kinds, and no
tables or NaN, exactly when they are equal.  `distinct` drops a row only when an earlier one has the
same texts, and so, under the same conditions, the same cells. -/
theorem group_distinct_byText (ht : t.WellFormed) (hne : names ≠ []) (hnames : names.Nodup)
    (h : ∀ name ∈ names, name ∈ t.columns) (hnested : nested ∉ names) :
    (∃ out, groupColumns names nested t = .ok ⟨names ++ [nested], out⟩ ∧
      (∀ i < t.rows.length, t.placeOf names i < out.length) ∧
      ∀ p < out.length, ∃ cells, cells.length = names.length ∧
        out[p]? = some (cells ++ [.nested (t.rowsAt names p)])) ∧
    (∀ i < t.rows.length, ∀ j < t.rows.length,
      t.Separable names (t.rowAt i) ∨ t.Separable names (t.rowAt j) →
        (t.placeOf names i = t.placeOf names j ↔
          t.SameTexts names (t.rowAt i) (t.rowAt j)) ∧
        (t.SameKinds names (t.rowAt i) (t.rowAt j) →
          (t.placeOf names i = t.placeOf names j ↔
            ∀ name ∈ names, t.cell (t.rowAt i) name = t.cell (t.rowAt j) name))) ∧
    distinctRows names t = ⟨t.columns, (t.kept names).map t.rowAt⟩ ∧
    ∀ i < t.rows.length, i ∉ t.kept names → t.Separable names (t.rowAt i) →
      ∃ j < i, t.SameTexts names (t.rowAt j) (t.rowAt i) ∧
        (t.SameKinds names (t.rowAt j) (t.rowAt i) →
          ∀ name ∈ names, t.cell (t.rowAt j) name = t.cell (t.rowAt i) name) := by
  refine ⟨groupColumns_eq_rowsAt ht hnames h hnested, ?_, distinctRows_eq_kept hne h, ?_⟩
  · intro i hi j hj hseparable
    have htexts : t.placeOf names i = t.placeOf names j ↔
        t.SameTexts names (t.rowAt i) (t.rowAt j) :=
      (Table.placeOf_eq_iff hi hj).trans (Table.keyOf_eq_iff hseparable)
    exact ⟨htexts, fun hkinds => htexts.trans (Table.sameTexts_iff hkinds)⟩
  · intro i hi hdropped hseparable
    obtain ⟨j, hj, hkey⟩ := Table.exists_of_notMem_kept hi hdropped
    have htexts := (Table.keyOf_eq_iff (.inr hseparable)).1 hkey
    exact ⟨j, hj, htexts, fun hkinds => (Table.sameTexts_iff hkinds).1 htexts⟩

/-- An integer and a text with its digits go to one place and two doubles to two, whose last row is
dropped for the first of them. -/
theorem group_distinct_byText_mixed :
    let t : Table := ⟨["k", "v"], [[.integer 1, .null], [.string "1", .null],
      [.float 0.5, .boolean true], [.float 1.5, .null], [.float 0.5, .boolean false]]⟩
    t.WellFormed ∧ t.placeOf ["k"] 0 = t.placeOf ["k"] 1 ∧
      t.placeOf ["k"] 2 ≠ t.placeOf ["k"] 3 ∧
      ∃ j < 4, t.SameTexts ["k"] (t.rowAt j) (t.rowAt 4) := by
  intro t
  have ht : t.WellFormed := by
    rw [Table.wellFormed_iff]
    simp [t, Value.WellFormed]
  have htexts := @group_distinct_byText t ["k"] "g" ht (by decide) (by decide) (by decide)
    (by decide)
  have hplaces : ∀ i < 5, ∀ j < 5, (t.placeOf ["k"] i = t.placeOf ["k"] j ↔
      t.SameTexts ["k"] (t.rowAt i) (t.rowAt j)) :=
    fun i hi j hj => (htexts.2.1 i hi j hj (.inl (.inl rfl))).1
  refine ⟨ht, (hplaces 0 (by decide) 1 (by decide)).2 (by unfold Table.SameTexts; decide), ?_, ?_⟩
  · have hkinds : t.SameKinds ["k"] (t.rowAt 2) (t.rowAt 3) := by
      unfold Table.SameKinds
      decide
    rw [Ne, (htexts.2.1 2 (by decide) 3 (by decide) (.inl (.inl rfl))).2 hkinds]
    intro hcells
    have htext := congrArg Value.text (hcells "k" (by decide))
    exact absurd htext (by decide)
  · obtain ⟨j, hj, hsame, -⟩ := htexts.2.2.2 4 (by decide) (by decide) (.inl rfl)
    exact ⟨j, hj, hsame⟩

/-- Two rows that begin with the given cells are taken for the same: they are put into one nested
table, and the second of them is dropped. -/
def Merges (names : List String) (r s : Row) : Prop :=
  let t : Table := ⟨names ++ ["v"], [r ++ [.string "a"], s ++ [.string "b"]]⟩
  t.WellFormed ∧
    groupColumns names "g" t =
      .ok ⟨names ++ ["g"], [r ++ [.nested ⟨["v"], [[.string "a"], [.string "b"]]⟩]]⟩ ∧
    distinctRows names t = ⟨names ++ ["v"], [r ++ [.string "a"]]⟩

/-- **Different values may have the same key.**  This happens to values of different kinds, as the
integer `1` and the text `1`; to tables with such values; to NaN, which is not equal to itself; and
to texts that contain the separator, where there is more than one of them. -/
theorem group_distinct_merge :
    (Merges ["k"] [.integer 1] [.string "1"] ∧ Value.integer 1 ≠ Value.string "1") ∧
    (Merges ["k"] [.nested ⟨["a"], [[.integer 1]]⟩] [.nested ⟨["a"], [[.string "1"]]⟩] ∧
      Value.nested ⟨["a"], [[.integer 1]]⟩ ≠ Value.nested ⟨["a"], [[.string "1"]]⟩) ∧
    (Merges ["k"] [.float (0 / 0)] [.float (0 / 0)] ∧ ((0 / 0 : Float) == 0 / 0) = false) ∧
    (Merges ["k", "l"] [.string "a\x00", .string "b"] [.string "a", .string "\x00b"] ∧
      Value.string "a\x00" ≠ Value.string "a") := by
  refine ⟨⟨⟨?_, by rfl, by rfl⟩, by simp⟩, ⟨⟨?_, by rfl, by rfl⟩, by simp⟩,
    ⟨⟨?_, by rfl, by rfl⟩, by rfl⟩, ⟨⟨?_, by rfl, by rfl⟩, by simp⟩⟩
  all_goals simp [Table.wellFormed_iff, Value.WellFormed]

end Stages

end TablePipeline
