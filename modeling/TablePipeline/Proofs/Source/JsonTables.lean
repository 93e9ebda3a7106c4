import TablePipeline.Proofs.Json.RoundTrip
import TablePipeline.Proofs.Pipeline.WellFormed
import TablePipeline.Source.Load

/-!
# Tables written as JSON load back

A table is written as an array of objects, one for each row, and the columns of a loaded table are
the names in the objects in the order in which they first occur.  The first object has all columns
in their order and the others have no further name, so the columns are the same again, provided that
there is a first row.  A member is then found under its name, because names are distinct, and what a
cell is written as is read as the same cell, with two exceptions: a double may be written as an
integer or as null, and a table is read as its text.

## Main definitions

* `utf8Bytes` — a text as bytes

## Main statements

* `unionNames_rowMembers` — the columns
* `recordRow_rowMembers` — the rows
* `loadBytes_toJson` — tables
-/

namespace TablePipeline

/-- The bytes of a text in UTF-8. -/
def utf8Bytes (s : String) : List UInt8 :=
  s.toUTF8.data.toList

theorem fromUTF8?_utf8Bytes (s : String) :
    String.fromUTF8? (utf8Bytes s).toByteArray = some s := by
  have hbytes : (utf8Bytes s).toByteArray = s.toUTF8 := by
    refine ByteArray.ext ?_
    rw [List.data_toByteArray, utf8Bytes, Array.toArray_toList]
  have hvalid : s.toUTF8.IsValidUTF8 := s.isValidUTF8
  rw [hbytes, String.fromUTF8?, dif_pos hvalid]
  rfl

/-! ### Columns -/

section Columns

variable {names : List String} {record : Members} {columns : List String} {rows : List Row}
  {row : Row}

/-- New names go behind the others in their order. -/
theorem addNames_of_nodup (h : (names ++ record.map Prod.fst).Nodup) :
    addNames names record = names ++ record.map Prod.fst := by
  induction record generalizing names with
  | nil => rw [addNames, List.map_nil, List.append_nil]
  | cons m record ih =>
    have hm : m.1 ∉ names := by
      rw [List.map_cons, List.nodup_middle, List.nodup_cons, List.mem_append, not_or] at h
      exact h.1.1
    rw [List.map_cons, ← List.singleton_append, ← List.append_assoc] at h
    rw [addNames, if_neg hm, ih h, List.map_cons, List.append_assoc, List.singleton_append]

theorem addNames_of_subset (h : ∀ name ∈ record.map Prod.fst, name ∈ names) :
    addNames names record = names := by
  induction record with
  | nil => rfl
  | cons m record ih =>
    rw [List.map_cons, List.forall_mem_cons] at h
    rw [addNames, if_pos h.1, ih h.2]

theorem map_fst_rowMembers (h : row.length = columns.length) :
    (rowMembers columns row).map Prod.fst = columns := by
  induction columns generalizing row with
  | nil =>
    rw [List.length_eq_zero_iff.1 h]
    rfl
  | cons column columns ih =>
    cases row with
    | nil => cases h
    | cons v row => rw [rowMembers, List.map_cons, ih (Nat.succ.inj h)]

/-- The columns are those of the first row. -/
theorem unionNames_rowMembers (hcolumns : columns.Nodup)
    (hrows : ∀ row ∈ rows, row.length = columns.length) (h : rows ≠ [] ∨ columns = []) :
    unionNames (rows.map (rowMembers columns)) = columns := by
  have hsame : ∀ rows : List Row, (∀ row ∈ rows, row.length = columns.length) →
      (rows.map (rowMembers columns)).foldl addNames columns = columns := by
    intro rows hrows
    induction rows with
    | nil => rfl
    | cons row rows ih =>
      rw [List.forall_mem_cons] at hrows
      have hnames : ∀ name ∈ (rowMembers columns row).map Prod.fst, name ∈ columns := by
        rw [map_fst_rowMembers hrows.1]
        exact fun _ h => h
      rw [List.map_cons, List.foldl_cons, addNames_of_subset hnames]
      exact ih hrows.2
  rw [unionNames]
  cases rows with
  | nil =>
    rw [h.resolve_left (fun hne => hne rfl)]
    rfl
  | cons row rows =>
    rw [List.forall_mem_cons] at hrows
    have hfirst : addNames [] (rowMembers columns row) = columns := by
      rw [addNames_of_nodup, List.nil_append, map_fst_rowMembers hrows.1]
      rwa [List.nil_append, map_fst_rowMembers hrows.1]
    rw [List.map_cons, List.foldl_cons, hfirst]
    exact hsame rows hrows.2

end Columns

/-! ### Rows -/

section Rows

variable {columns : List String} {row : Row} {v : Value} {depth : Nat}

/-- What a cell is written as is read as the same cell. -/
theorem toValue_toJson (hfloat : v.kind ≠ .float) (htable : v.kind ≠ .table) :
    v.toJson.toValue = v := by
  cases v with
  | null | boolean | string => rfl
  | integer n =>
    show numberCell (integerText n.toInt) = _
    rw [numberCell, readInteger?_integerText]
  | float x => exact absurd rfl hfloat
  | nested t => exact absurd rfl htable

theorem recordRow_rowMembers (hcolumns : columns.Nodup) (h : row.length = columns.length)
    (hcells : ∀ v ∈ row, v.kind ≠ .float ∧ v.kind ≠ .table) :
    recordRow columns (rowMembers columns row) = row := by
  induction columns generalizing row with
  | nil => rw [List.length_eq_zero_iff.1 h]; rfl
  | cons column columns ih =>
    cases row with
    | nil => cases h
    | cons v row =>
      rw [List.nodup_cons] at hcolumns
      rw [List.forall_mem_cons] at hcells
      have hhead : JsonValue.member? column (rowMembers (column :: columns) (v :: row)) =
          some v.toJson := by
        rw [rowMembers, JsonValue.member?, if_pos rfl]
      -- the other names are different, so their members are found in the rest
      have htail : ∀ name ∈ columns,
          JsonValue.member? name (rowMembers (column :: columns) (v :: row)) =
            JsonValue.member? name (rowMembers columns row) := by
        intro name hname
        have hne : column ≠ name := fun heq => hcolumns.1 (heq ▸ hname)
        rw [rowMembers, JsonValue.member?, if_neg hne]
      rw [recordRow, List.map_cons, hhead, Option.map_some, Option.getD_some,
        toValue_toJson hcells.1.1 hcells.1.2]
      refine congrArg (v :: ·) ?_
      rw [List.map_congr_left fun name hname => by rw [htail name hname]]
      exact ih hcolumns.2 (Nat.succ.inj h) hcells.2

theorem exists_of_mem_rowMembers {m : String × JsonValue} (h : m ∈ rowMembers columns row) :
    ∃ v ∈ row, m.2 = v.toJson := by
  induction columns generalizing row with
  | nil => rw [rowMembers_eq_zipWith] at h; cases h
  | cons column columns ih =>
    cases row with
    | nil => cases h
    | cons v row =>
      rw [rowMembers, List.mem_cons] at h
      rcases h with rfl | h
      · exact ⟨v, List.mem_cons_self, rfl⟩
      · obtain ⟨w, hw, hm⟩ := ih h
        exact ⟨w, List.mem_cons_of_mem v hw, hm⟩

/-- A cell that is no double and no table is read back from its text. -/
theorem recoverable_toJson (hfloat : v.kind ≠ .float) (htable : v.kind ≠ .table) :
    v.toJson.Recoverable depth := by
  cases v with
  | null | boolean | string => cases depth <;> trivial
  | integer n => cases depth <;> exact ⟨n.toInt, rfl⟩
  | float x => exact absurd rfl hfloat
  | nested t => exact absurd rfl htable

end Rows

/-! ### Tables -/

section Tables

variable {t : Table}

/-- The table that is loaded from the objects of a table is the table. -/
theorem ofRecords_rowMembers (ht : t.WellFormed) (h : t.rows ≠ [] ∨ t.columns = [])
    (hcells : ∀ row ∈ t.rows, ∀ v ∈ row, v.kind ≠ .float ∧ v.kind ≠ .table) :
    Table.ofRecords (t.rows.map (rowMembers t.columns)) = t := by
  have hrows : (t.rows.map (rowMembers t.columns)).map (recordRow t.columns) = t.rows := by
    rw [List.map_map]
    refine (List.map_congr_left fun row hrow => ?_).trans (List.map_id _)
    exact recordRow_rowMembers ht.nodup_columns (ht.length_row hrow) (hcells row hrow)
  simp only [Table.ofRecords, unionNames_rowMembers ht.nodup_columns
    (fun row hrow => ht.length_row hrow) h, hrows]
  cases t
  rfl

theorem recoverable_table (ht : t.WellFormed)
    (hcells : ∀ row ∈ t.rows, ∀ v ∈ row, v.kind ≠ .float ∧ v.kind ≠ .table) :
    t.toJson.Recoverable jsonDepth := by
  rw [Table.toJson, rowObjects_eq_map]
  intro v hv
  obtain ⟨row, hrow, rfl⟩ := List.mem_map.1 hv
  refine ⟨?_, fun m hm => ?_⟩
  · rw [map_fst_rowMembers (ht.length_row hrow)]
    exact ht.nodup_columns
  · obtain ⟨v, hv, hm⟩ := exists_of_mem_rowMembers hm
    obtain ⟨hfloat, htable⟩ := hcells row hrow v hv
    rw [hm]
    exact recoverable_toJson hfloat htable

/-- A text that reads as the JSON of a table loads as the table. -/
theorem loadBytes_of_read? {s : String} (ht : t.WellFormed) (h : t.rows ≠ [] ∨ t.columns = [])
    (hcells : ∀ row ∈ t.rows, ∀ v ∈ row, v.kind ≠ .float ∧ v.kind ≠ .table)
    (hread : JsonValue.read? s.toList = some t.toJson) :
    loadBytes .json (utf8Bytes s) = .ok t := by
  have hrecords : t.toJson.toRecords? = some (t.rows.map (rowMembers t.columns)) := by
    rw [Table.toJson, rowObjects_eq_map, JsonValue.toRecords?, List.mapM_map]
    exact List.mapM_pure
  show readJson (utf8Bytes s) = .ok t
  unfold readJson
  simp only [fromUTF8?_utf8Bytes, hread, hrecords, Option.bind_eq_bind, Option.bind_some,
    ofRecords_rowMembers ht h hcells]

/-- **Tables written as JSON load back**, on one line or over several, when they have a row or no
column, and no cell holds a double or a table. -/
theorem loadBytes_toJson (ht : t.WellFormed) (h : t.rows ≠ [] ∨ t.columns = [])
    (hcells : ∀ row ∈ t.rows, ∀ v ∈ row, v.kind ≠ .float ∧ v.kind ≠ .table) :
    loadBytes .json (utf8Bytes t.toJson.compact) = .ok t ∧
      loadBytes .json (utf8Bytes t.toJson.pretty) = .ok t := by
  have hrecoverable := recoverable_table ht hcells
  constructor
  · exact loadBytes_of_read? ht h hcells (JsonValue.read?_compact hrecoverable)
  · exact loadBytes_of_read? ht h hcells (JsonValue.read?_pretty hrecoverable)

/-- Every kind of cell that loads back, with a quote, a control character and the least integer. -/
theorem loadBytes_toJson_mixed :
    let t : Table := ⟨["", "n\n"], [[.string "a\"\x01", .integer (-9223372036854775808)],
      [.null, .boolean true]]⟩
    t.WellFormed ∧ loadBytes .json (utf8Bytes t.toJson.compact) = .ok t ∧
      loadBytes .json (utf8Bytes t.toJson.pretty) = .ok t := by
  intro t
  have ht : t.WellFormed := by
    rw [Table.wellFormed_iff]
    simp [t, Value.WellFormed]
  have hcells : ∀ row ∈ t.rows, ∀ v ∈ row, v.kind ≠ .float ∧ v.kind ≠ .table := by
    simp [t, Value.kind]
  exact ⟨ht, loadBytes_toJson ht (.inl (List.cons_ne_nil _ _)) hcells⟩

end Tables

end TablePipeline
