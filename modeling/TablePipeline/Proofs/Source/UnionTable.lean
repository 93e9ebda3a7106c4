import TablePipeline.Proofs.Json.Spelled
import TablePipeline.Proofs.Outcome
import TablePipeline.Proofs.Table.Positions
import TablePipeline.Source.Load

/-!
# The table of all members

A table that is loaded from JSON objects has all their names as columns and in each row all members
of one object (`Table.IsUnion`).  This determines the table.

Nothing is lost on the way.  A row can be had by taking the members of its object out one by one, in
the order of the columns, where the last member of what is left comes to stand in the place of the
one that was taken (`takeMember`).  So the order of the members changes with every step, but not
which members there are, since no name is there twice: what is left are those with a name that has
not been asked for (`drainRow_eq`), and at the end nothing is.  That no name is there twice is
ensured by the reader.

## Main definitions

* `takeMember`, `drainRow` — members taken out of an object
* `Table.IsUnion` — the table that has all members of objects

## Main statements

* `drainRow_eq` — the row of an object and what is left of it
* `Table.ofRecords_eq_iff` — the table of a list of objects
* `load_union` — the table of a text
-/

namespace TablePipeline

/-! ### Columns -/

theorem addNames_eq_foldl (names : List String) (record : Members) :
    addNames names record = (record.map Prod.fst).foldl
      (fun names name => if name ∈ names then names else names ++ [name]) names := by
  fun_induction addNames names record with
  | case1 => rfl
  | case2 names name _ rest ih => rw [ih, List.map_cons, List.foldl_cons]

/-- **The columns** are the names of all members, each once, in order of first occurrence. -/
theorem unionNames_eq (records : List Members) :
    unionNames records = (records.flatMap (·.map Prod.fst)).eraseDups := by
  have h := foldl_addNew [] (records.flatMap (·.map Prod.fst))
  rw [List.foldl_flatMap, List.nil_append, List.filter_eq_self.2 (by simp)] at h
  rw [← h, unionNames]
  refine congrFun (congrFun (congrArg List.foldl ?_) _) _
  funext names record
  exact addNames_eq_foldl names record

/-! ### Members -/

namespace JsonValue

variable {name : String} {v : JsonValue} {record : Members}

theorem member?_eq_some_iff (h : (record.map Prod.fst).Nodup) :
    member? name record = some v ↔ (name, v) ∈ record := by
  induction record with
  | nil => exact iff_of_false nofun nofun
  | cons m rest ih =>
    rw [List.map_cons, List.nodup_cons] at h
    rw [member?, List.mem_cons, Prod.ext_iff]
    by_cases hname : m.1 = name
    · have hrest : (name, v) ∉ rest := fun hmem => h.1 (hname ▸ List.mem_map_of_mem hmem)
      rw [if_pos hname, Option.some_inj, or_iff_left hrest, hname]
      exact ⟨fun hv => ⟨rfl, hv.symm⟩, fun hv => hv.2.symm⟩
    · rw [if_neg hname, ih h.2, or_iff_right]
      exact fun heq => hname heq.1.symm

theorem member?_eq_none_iff : member? name record = none ↔ name ∉ record.map Prod.fst := by
  induction record with
  | nil => exact iff_of_true rfl nofun
  | cons m rest ih =>
    rw [member?, List.map_cons, List.mem_cons, not_or]
    by_cases hname : m.1 = name
    · rw [if_pos hname]
      exact iff_of_false nofun fun h => h.1 hname.symm
    · rw [if_neg hname, ih, and_iff_right (Ne.symm hname)]

end JsonValue

/-- Takes the member of a name out of an object.  The last member comes to stand in its place. -/
def takeMember (name : String) : Members → Option JsonValue × Members
  | [] => (none, [])
  | (other, v) :: rest =>
    if other = name then (some v, rest.getLast?.toList ++ rest.dropLast)
    else ((takeMember name rest).1, (other, v) :: (takeMember name rest).2)

/-- Takes the members of some names out of an object, one after the other: their cells, and what is
left of the object. -/
def drainRow : List String → Members → Row × Members
  | [], record => ([], record)
  | name :: names, record =>
    let taken := takeMember name record
    let drained := drainRow names taken.2
    ((taken.1.map JsonValue.toValue).getD .null :: drained.1, drained.2)

section Members

variable {name : String} {record : Members} {columns : List String}

theorem fst_takeMember (name : String) (record : Members) :
    (takeMember name record).1 = JsonValue.member? name record := by
  fun_induction takeMember name record with
  | case1 => rfl
  | case2 v rest => rw [JsonValue.member?, if_pos rfl]
  | case3 other v rest hne ih => rw [JsonValue.member?, if_neg hne, ih]

/-- What is left are the members with other names, in some order. -/
theorem snd_takeMember_perm (h : (record.map Prod.fst).Nodup) :
    (takeMember name record).2.Perm (record.filter (·.1 ≠ name)) := by
  fun_induction takeMember name record with
  | case1 => exact List.Perm.nil
  | case2 v rest =>
    rw [List.map_cons, List.nodup_cons] at h
    have hrest : rest.filter (·.1 ≠ name) = rest := by
      rw [List.filter_eq_self]
      intro m hm
      have hname : m.1 ≠ name := by
        rintro rfl
        have hmem : m.1 ∈ rest.map Prod.fst := List.mem_map_of_mem hm
        exact h.1 hmem
      simpa using hname
    rw [List.filter_cons_of_neg (by simp), hrest]
    cases hlast : rest.getLast? with
    | none =>
      rw [List.getLast?_eq_none_iff.1 hlast]
      exact List.Perm.nil
    | some last =>
      refine List.perm_append_comm.trans (List.Perm.of_eq ?_)
      exact List.dropLast_append_getLast? last hlast
  | case3 other v rest hne ih =>
    rw [List.map_cons, List.nodup_cons] at h
    rw [List.filter_cons_of_pos (by simpa using hne)]
    exact (ih h.2).cons _

theorem nodup_snd_takeMember (h : (record.map Prod.fst).Nodup) (name : String) :
    ((takeMember name record).2.map Prod.fst).Nodup := by
  rw [((snd_takeMember_perm h).map Prod.fst).nodup_iff]
  exact h.sublist (List.filter_sublist.map Prod.fst)

/-- A member that is taken out does not change what the others are. -/
theorem member?_snd_takeMember {other : String} (h : (record.map Prod.fst).Nodup)
    (hne : other ≠ name) :
    JsonValue.member? other (takeMember name record).2 = JsonValue.member? other record := by
  ext v
  rw [JsonValue.member?_eq_some_iff (nodup_snd_takeMember h name),
    JsonValue.member?_eq_some_iff h, (snd_takeMember_perm h).mem_iff, List.mem_filter]
  exact and_iff_left (by simpa using hne)

/-- **Taking members out** in the order of the columns gives the row of an object, and leaves the
members of which the name is no column. -/
theorem drainRow_eq (hrecord : (record.map Prod.fst).Nodup) (hcolumns : columns.Nodup) :
    (drainRow columns record).1 = recordRow columns record ∧
      (drainRow columns record).2.Perm (record.filter (·.1 ∉ columns)) := by
  induction columns generalizing record with
  | nil =>
    refine ⟨rfl, List.Perm.of_eq ?_⟩
    exact (List.filter_eq_self.2 (by simp)).symm
  | cons name columns ih =>
    rw [List.nodup_cons] at hcolumns
    obtain ⟨hrow, hleft⟩ := ih (nodup_snd_takeMember hrecord name) hcolumns.2
    have hrest : recordRow columns (takeMember name record).2 = recordRow columns record := by
      refine List.map_congr_left fun other hother => ?_
      have hne : other ≠ name := by
        rintro rfl
        exact hcolumns.1 hother
      rw [member?_snd_takeMember hrecord hne]
    constructor
    · rw [drainRow, hrow, hrest, fst_takeMember]
      rfl
    · refine (hleft.trans ((snd_takeMember_perm hrecord).filter _)).trans (List.Perm.of_eq ?_)
      rw [List.filter_filter]
      refine List.filter_congr fun m _ => ?_
      rw [Bool.eq_iff_iff]
      simp [and_comm]

theorem cellAt_recordRow (h : name ∈ columns) :
    cellAt (recordRow columns record) (columns.idxOf name) =
      ((JsonValue.member? name record).map JsonValue.toValue).getD .null := by
  rw [cellAt, recordRow, List.getElem?_map, List.getElem?_idxOf h]
  rfl

end Members

/-! ### Tables -/

namespace Table

variable {t : Table} {records : List Members}

/-- The columns are the names of all members, each once, in order of first occurrence, and for each
object there is a row that holds its members under their names and null elsewhere. -/
structure IsUnion (t : Table) (records : List Members) : Prop where
  columns : t.columns = (records.flatMap (·.map Prod.fst)).eraseDups
  rows : List.Forall₂ (fun record row => row.length = t.columns.length ∧
    (∀ name v, (name, v) ∈ record → name ∈ t.columns ∧ t.cell row name = v.toValue) ∧
    ∀ name ∈ t.columns, name ∉ record.map Prod.fst → t.cell row name = .null) records t.rows

theorem mem_unionNames {record : Members} {m : String × JsonValue} (hrecord : record ∈ records)
    (hm : m ∈ record) : m.1 ∈ unionNames records := by
  rw [unionNames_eq, List.mem_eraseDups]
  exact List.mem_flatMap.2 ⟨record, hrecord, List.mem_map_of_mem hm⟩

/-- Nothing is left of an object when all columns have been taken out. -/
theorem drainRow_unionNames {record : Members} (hrecord : record ∈ records)
    (h : (record.map Prod.fst).Nodup) :
    drainRow (unionNames records) record = (recordRow (unionNames records) record, []) := by
  obtain ⟨hrow, hleft⟩ := drainRow_eq h (nodup_unionNames records)
  have hnone : record.filter (·.1 ∉ unionNames records) = [] := by
    rw [List.filter_eq_nil_iff]
    intro m hm
    simpa using mem_unionNames hrecord hm
  rw [hnone] at hleft
  exact Prod.ext hrow hleft.eq_nil

theorem isUnion_ofRecords (h : ∀ record ∈ records, (record.map Prod.fst).Nodup) :
    (ofRecords records).IsUnion records where
  columns := unionNames_eq records
  rows := by
    refine List.forall₂_map_right_iff.2 (List.forall₂_same.2 fun record hrecord => ?_)
    refine ⟨List.length_map _, fun name v hm => ?_, fun name hname hnone => ?_⟩
    · have hname := mem_unionNames hrecord hm
      refine ⟨hname, (cellAt_recordRow hname).trans ?_⟩
      rw [(JsonValue.member?_eq_some_iff (h record hrecord)).2 hm]
      rfl
    · refine (cellAt_recordRow hname).trans ?_
      rw [JsonValue.member?_eq_none_iff.2 hnone]
      rfl

theorem IsUnion.eq_ofRecords (ht : t.IsUnion records)
    (h : ∀ record ∈ records, (record.map Prod.fst).Nodup) : ofRecords records = t := by
  obtain ⟨columns, rows⟩ := t
  obtain rfl : unionNames records = columns := (unionNames_eq records).trans ht.columns.symm
  refine congrArg (Table.mk _) ?_
  rw [← List.forall₂_eq_eq_eq, List.forall₂_map_left_iff]
  refine ((List.forall₂_and_left _ _).2 ⟨h, ht.rows⟩).imp fun record row hrow => ?_
  obtain ⟨hrecord, hlength, hmembers, hnulls⟩ := hrow
  rw [← map_cellAt_idxOf (nodup_unionNames records) hlength]
  refine List.map_congr_left fun name hname => ?_
  cases hmember : JsonValue.member? name record with
  | none => exact (hnulls name hname (JsonValue.member?_eq_none_iff.1 hmember)).symm
  | some v =>
    exact (hmembers name v ((JsonValue.member?_eq_some_iff hrecord).1 hmember)).2.symm

/-- **The table of a list of objects** is the one that has all their members. -/
theorem ofRecords_eq_iff (h : ∀ record ∈ records, (record.map Prod.fst).Nodup) :
    ofRecords records = t ↔ t.IsUnion records := by
  constructor
  · rintro rfl
    exact isUnion_ofRecords h
  · exact fun ht => ht.eq_ofRecords h

end Table

/-! ### Objects that are read -/

section Reading

variable {cs : List Char} {records : List Members}

/-- The names of an object are distinct however it is spelled. -/
theorem SpellsJson.nodup {depth : Nat} {record : Members} {u : List Char}
    (h : SpellsJson depth (.object record) u) : (record.map Prod.fst).Nodup := by
  obtain ⟨-, written, -, -, rfl, -⟩ := h.object
  exact JsonValue.nodup_collectMembers written

theorem JsonValue.toRecord?_eq_some_iff {v : JsonValue} {record : Members} :
    v.toRecord? = some record ↔ v = .object record := by
  cases v <;> simp [toRecord?]

theorem eq_map_of_mapM_toRecord? {items : List JsonValue}
    (h : items.mapM JsonValue.toRecord? = some records) : items = records.map .object := by
  induction items generalizing records with
  | nil =>
    cases h
    rfl
  | cons v items ih =>
    rw [List.mapM_cons, Option.bind_eq_bind, Option.bind_eq_some_iff] at h
    obtain ⟨record, hrecord, h⟩ := h
    obtain ⟨rest, hrest, h⟩ := Option.bind_eq_some_iff.1 h
    cases h
    rw [ih hrest, JsonValue.toRecord?_eq_some_iff.1 hrecord, List.map_cons]

theorem nodup_of_toRecord? {v : JsonValue} {record : Members} (h : JsonValue.read? cs = some v)
    (hrecord : v.toRecord? = some record) : (record.map Prod.fst).Nodup := by
  obtain rfl := JsonValue.toRecord?_eq_some_iff.1 hrecord
  cases JsonValue.read?_eq_some_iff.1 h with
  | intro _ value _ => exact value.nodup

/-- The objects in an array have distinct names, since each item was read as a value. -/
theorem nodup_of_toRecords? {v : JsonValue} (h : JsonValue.read? cs = some v)
    (hrecords : v.toRecords? = some records) :
    ∀ record ∈ records, (record.map Prod.fst).Nodup := by
  cases v with
  | array items =>
    obtain rfl := eq_map_of_mapM_toRecord? hrecords
    intro record hrecord
    cases JsonValue.read?_eq_some_iff.1 h with
    | intro _ value _ =>
      obtain ⟨_, _, -, -, hitems⟩ := value.array
      obtain ⟨u, hu⟩ := hitems.exists_of_mem _ (List.mem_map_of_mem hrecord)
      exact hu.nodup
  | null | boolean | number | string | object => cases hrecords

theorem nodup_of_readJsonLine {number : Nat} {line : List UInt8} {record : Members}
    (h : readJsonLine number line = .ok (some record)) : (record.map Prod.fst).Nodup := by
  unfold readJsonLine at h
  split at h
  · cases h
  · dsimp only at h
    split at h
    · cases h
    · split at h
      · rename_i found hfound
        cases h
        obtain ⟨v, hread, hrecord⟩ := Option.bind_eq_some_iff.1 hfound
        exact nodup_of_toRecord? hread hrecord
      · cases h

/-- The objects on lines have distinct names. -/
theorem nodup_of_readJsonLinesFrom {number : Nat} {lines : List (List UInt8)}
    (h : readJsonLinesFrom number lines = .ok records) :
    ∀ record ∈ records, (record.map Prod.fst).Nodup := by
  induction lines generalizing number records with
  | nil =>
    cases h
    exact nofun
  | cons line lines ih =>
    obtain ⟨first, hfirst, h⟩ := bind_eq_ok_iff.1 h
    obtain ⟨rest, hrest, h⟩ := bind_eq_ok_iff.1 h
    rw [← pure_eq_ok_iff.1 h, List.forall_mem_append]
    refine ⟨?_, ih hrest⟩
    cases first with
    | none => exact nofun
    | some record => exact List.forall_mem_singleton.2 (nodup_of_readJsonLine hfirst)

end Reading

/-- The objects of a text that is an array of objects. -/
def jsonRecords? (bytes : List UInt8) : Option (List Members) := do
  let s ← String.fromUTF8? bytes.toByteArray
  let v ← JsonValue.read? s.toList
  v.toRecords?

theorem nodup_of_jsonRecords? {bytes : List UInt8} {records : List Members}
    (h : jsonRecords? bytes = some records) :
    ∀ record ∈ records, (record.map Prod.fst).Nodup := by
  obtain ⟨s, -, h⟩ := Option.bind_eq_some_iff.1 h
  obtain ⟨v, hread, h⟩ := Option.bind_eq_some_iff.1 h
  exact nodup_of_toRecords? hread h

theorem readJson_eq_ok_iff {bytes : List UInt8} {t : Table} :
    readJson bytes = .ok t ↔
      ∃ records, jsonRecords? bytes = some records ∧ Table.ofRecords records = t := by
  unfold readJson jsonRecords?
  dsimp only
  split
  · rename_i records h
    rw [h]
    simp
  · rename_i h
    rw [h]
    simp

theorem readJsonLines_eq_ok_iff {bytes : List UInt8} {t : Table} :
    readJsonLines bytes = .ok t ↔
      ∃ records, readJsonLinesFrom 1 (splitLines bytes) = .ok records ∧
        Table.ofRecords records = t := by
  rw [readJsonLines, bind_eq_ok_iff]
  simp only [pure_eq_ok_iff]

/-- **Loading objects.**  The table of objects with distinct names is the one that has all their
members, and it is had by taking the members of each object out until nothing is left.  So an array
of objects, or objects on lines, load exactly as this table. -/
theorem load_union :
    (∀ records : List Members, (∀ record ∈ records, (record.map Prod.fst).Nodup) →
      (∀ t, Table.ofRecords records = t ↔ t.IsUnion records) ∧
      records.map (drainRow (Table.ofRecords records).columns) =
        (Table.ofRecords records).rows.map fun row => (row, [])) ∧
    ∀ (bytes : List UInt8) (t : Table),
      (loadBytes .json bytes = .ok t ↔
        ∃ records, jsonRecords? bytes = some records ∧ t.IsUnion records) ∧
      (loadBytes .jsonLines bytes = .ok t ↔
        ∃ records, readJsonLinesFrom 1 (splitLines bytes) = .ok records ∧ t.IsUnion records) := by
  refine ⟨fun records h => ⟨fun t => Table.ofRecords_eq_iff h, ?_⟩, fun bytes t => ⟨?_, ?_⟩⟩
  · rw [Table.ofRecords, List.map_map]
    exact List.map_congr_left fun record hrecord =>
      Table.drainRow_unionNames hrecord (h record hrecord)
  · refine readJson_eq_ok_iff.trans (exists_congr fun records => and_congr_right fun h => ?_)
    exact Table.ofRecords_eq_iff (nodup_of_jsonRecords? h)
  · refine readJsonLines_eq_ok_iff.trans (exists_congr fun records => and_congr_right fun h => ?_)
    exact Table.ofRecords_eq_iff (nodup_of_readJsonLinesFrom h)

/-- Objects with other names and in another order. -/
def mixedRecords : List Members :=
  [[("a", .number ['1']), ("b", .null), ("c", .string "x")],
    [("c", .boolean true), ("d", .array [.null]), ("a", .number ['2'])], [("b", .string "y")]]

/-- The first cell of the second row comes from the last member of its object.  In the first object
the last member stands in front once the first one is taken out. -/
theorem load_union_mixed :
    Table.IsUnion ⟨["a", "b", "c", "d"],
      [[.integer 1, .null, .string "x", .null],
        [.integer 2, .null, .boolean true, .string "[null]"],
        [.null, .string "y", .null, .null]]⟩ mixedRecords ∧
      drainRow ["a", "b", "c", "d"] mixedRecords[0] =
        ([.integer 1, .null, .string "x", .null], []) := by
  have h := load_union.1 mixedRecords (by decide)
  exact ⟨(h.1 _).1 rfl, (List.cons.inj h.2).1⟩

end TablePipeline
