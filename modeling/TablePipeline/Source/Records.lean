import TablePipeline.Json.Cell
import TablePipeline.Json.Reader
import TablePipeline.Source.Error
import TablePipeline.Text.Blank

/-!
# Tables from JSON objects

A list of objects is a table: its columns are the names of all members, in the order in which they
first occur, and a row holds the values of one object, null where it has no such member.  The
objects come as one array, or one on each line, blank lines not counting.

## Main definitions

* `unionNames` — the columns
* `Table.ofRecords` — the table of a list of objects
* `readRecords?` — the objects of an array
* `readJson`, `readJsonLines` — the tables of texts
-/

namespace TablePipeline

/-- The names that are not yet among `names`, each once, behind those. -/
def addNames (names : List String) : Members → List String
  | [] => names
  | (name, _) :: rest => addNames (if name ∈ names then names else names ++ [name]) rest

/-- The names of all members, in order of first occurrence. -/
def unionNames (records : List Members) : List String :=
  records.foldl addNames []

/-- The row of an object. -/
def recordRow (columns : List String) (record : Members) : Row :=
  columns.map fun column => ((JsonValue.member? column record).map JsonValue.toValue).getD .null

/-- The table of a list of objects. -/
def Table.ofRecords (records : List Members) : Table :=
  let columns := unionNames records
  ⟨columns, records.map (recordRow columns)⟩

theorem nodup_addNames {names : List String} (h : names.Nodup) (record : Members) :
    (addNames names record).Nodup := by
  fun_induction addNames names record with
  | case1 => exact h
  | case2 names name _ rest ih =>
    apply ih
    split
    · exact h
    · rename_i hn
      rw [List.nodup_append]
      refine ⟨h, by simp, ?_⟩
      rintro a ha b hb rfl
      exact hn (List.mem_singleton.1 hb ▸ ha)

/-- The columns are distinct. -/
theorem nodup_unionNames (records : List Members) : (unionNames records).Nodup := by
  suffices h : ∀ names : List String, names.Nodup → (records.foldl addNames names).Nodup from
    h [] List.nodup_nil
  induction records with
  | nil => exact fun _ h => h
  | cons record rest ih => exact fun _ h => ih _ (nodup_addNames h record)

/-- The members of an object. -/
def JsonValue.toRecord? : JsonValue → Option Members
  | .object members => some members
  | _ => none

/-- The objects of an array of objects. -/
def JsonValue.toRecords? : JsonValue → Option (List Members)
  | .array items => items.mapM JsonValue.toRecord?
  | _ => none

/-- The table of a text that is an array of objects. -/
def readJson (bytes : List UInt8) : Except LoadError Table :=
  let records := do
    let s ← String.fromUTF8? bytes.toByteArray
    let v ← JsonValue.read? s.toList
    v.toRecords?
  match records with
  | some records => .ok (Table.ofRecords records)
  | none => .error .badJson

/-- The parts between line feeds. -/
def splitLines : List UInt8 → List (List UInt8)
  | [] => [[]]
  | b :: rest =>
    if b = 0x0A then [] :: splitLines rest
    else
      match splitLines rest with
      | [] => [[b]]
      | line :: lines => (b :: line) :: lines

/-- The object on a line, or none when the line is blank. -/
def readJsonLine (number : Nat) (line : List UInt8) : Except LoadError (Option Members) :=
  match String.fromUTF8? line.toByteArray with
  | none => .error .cannotRead
  | some s =>
    let text := trimBlanks s.toList
    if text.isEmpty then .ok none
    else
      match (JsonValue.read? text).bind JsonValue.toRecord? with
      | some record => .ok (some record)
      | none => .error (.badJsonLine number)

/-- The objects on lines, of which the first has the given number. -/
def readJsonLinesFrom : Nat → List (List UInt8) → Except LoadError (List Members)
  | _, [] => .ok []
  | number, line :: rest => do
    let record ← readJsonLine number line
    let records ← readJsonLinesFrom (number + 1) rest
    pure (record.toList ++ records)

/-- The table of a text with one object on each line. -/
def readJsonLines (bytes : List UInt8) : Except LoadError Table := do
  let records ← readJsonLinesFrom 1 (splitLines bytes)
  pure (Table.ofRecords records)

end TablePipeline
