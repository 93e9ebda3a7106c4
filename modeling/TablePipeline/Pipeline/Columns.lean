import TablePipeline.Pipeline.Error
import TablePipeline.Query.Operation

/-!
# Stages that choose and name columns

`select` keeps the named columns in the named order, `remove` keeps all others in their own order,
and `rename` changes names and leaves the rows alone.  The first two are the same projection on
different positions.

## Main definitions

* `Table.columnIndices` — the positions of columns that have to exist
* `Table.project` — the columns at given positions
* `complement` — the positions that are not among given ones
* `selectColumns`, `removeColumns`, `renameColumns` — the stages
-/

namespace TablePipeline

/-- The cells of a row at given positions. -/
def pick (indices : List Nat) (row : Row) : Row :=
  indices.map (cellAt row)

/-- The positions below `width` that are not among the given ones. -/
def complement (width : Nat) (indices : List Nat) : List Nat :=
  (List.range width).filter (· ∉ indices)

@[simp] theorem length_pick (indices : List Nat) (row : Row) :
    (pick indices row).length = indices.length := by
  simp [pick]

@[simp] theorem mem_complement {width i : Nat} {indices : List Nat} :
    i ∈ complement width indices ↔ i < width ∧ i ∉ indices := by
  simp [complement]

namespace Table

/-- The positions of columns that have to exist. -/
def columnIndices (t : Table) (names : List String) : Except SchemaError (List Nat) :=
  names.mapM t.requireColumn

/-- The names of the columns at given positions. -/
def columnNames (t : Table) (indices : List Nat) : List String :=
  indices.map fun i => t.columns[i]?.getD ""

/-- The columns at given positions, in that order. -/
def project (t : Table) (indices : List Nat) : Table :=
  ⟨t.columnNames indices, t.rows.map (pick indices)⟩

end Table

/-- The named columns in the named order.  Unknown names are refused before repeated ones. -/
def selectColumns (columns : List String) (t : Table) : StageResult :=
  StageLabel.ofSchema (.stage "select") do
    let indices ← t.columnIndices columns
    checkDistinct columns
    pure (t.project indices)

/-- All but the named columns. -/
def removeColumns (columns : List String) (t : Table) : StageResult :=
  StageLabel.ofSchema (.stage "remove") do
    let indices ← t.columnIndices columns
    pure (t.project (complement t.columns.length indices))

/-- The names after each pair in turn has renamed the first column of its old name. -/
def renameAll : List RenamePair → List String → Except SchemaError (List String)
  | [], columns => .ok columns
  | pair :: rest, columns =>
    match columns.idxOf? pair.old with
    | some i => renameAll rest (columns.set i pair.new)
    | none => .error (.unknownColumn pair.old)

/-- The columns under their new names, which have to be distinct when all pairs are done. -/
def renameColumns (pairs : List RenamePair) (t : Table) : StageResult :=
  StageLabel.ofSchema (.stage "rename") do
    let columns ← renameAll pairs t.columns
    checkDistinct columns
    pure ⟨columns, t.rows⟩

/-- Renaming changes no number of columns. -/
theorem length_of_renameAll {pairs : List RenamePair} {columns renamed : List String}
    (h : renameAll pairs columns = .ok renamed) : renamed.length = columns.length := by
  induction pairs generalizing columns with
  | nil => cases h; rfl
  | cons pair rest ih =>
    unfold renameAll at h
    split at h
    · simpa using ih h
    · cases h

end TablePipeline
