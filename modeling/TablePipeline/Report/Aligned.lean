import TablePipeline.Value.Text

/-!
# Aligned text

A table as lines of text.  Every cell is padded with spaces to the width of its column, which is
that of the widest text in it, counted in characters; bars stand between the columns and a rule
stands under the column names.  A table without columns has no lines.

The width to which a text can be padded is a number of 16 bits.  A program that is to pad a text to
more than that breaks off.

## Main definitions

* `columnWidths` — the widths of the columns
* `padCell`, `alignedLine`, `ruleLine` — the parts of lines
* `Table.alignedText` — the whole text
* `Table.breaksOff` — whether a column is too wide for it
-/

namespace TablePipeline

/-- The texts of the cells of a row. -/
def cellTexts (row : Row) : List (List Char) :=
  row.map (·.text.toList)

/-- The widths, each widened to hold the text in its column. -/
def widen (widths : List Nat) (texts : List (List Char)) : List Nat :=
  match widths, texts with
  | w :: widths, text :: texts => max w text.length :: widen widths texts
  | widths, _ => widths

/-- The widths of the columns: those of the names, widened by one row after the other. -/
def columnWidths (t : Table) : List Nat :=
  (t.rows.map cellTexts).foldl widen (t.columns.map (·.length))

/-- The greatest width to which a text can be padded. -/
def greatestWidth : Nat :=
  65535

/-- A text padded with spaces to a width. -/
def padCell (width : Nat) (text : List Char) : List Char :=
  text ++ List.replicate (width - text.length) ' '

/-- A line of cells. -/
def alignedLine (widths : List Nat) (texts : List (List Char)) : List Char :=
  [' ', '|', ' '].intercalate (List.zipWith padCell widths texts) ++ ['\n']

/-- The line under the column names. -/
def ruleLine (widths : List Nat) : List Char :=
  ['-', '+', '-'].intercalate (widths.map (List.replicate · '-')) ++ ['\n']

/-- The lines of a table with columns. -/
def alignedLines (t : Table) : List (List Char) :=
  let widths := columnWidths t
  alignedLine widths (t.columns.map (·.toList)) :: ruleLine widths ::
    t.rows.map fun row => alignedLine widths (cellTexts row)

/-- The text of a table. -/
def Table.alignedText (t : Table) : String :=
  if t.columns.isEmpty then "" else String.ofList (alignedLines t).flatten

/-- Whether the program breaks off while it pads the cells.  The line of the column names has a
cell for every column, so one column that is too wide is enough, whatever the rows are. -/
def Table.breaksOff (t : Table) : Bool :=
  (columnWidths t).any (greatestWidth < ·)

theorem length_widen (widths : List Nat) (texts : List (List Char)) :
    (widen widths texts).length = widths.length := by
  fun_induction widen widths texts with
  | case1 w widths text texts ih => simp only [List.length_cons, ih]
  | case2 => rfl

/-- There is a width for every column. -/
theorem length_columnWidths (t : Table) : (columnWidths t).length = t.columns.length := by
  suffices h : ∀ (rows : List (List (List Char))) (widths : List Nat),
      (rows.foldl widen widths).length = widths.length by
    rw [columnWidths, h, List.length_map]
  intro rows
  induction rows with
  | nil => exact fun _ => rfl
  | cons row rest ih => exact fun widths => (ih _).trans (length_widen widths row)

end TablePipeline
