import Mathlib.Data.List.Nodup
import Mathlib.Tactic.NormNum
import TablePipeline.Report.Rendering

/-!
# The columns of aligned text

A table is shown in lines of one length, and every column stands in the same place in all of them.
Three parts of the code make this so without looking at one another: the widths are maxima that are
carried over the rows, each cell is padded to its width, and the padded cells are joined with bars.

The place of a column is its offset from the beginning of the line, `columnStart`, which depends on
the widths only.  A line is laid out (`LaidOut`) if behind each offset stands a text with its fill,
and a bar before the next; joining puts one column in front of such a line (`LaidOut.cons`).  The
rule under the names is a line of the same kind, with empty texts, dashes for fill and a bar of its
own.  The widths are the greatest lengths in their columns (`Widest`), and the widening by one row
keeps that true with this row among the others (`Widest.widen`).

All of this holds up to the greatest width that can be padded to; a table with a wider column has no
text at all.

## Main definitions

* `columnStart`, `LaidOut` — the columns of a line
* `Widest` — widths that are maxima
* `Table.Alignment` — the lines of a table

## Main statements

* `Table.render?_aligned` — the lines of the text of a table
* `Table.render?_wide` — a table without a text
-/

namespace TablePipeline

/-! ### Lines with columns -/

/-- Where a column begins in a line: behind the columns in front of it and their bars. -/
def columnStart (widths : List Nat) (j : Nat) : Nat :=
  (widths.take j).sum + 3 * j

/-- A line in which every column is its text and then nothing but fill, up to the width of the
column, and in which a bar stands between two columns. -/
structure LaidOut (widths : List Nat) (bar : List Char) (fill : Char) (texts : List (List Char))
    (line : List Char) : Prop where
  length : line.length = widths.sum + 3 * (widths.length - 1)
  cell : ∀ j (h : j < widths.length), ∃ text, texts[j]? = some text ∧
    (line.drop (columnStart widths j)).take widths[j] =
      text ++ List.replicate (widths[j] - text.length) fill
  bar : ∀ j (h : j + 1 < widths.length),
    (line.drop (columnStart widths j + widths[j])).take 3 = bar

section Lines

variable {w : Nat} {widths : List Nat} {fill : Char} {bar text line : List Char}
  {texts : List (List Char)}

/-- A text with the fill that takes it to the width. -/
def filled (fill : Char) (width : Nat) (text : List Char) : List Char :=
  text ++ List.replicate (width - text.length) fill

theorem length_filled (h : text.length ≤ w) : (filled fill w text).length = w := by
  rw [filled, List.length_append, List.length_replicate]
  omega

theorem columnStart_zero (widths : List Nat) : columnStart widths 0 = 0 := by
  simp [columnStart]

theorem columnStart_succ (w : Nat) (widths : List Nat) (j : Nat) :
    columnStart (w :: widths) (j + 1) = w + 3 + columnStart widths j := by
  simp only [columnStart, List.take_succ_cons, List.sum_cons]
  omega

theorem LaidOut.singleton (h : text.length ≤ w) :
    LaidOut [w] bar fill [text] (filled fill w text) where
  length := by simp [length_filled h]
  cell := by
    intro j hj
    obtain rfl : j = 0 := by simpa using hj
    refine ⟨text, rfl, ?_⟩
    rw [columnStart_zero, List.drop_zero]
    exact List.take_of_length_le (length_filled h).le
  bar := by
    intro j hj
    simp at hj

/-- One more column in front of a line. -/
theorem LaidOut.cons (h : text.length ≤ w) (hbar : bar.length = 3) (hne : widths ≠ [])
    (hline : LaidOut widths bar fill texts line) :
    LaidOut (w :: widths) bar fill (text :: texts) (filled fill w text ++ (bar ++ line)) := by
  have hpos : 0 < widths.length := List.length_pos_iff.2 hne
  have hfilled : (filled fill w text).length = w := length_filled h
  -- what stands behind the first column and its bar is the line
  have hdrop : ∀ n, (filled fill w text ++ (bar ++ line)).drop (w + 3 + n) = line.drop n := by
    intro n
    rw [← List.drop_drop, ← List.drop_drop, List.drop_left' hfilled, List.drop_left' hbar]
  refine ⟨?_, ?_, ?_⟩
  · simp only [List.length_append, hfilled, hbar, hline.length, List.sum_cons, List.length_cons]
    omega
  · intro j hj
    cases j with
    | zero =>
      refine ⟨text, rfl, ?_⟩
      rw [columnStart_zero, List.drop_zero]
      exact List.take_left' hfilled
    | succ j =>
      obtain ⟨cell, hcell, htake⟩ := hline.cell j (Nat.lt_of_succ_lt_succ hj)
      refine ⟨cell, hcell, ?_⟩
      rw [columnStart_succ, hdrop]
      exact htake
  · intro j hj
    cases j with
    | zero =>
      rw [columnStart_zero, Nat.zero_add]
      exact (congrArg (List.take 3) (List.drop_left' hfilled)).trans (List.take_left' hbar)
    | succ j =>
      rw [columnStart_succ, Nat.add_assoc, hdrop]
      exact hline.bar j (Nat.lt_of_succ_lt_succ hj)

/-- Texts that fit, each with its fill and with bars between them, are laid out. -/
theorem laidOut_intercalate (hbar : bar.length = 3) (hne : widths ≠ [])
    (hfit : List.Forall₂ (fun w text => text.length ≤ w) widths texts) :
    LaidOut widths bar fill texts (bar.intercalate (List.zipWith (filled fill) widths texts)) := by
  induction hfit with
  | nil => exact absurd rfl hne
  | @cons w text widths texts h hfit ih =>
    cases hfit with
    | nil =>
      rw [List.zipWith_cons_cons, List.zipWith_nil_right, List.intercalate_singleton]
      exact .singleton h
    | cons h' hfit =>
      rw [List.zipWith_cons_cons, List.zipWith_cons_cons, List.intercalate_cons_cons,
        List.append_assoc]
      exact .cons h hbar (List.cons_ne_nil _ _) (ih (List.cons_ne_nil _ _))

theorem notMem_intercalate {c : Char} {cells : List (List Char)} (hbar : c ∉ bar)
    (hcells : ∀ cell ∈ cells, c ∉ cell) : c ∉ bar.intercalate cells := by
  induction cells with
  | nil => exact List.not_mem_nil
  | cons cell cells ih =>
    obtain ⟨hcell, hcells⟩ := List.forall_mem_cons.1 hcells
    cases cells with
    | nil =>
      rw [List.intercalate_singleton]
      exact hcell
    | cons cell' cells =>
      rw [List.intercalate_cons_cons, List.mem_append, List.mem_append]
      exact fun h => h.elim (fun h => h.elim hcell hbar) (ih hcells)

theorem notMem_filled {c : Char} (hfill : c ≠ fill) (htext : c ∉ text) :
    c ∉ filled fill w text := by
  rw [filled, List.mem_append]
  exact fun h => h.elim htext fun h => hfill (List.eq_of_mem_replicate h)

/-- The parts of a line have no line feed, so neither has the line. -/
theorem notMem_line {c : Char} (hbar : c ∉ bar) (hfill : c ≠ fill)
    (htexts : ∀ text ∈ texts, c ∉ text) :
    c ∉ bar.intercalate (List.zipWith (filled fill) widths texts) := by
  refine notMem_intercalate hbar fun cell hcell => ?_
  rw [← List.map_uncurry_zip_eq_zipWith] at hcell
  obtain ⟨⟨w, text⟩, hmem, rfl⟩ := List.mem_map.1 hcell
  exact notMem_filled hfill (htexts text (List.of_mem_zip hmem).2)

end Lines

/-! ### Widths -/

/-- The widths are the greatest lengths of texts in their columns. -/
def Widest (lines : List (List (List Char))) (widths : List Nat) : Prop :=
  ∀ j (h : j < widths.length),
    IsGreatest {n | ∃ texts ∈ lines, ∃ text, texts[j]? = some text ∧ text.length = n} widths[j]

section Widths

variable {widths : List Nat} {texts : List (List Char)} {lines more : List (List (List Char))}

theorem getElem_widen (hlen : texts.length = widths.length) {j : Nat} (h : j < widths.length)
    (h' : j < (widen widths texts).length) :
    (widen widths texts)[j] = max widths[j] texts[j].length := by
  fun_induction widen widths texts generalizing j with
  | case1 w widths text texts ih =>
    cases j with
    | zero => rfl
    | succ j => exact ih (Nat.succ.inj hlen) (Nat.lt_of_succ_lt_succ h) _
  | case2 texts widths hne =>
    cases widths with
    | nil => exact absurd h (Nat.not_lt_zero j)
    | cons w widths =>
      cases texts with
      | nil => cases hlen
      | cons text texts => exact (hne w widths text texts rfl rfl).elim

/-- The lengths of the texts of one line are its widths. -/
theorem widest_singleton (texts : List (List Char)) : Widest [texts] (texts.map List.length) := by
  intro j hj
  have hj' : j < texts.length := by simpa using hj
  refine ⟨⟨texts, List.mem_singleton_self _, texts[j], List.getElem?_eq_getElem hj', ?_⟩, ?_⟩
  · rw [List.getElem_map]
  · rintro n ⟨texts', hmem, text, htext, rfl⟩
    obtain rfl := List.mem_singleton.1 hmem
    obtain ⟨hlt, rfl⟩ := List.getElem?_eq_some_iff.1 htext
    rw [List.getElem_map]

/-- The lengths in a column of some lines and of one more. -/
theorem lengths_append {j : Nat} (h : j < texts.length) :
    {n | ∃ us ∈ lines ++ [texts], ∃ text, us[j]? = some text ∧ text.length = n} =
      {n | ∃ us ∈ lines, ∃ text, us[j]? = some text ∧ text.length = n} ∪ {texts[j].length} := by
  ext n
  simp only [Set.mem_union, Set.mem_ofPred_eq, Set.mem_singleton_iff, List.mem_append,
    List.mem_singleton, or_and_right, exists_or, exists_eq_left, List.getElem?_eq_getElem h,
    Option.some.injEq, exists_eq_left']
  exact or_congr_right eq_comm

/-- Widened by a line, the widths are maxima with this line among the others. -/
theorem Widest.widen (h : Widest lines widths) (hlen : texts.length = widths.length) :
    Widest (lines ++ [texts]) (TablePipeline.widen widths texts) := by
  intro j hj
  have hj' : j < widths.length := length_widen widths texts ▸ hj
  rw [getElem_widen hlen hj', lengths_append (hlen ▸ hj')]
  exact (h j hj').union isGreatest_singleton

/-- Widened by one line after the other, they are maxima with all of them among the others. -/
theorem Widest.foldl_widen (h : Widest lines widths)
    (hlen : ∀ texts ∈ more, texts.length = widths.length) :
    Widest (lines ++ more) (more.foldl TablePipeline.widen widths) := by
  induction more generalizing lines widths with
  | nil => rwa [List.append_nil, List.foldl_nil]
  | cons texts more ih =>
    obtain ⟨htexts, hmore⟩ := List.forall_mem_cons.1 hlen
    rw [List.foldl_cons, List.append_cons]
    exact ih (h.widen htexts) fun us hus => (hmore us hus).trans (length_widen _ _).symm

/-- A text is not longer than the width of its column. -/
theorem Widest.fits (h : Widest lines widths) (hmem : texts ∈ lines)
    (hlen : texts.length = widths.length) :
    List.Forall₂ (fun w text => text.length ≤ w) widths texts := by
  refine List.forall₂_iff_get.2 ⟨hlen.symm, fun j hj hj' => ?_⟩
  exact (h j hj).2 ⟨texts, hmem, texts[j], List.getElem?_eq_getElem hj', rfl⟩

end Widths

/-! ### The lines of a table -/

/-- The texts of a table by lines, those of the column names in front. -/
def Table.texts (t : Table) : List (List (List Char)) :=
  t.columns.map String.toList :: t.rows.map cellTexts

/-- The lines of a table: the names, the rule and one line for each row, with every column in the
same place. -/
structure Table.Alignment (t : Table) (widths : List Nat) (header rule : List Char)
    (body : List (List Char)) : Prop where
  names : LaidOut widths [' ', '|', ' '] ' ' (t.columns.map String.toList) header
  dashes : LaidOut widths ['-', '+', '-'] '-' (t.columns.map fun _ => []) rule
  cells : List.Forall₂ (LaidOut widths [' ', '|', ' '] ' ') (t.rows.map cellTexts) body
  noLineFeed : ∀ line ∈ header :: rule :: body, '\n' ∉ line

section Table

variable {t : Table} {texts : List (List Char)}

theorem Table.length_of_mem_texts (h : t.WellFormed) (hmem : texts ∈ t.texts) :
    texts.length = t.columns.length := by
  rcases List.mem_cons.1 hmem with rfl | hrow
  · exact List.length_map _
  · obtain ⟨row, hmem', rfl⟩ := List.mem_map.1 hrow
    rw [cellTexts, List.length_map]
    exact ((wellFormed_iff.1 h).2 row hmem').1

/-- The widths of a table are those of its texts. -/
theorem Table.widest_columnWidths (h : t.WellFormed) : Widest t.texts (columnWidths t) := by
  have hnames : t.columns.map String.length = (t.columns.map String.toList).map List.length := by
    rw [List.map_map]
    exact List.map_congr_left fun name _ => String.length_toList.symm
  show Widest ([_] ++ _) _
  rw [columnWidths, hnames]
  refine (widest_singleton _).foldl_widen fun texts hmem => ?_
  rw [List.length_map, List.length_map]
  exact Table.length_of_mem_texts h (List.mem_cons_of_mem _ hmem)

/-- A line without its line feed. -/
def Table.line (t : Table) (bar : List Char) (fill : Char) (texts : List (List Char)) : List Char :=
  bar.intercalate (List.zipWith (filled fill) (columnWidths t) texts)

theorem Table.laidOut_line (h : t.WellFormed) (hne : t.columns ≠ []) (hmem : texts ∈ t.texts) :
    LaidOut (columnWidths t) [' ', '|', ' '] ' ' texts (t.line [' ', '|', ' '] ' ' texts) := by
  have hlen := length_columnWidths t
  refine laidOut_intercalate rfl ?_ ?_
  · exact List.length_pos_iff.1 (hlen ▸ List.length_pos_iff.2 hne)
  · exact (widest_columnWidths h).fits hmem ((length_of_mem_texts h hmem).trans hlen.symm)

theorem Table.laidOut_rule (hne : t.columns ≠ []) :
    LaidOut (columnWidths t) ['-', '+', '-'] '-' (t.columns.map fun _ => [])
      (t.line ['-', '+', '-'] '-' (t.columns.map fun _ => [])) := by
  have hlen := length_columnWidths t
  refine laidOut_intercalate rfl ?_ ?_
  · exact List.length_pos_iff.1 (hlen ▸ List.length_pos_iff.2 hne)
  · refine List.forall₂_iff_get.2 ⟨by rw [List.length_map, hlen], fun j hj hj' => ?_⟩
    rw [List.get_eq_getElem, List.getElem_map]
    exact Nat.zero_le _

/-- The lines of a table are its names, its rule and its rows. -/
theorem Table.alignment (h : t.WellFormed) (hne : t.columns ≠ [])
    (htexts : ∀ texts ∈ t.texts, ∀ text ∈ texts, '\n' ∉ text) :
    t.Alignment (columnWidths t) (t.line [' ', '|', ' '] ' ' (t.columns.map String.toList))
      (t.line ['-', '+', '-'] '-' (t.columns.map fun _ => []))
      (t.rows.map fun row => t.line [' ', '|', ' '] ' ' (cellTexts row)) where
  names := laidOut_line h hne List.mem_cons_self
  dashes := laidOut_rule hne
  cells := by
    rw [List.forall₂_map_left_iff, List.forall₂_map_right_iff, List.forall₂_same]
    exact fun row hrow => laidOut_line h hne (List.mem_cons_of_mem _ (List.mem_map_of_mem hrow))
  noLineFeed := by
    simp only [List.forall_mem_cons, List.forall_mem_map]
    refine ⟨?_, ?_, fun row hrow => ?_⟩
    · exact notMem_line (by decide) (by decide) (htexts _ List.mem_cons_self)
    · refine notMem_line (by decide) (by decide) (List.forall_mem_map.2 fun name _ => ?_)
      exact List.not_mem_nil
    · refine notMem_line (by decide) (by decide) (htexts _ ?_)
      exact List.mem_cons_of_mem _ (List.mem_map_of_mem hrow)

theorem Table.ruleLine_eq (t : Table) :
    ruleLine (columnWidths t) =
      t.line ['-', '+', '-'] '-' (t.columns.map fun _ => []) ++ ['\n'] := by
  have hcells : (columnWidths t).map (List.replicate · '-') =
      List.zipWith (filled '-') (columnWidths t) (t.columns.map fun _ => []) := by
    refine List.ext_getElem ?_ fun j hj hj' => ?_
    · simp [length_columnWidths]
    · simp [filled]
  rw [ruleLine, line, hcells]

/-- The text of a table is its lines, each ended by a line feed. -/
theorem Table.alignedText_eq (hne : t.columns ≠ []) :
    t.alignedText = String.ofList
      ((t.line [' ', '|', ' '] ' ' (t.columns.map String.toList) ::
        t.line ['-', '+', '-'] '-' (t.columns.map fun _ => []) ::
        t.rows.map fun row => t.line [' ', '|', ' '] ' ' (cellTexts row)).map
          (· ++ ['\n'])).flatten := by
  rw [alignedText, if_neg (by rwa [List.isEmpty_iff]), alignedLines, ruleLine_eq]
  simp only [List.map_cons, List.map_map]
  rfl

end Table

theorem Table.breaksOff_iff {t : Table} :
    t.breaksOff = true ↔ ∃ w ∈ columnWidths t, greatestWidth < w := by
  rw [breaksOff, List.any_eq_true]
  simp only [decide_eq_true_eq]

/-- **Aligned text.**  In a well-formed table with columns let no name and no text of a cell have a
line feed in it.  There are widths, each the greatest length of the texts in its column.  If one of
them is beyond the greatest width that can be padded to, the table has no text; otherwise its text
is the line of the names, the rule and a line for every row, all laid out by the widths. -/
theorem Table.render?_aligned {t : Table} (h : t.WellFormed) (hne : t.columns ≠ [])
    (hnames : ∀ name ∈ t.columns, '\n' ∉ name.toList)
    (hcells : ∀ row ∈ t.rows, ∀ v ∈ row, '\n' ∉ v.text.toList) :
    ∃ widths : List Nat, widths.length = t.columns.length ∧ Widest t.texts widths ∧
      ((∃ w ∈ widths, greatestWidth < w) → t.render? .aligned = none) ∧
      ((∀ w ∈ widths, w ≤ greatestWidth) → ∃ header rule body,
        t.Alignment widths header rule body ∧ (header :: rule :: body).length = t.rows.length + 2 ∧
        t.render? .aligned =
          some (String.ofList ((header :: rule :: body).map (· ++ ['\n'])).flatten)) := by
  have htexts : ∀ texts ∈ t.texts, ∀ text ∈ texts, '\n' ∉ text := by
    simpa [Table.texts, cellTexts] using ⟨hnames, hcells⟩
  refine ⟨columnWidths t, length_columnWidths t, widest_columnWidths h, ?_, ?_⟩
  · intro hwide
    exact if_pos ⟨rfl, breaksOff_iff.2 hwide⟩
  · intro hnarrow
    refine ⟨_, _, _, alignment h hne htexts, ?_, ?_⟩
    · simp
    · rw [render?, if_neg, render, alignedText_eq hne]
      rintro ⟨-, hwide⟩
      obtain ⟨w, hw, hlt⟩ := breaksOff_iff.1 hwide
      exact absurd (hnarrow w hw) (Nat.not_le.2 hlt)

/-- Two columns, the first as wide as its name and the second as wide as a text. -/
theorem Table.render?_aligned_two :
    let t : Table := ⟨["name", "n"], [[.string "ä|", .null], [.string "", .string "x y"]]⟩
    (t.WellFormed ∧ t.columns ≠ [] ∧ (∀ name ∈ t.columns, '\n' ∉ name.toList) ∧
        ∀ row ∈ t.rows, ∀ v ∈ row, '\n' ∉ v.text.toList) ∧
      (∃ widths : List Nat, widths.length = t.columns.length ∧ Widest t.texts widths ∧
        ((∃ w ∈ widths, greatestWidth < w) → t.render? .aligned = none) ∧
        ((∀ w ∈ widths, w ≤ greatestWidth) → ∃ header rule body,
          t.Alignment widths header rule body ∧
            (header :: rule :: body).length = t.rows.length + 2 ∧
            t.render? .aligned =
              some (String.ofList ((header :: rule :: body).map (· ++ ['\n'])).flatten))) ∧
      t.render? .aligned = some "name | n   \n-----+-----\nä|   | null\n     | x y \n" := by
  intro t
  have h : t.WellFormed := by
    refine wellFormed_iff.2 ⟨by decide, ?_⟩
    simp [t, Value.WellFormed]
  have hnames : ∀ name ∈ t.columns, '\n' ∉ name.toList := by
    simp [t]
  have hcells : ∀ row ∈ t.rows, ∀ v ∈ row, '\n' ∉ v.text.toList := by
    simp [t, Value.text]
  have hne : t.columns ≠ [] := List.cons_ne_nil _ _
  exact ⟨⟨h, hne, hnames, hcells⟩, render?_aligned h hne hnames hcells, by decide⟩

/-- **A table without a text.**  It has one column and no rows, and the name of the column has one
character more than can be padded to. -/
theorem Table.render?_wide :
    let t : Table := ⟨[String.ofList (List.replicate 65536 'a')], []⟩
    (t.WellFormed ∧ t.columns ≠ [] ∧ (∀ name ∈ t.columns, '\n' ∉ name.toList) ∧
        ∀ row ∈ t.rows, ∀ v ∈ row, '\n' ∉ v.text.toList) ∧
      t.render? .aligned = none := by
  intro t
  have hrows : ∀ row ∈ t.rows, False := fun row hrow => List.not_mem_nil hrow
  have h : t.WellFormed :=
    wellFormed_iff.2 ⟨List.nodup_singleton _, fun row hrow => (hrows row hrow).elim⟩
  have hnames : ∀ name ∈ t.columns, '\n' ∉ name.toList := by
    simp only [t, List.forall_mem_singleton, String.toList_ofList]
    exact fun hmem => absurd (List.eq_of_mem_replicate hmem) (by decide)
  have hwidth : columnWidths t = [65536] := by
    rw [columnWidths, List.map_nil, List.foldl_nil, List.map_singleton, String.length_ofList,
      List.length_replicate]
  refine ⟨⟨h, List.cons_ne_nil _ _, hnames, fun row hrow => (hrows row hrow).elim⟩,
    if_pos ⟨rfl, breaksOff_iff.2 ?_⟩⟩
  exact ⟨65536, hwidth ▸ List.mem_cons_self, by decide⟩

end TablePipeline
