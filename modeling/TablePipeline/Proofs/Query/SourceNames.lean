import TablePipeline.Proofs.Query.Composition

/-!
# The name of a source

The lexer has a mode of its own for the name of a source: the name goes on up to white space or a
bar, so that slashes, dashes, points and digits in it are no signs and no numbers.  All the same it
shares with the other words the gap that is skipped in front of it, what remains of the text, and
the kind of the last token, on which the reading of a minus depends.

None of this lets the name have an effect on what stands behind it.  A plain name is read as it is
and leaves the blank behind it; the kind of the token is that of any name; and from there the words
of the text depend on these two only (`Cuts`).  Positions differ, but they come into complaints and
not into operations.

The gap is why a plain name must not begin with two slashes.  They begin a comment wherever a gap
may stand, and in front of the name of a source there may be one: then the line is skipped together
with the stages on it, and where no other line follows the name is missing.

## Main statements

* `Query.parse_of_parse` — the stages behind one plain name and behind another
* `Query.parse_source_iff` — any plain name
* `Query.parse_comment_for_name` — a name that is taken for a comment
-/

namespace TablePipeline

section Source

variable {name other stages : String}

theorem toList_stagesBehind (name stages : String) :
    (name ++ " | " ++ stages).toList = name.toList ++ ' ' :: '|' :: ' ' :: stages.toList := by
  simp

/-- What is read behind one plain name is read behind another. -/
theorem Query.parse_of_parse (h : PlainSource name) (hother : PlainSource other) {q : Query}
    (hq : Query.parse (other ++ " | " ++ stages) = .ok q) :
    Query.parse (name ++ " | " ++ stages) = .ok ⟨name, q.operations⟩ := by
  obtain ⟨ts, rest, hcuts, hops⟩ :=
    Query.cuts_of_parse hother (toList_stagesBehind other stages) hq
  refine Query.parse_of_cuts h (toList_stagesBehind name stages) hcuts fun us hus => ?_
  -- no operations follow, so nothing is left
  have hread := parseOperations_append hops hus parseOperations_nil
  rwa [List.append_nil, List.append_nil] at hread

/-- A text of visible ASCII characters has no white space in it. -/
theorem noBlank_of_visible {cs : List Char} (h : ∀ c ∈ cs, 0x20 < c.toNat ∧ c.toNat < 0x85) :
    ∀ c ∈ cs, isBlank c = false :=
  fun c hc => isBlank_eq_false (h c hc).1 (h c hc).2

theorem plainSource_table : PlainSource "x.csv" :=
  ⟨by decide, noBlank_of_visible (by simp), by decide, by decide, by decide⟩

/-- **The name of a source is read whole and does not influence the rest.**  Behind any plain name
the same stages are read as the same operations as behind `x.csv`, and the source of the query is
the name. -/
theorem Query.parse_source_iff (h : PlainSource name) (stages : String) (ops : List Operation) :
    (∃ q, Query.parse ("x.csv" ++ " | " ++ stages) = .ok q ∧ q.operations = ops) ↔
      Query.parse (name ++ " | " ++ stages) = .ok ⟨name, ops⟩ := by
  constructor
  · rintro ⟨q, hq, rfl⟩
    exact Query.parse_of_parse h plainSource_table hq
  · intro hq
    exact ⟨_, Query.parse_of_parse plainSource_table h hq, rfl⟩

end Source

set_option maxRecDepth 1000 in
/-- A path in which two slashes, a minus and a number stand, all of it the name. -/
theorem Query.parse_source_iff_path :
    PlainSource "./-1//a.csv" ∧
      ((∃ q, Query.parse ("x.csv" ++ " | " ++ "tail 1") = .ok q ∧ q.operations = [.tail 1]) ↔
        Query.parse ("./-1//a.csv" ++ " | " ++ "tail 1") = .ok ⟨"./-1//a.csv", [.tail 1]⟩) ∧
      ∃ q, Query.parse ("x.csv" ++ " | " ++ "tail 1") = .ok q ∧ q.operations = [.tail 1] := by
  have hplain : PlainSource "./-1//a.csv" :=
    ⟨by decide, noBlank_of_visible (by simp), by decide, by decide, by decide⟩
  have htable : Query.parse ("x.csv" ++ " | " ++ "tail 1") = .ok ⟨"x.csv", [.tail 1]⟩ := by
    with_unfolding_all rfl
  exact ⟨hplain, Query.parse_source_iff hplain "tail 1" [.tail 1], _, htable, rfl⟩

/-- **A name that begins with two slashes is no name.**  It has neither white space nor a bar nor a
quote, and behind `x.csv` the stages are read; but the whole line is a comment. -/
theorem Query.parse_comment_for_name :
    ("//a.csv" ≠ "" ∧ (∀ c ∈ "//a.csv".toList, isBlank c = false) ∧ '|' ∉ "//a.csv".toList ∧
        "//a.csv".toList.head? ≠ some '"' ∧ "//a.csv".toList.head? ≠ some '`') ∧
      Query.parse ("x.csv" ++ " | " ++ "count") = .ok ⟨"x.csv", [.count]⟩ ∧
      Query.parse ("//a.csv" ++ " | " ++ "count") = .error (.missingSource 15) := by
  refine ⟨⟨by decide, noBlank_of_visible (by simp), by decide, by decide, by decide⟩, ?_, ?_⟩
  · with_unfolding_all rfl
  · with_unfolding_all rfl

end TablePipeline
