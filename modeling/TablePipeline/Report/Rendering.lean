import TablePipeline.Json.Cell
import TablePipeline.Report.Aligned

/-!
# Renderings

The ways in which the result of a pipeline is shown: as aligned text, or as JSON on one line or on
several.

## Main definitions

* `Rendering`, `Table.render` — a choice, and the text by it
* `Table.render?` — the text, if the program comes to it
-/

namespace TablePipeline

/-- How a table is shown. -/
inductive Rendering
  | aligned
  | json
  | prettyJson
  deriving DecidableEq

/-- The text of a table. -/
def Table.render (t : Table) : Rendering → String
  | .aligned => t.alignedText
  | .json => t.toJson.compact
  | .prettyJson => t.toJson.pretty

/-- The text of a table, unless the program breaks off before it is complete. -/
def Table.render? (t : Table) (r : Rendering) : Option String :=
  if r = .aligned ∧ t.breaksOff then none else some (t.render r)

end TablePipeline
