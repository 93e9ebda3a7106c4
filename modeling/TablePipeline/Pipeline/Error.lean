import TablePipeline.Expr.Error
import TablePipeline.Table

/-!
# Errors of stages

A stage fails because an expression has no value, because the columns do not fit, or because a
condition is no truth value.  The error names the stage; inside `transform` and `reduce` it also
names the column that was to be computed.  A sort that is given up is no error of its stage: it ends
the program.

## Main definitions

* `StageLabel` — where in a pipeline an error arose
* `StageError`, `StageError.message` — the causes and their texts
-/

namespace TablePipeline

/-- Where in a pipeline an error arose. -/
inductive StageLabel
  /-- A stage as a whole. -/
  | stage (operation : String)
  /-- The computation of one column in a stage. -/
  | column (operation target : String)
  deriving DecidableEq

/-- The text of a label. -/
def StageLabel.text : StageLabel → String
  | stage operation => operation
  | column operation target => operation ++ " " ++ quoted target

/-- Why a stage has no result. -/
inductive StageError
  | eval (label : StageLabel) (e : EvalError)
  | schema (label : StageLabel) (e : SchemaError)
  /-- The condition of a filter is neither true nor false on some row. -/
  | filterNotBoolean (found : Value.Kind)
  /-- The comparison of a sort contradicts itself, and the sort ends the program. -/
  | sortGivenUp
  deriving DecidableEq

/-- The text of a stage error. -/
def StageError.message : StageError → String
  | eval label e => label.text ++ ": " ++ e.message
  | schema label e => label.text ++ ": " ++ e.message
  | filterNotBoolean found => "filter: expression did not return boolean, got " ++ found.name
  | sortGivenUp => "user-provided comparison function does not correctly implement a total order"

/-- Whether a table comes out of a stage, and which. -/
abbrev StageResult := Except StageError Table

/-- The outcome of an evaluation inside a stage. -/
def StageLabel.ofEval {α : Type} (label : StageLabel) (r : Except EvalError α) :
    Except StageError α :=
  r.mapError (.eval label)

/-- The outcome of a check of columns inside a stage. -/
def StageLabel.ofSchema {α : Type} (label : StageLabel) (r : Except SchemaError α) :
    Except StageError α :=
  r.mapError (.schema label)

end TablePipeline
