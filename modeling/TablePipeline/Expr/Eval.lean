import TablePipeline.Expr.Functions
import TablePipeline.Expr.Operators

/-!
# Values of expressions

The value of an expression on a row.  Columns are looked up by name; operands are evaluated from
left to right and the first error is the error of the whole.  Functions are given the outcomes of
their arguments and may leave some of them out of account.

## Main definitions

* `cellNamed?` — the cell of a row under a column name
* `Expr.evalIn` — the value of an expression, given the cells by name
* `Expr.eval` — the value of an expression on a row
-/

namespace TablePipeline

/-- The value of a literal. -/
def Literal.value : Literal → Value
  | .null => .null
  | .boolean b => .boolean b
  | .integer n => .integer n
  | .float x => .float x
  | .string s => .string s

/-- The last position at which a name occurs. -/
def lastIndexOf? (name : String) : List String → Option Nat
  | [] => none
  | c :: rest =>
    match lastIndexOf? name rest with
    | some i => some (i + 1)
    | none => if c = name then some 0 else none

/-- The cell of a row under a column name.  Of several columns of one name the last is taken; a row
that ends before the column has no such cell. -/
def cellNamed? (columns : List String) (row : Row) (name : String) : Option Value :=
  (lastIndexOf? name columns).bind (row[·]?)

/-- The outcome of a call by name, given the outcomes of its arguments. -/
def applyCall (function : String) (arguments : List Outcome) : Outcome :=
  match ScalarFunction.ofName? function with
  | some f => f.apply arguments
  | none =>
    match AggregateFunction.ofName? function with
    | some _ => .error (.aggregateOutsideReduce function)
    | none => .error (.unknownFunction function)

mutual

/-- The value of an expression, given the cells by name. -/
def Expr.evalIn (cell : String → Option Value) : Expr → Outcome
  | .literal l => .ok l.value
  | .column name =>
    match cell name with
    | some v => .ok v
    | none => .error (.unknownColumn name)
  | .binary op left right => do
    let a ← left.evalIn cell
    let b ← right.evalIn cell
    applyBinary op a b
  | .unary op operand => do
    let v ← operand.evalIn cell
    applyUnary op v
  | .call function arguments => applyCall function (evalArguments cell arguments)
  | .nullTest operand negated => do
    let v ← operand.evalIn cell
    pure (.boolean (v.isNull != negated))

/-- The outcomes of arguments, each for itself. -/
def evalArguments (cell : String → Option Value) : List Expr → List Outcome
  | [] => []
  | e :: rest => e.evalIn cell :: evalArguments cell rest

end

/-- The outcomes of arguments are those of each one. -/
theorem evalArguments_eq_map (cell : String → Option Value) (arguments : List Expr) :
    evalArguments cell arguments = arguments.map (·.evalIn cell) := by
  induction arguments with
  | nil => rfl
  | cons e rest ih => simp only [evalArguments, ih, List.map_cons]

/-- The value of an expression on a row. -/
def Expr.eval (columns : List String) (row : Row) (e : Expr) : Outcome :=
  e.evalIn (cellNamed? columns row)

end TablePipeline
