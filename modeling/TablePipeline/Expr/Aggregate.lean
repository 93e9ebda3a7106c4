import TablePipeline.Expr.Functions
import TablePipeline.Expr.Operators
import TablePipeline.Expr.Eval
import TablePipeline.Table

/-!
# Values over a table

Inside a reduction an expression has one value for a whole table.  Calls gather the values of one
column that are not null; literals, arithmetic and minus combine what they give.  All else has no
single value over a table and is an error.

A sum of integers is exact and an error when it is out of range.  Other sums go through decimals as
long as every summand has one and every partial sum fits, and through doubles otherwise.

## Main definitions

* `gather` — the values that an aggregate call is about
* `sumValues`, `averageValues`, `extremeValue` — the functions that compute
* `applyAggregate` — a call of an aggregate function
* `Expr.aggregate` — the value of an expression over a table
-/

namespace TablePipeline

/-- The values of the column that is the only argument, without nulls. -/
def gather (f : AggregateFunction) (arguments : List Expr) (t : Table) :
    Except EvalError (List Value) :=
  match arguments with
  | [.column name] =>
    match t.columnIndex? name with
    | some i => .ok ((t.column i).filter fun v => !v.isNull)
    | none => .error (.unknownColumn name)
  | [_] => .error (.typeFault (.aggregateArgument f.name))
  | _ => .error (.arity f.name .one arguments.length)

/-- Refuses the first value that is no number. -/
def requireNumbers (f : AggregateFunction) (values : List Value) : Except EvalError Unit :=
  match values.find? fun v => !v.isNumeric with
  | some v => .error (.typeFault (.notNumeric f.name v.text))
  | none => .ok ()

/-- The sum of integers, each partial sum being in range. -/
def sumIntegers : Int64 → List Value → Except EvalError Int64
  | total, [] => .ok total
  | total, .integer n :: rest =>
    match narrow? (total.toInt + n.toInt) with
    | some total => sumIntegers total rest
    | none => .error (.overflow .sum)
  | total, _ :: rest => sumIntegers total rest

/-- The decimal of a number. -/
def Value.toDecimal? : Value → Option Decimal
  | .integer n => some (Decimal.ofInt n.toInt)
  | v => v.toFloat?.bind Decimal.faithful?

/-- The decimal sum of numbers, if every one has a decimal and every partial sum fits. -/
def sumDecimals : Decimal → List Value → Option Decimal
  | total, [] => some total
  | total, v :: rest =>
    (v.toDecimal?.bind total.add?).bind fun total => sumDecimals total rest

/-- The sum of doubles, from left to right. -/
def sumFloats (values : List Value) : Float :=
  (values.filterMap Value.toFloat?).foldl (· + ·) (-0.0)

/-- The sum of numbers; null when there are none. -/
def sumValues (values : List Value) : Outcome := do
  requireNumbers .sum values
  if values.isEmpty then pure .null
  else if values.all Value.isInteger then
    let total ← sumIntegers 0 values
    pure (.integer total)
  else
    match sumDecimals .zero values with
    | some d => pure (.float d.toFloat)
    | none => pure (.float (sumFloats values))

/-- The average of numbers; null when there are none. -/
def averageValues (values : List Value) : Outcome := do
  requireNumbers .avg values
  if values.isEmpty then pure .null
  else
    let count := values.length
    let plain := sumFloats values / Float.ofNat count
    let decimal := do
      let sum ← sumDecimals .zero values
      let average ← sum.div? ⟨false, count, 0⟩
      pure average.toFloat
    pure (.float (preferDecimal decimal plain))

/-- The first value that no later one precedes in the wanted direction. -/
def bestValue (wanted : Ordering) : Value → List Value → Value
  | best, [] => best
  | best, v :: rest => bestValue wanted (if v.compareNumbers best == wanted then v else best) rest

/-- The least or the greatest number; null when there is none.  It is an integer when all numbers
are integers, and a double otherwise. -/
def extremeValue (f : AggregateFunction) (wanted : Ordering) (values : List Value) : Outcome := do
  requireNumbers f values
  match values with
  | [] => pure .null
  | first :: rest =>
    let best := bestValue wanted first rest
    if values.all Value.isInteger then pure best
    else pure ((best.toFloat?.map Value.float).getD .null)

/-- The outcome of a call of an aggregate function.  Counting needs no argument and ignores any. -/
def applyAggregate (f : AggregateFunction) (arguments : List Expr) (t : Table) : Outcome :=
  match f with
  | .count => .ok (.integer (Int64.ofInt t.size))
  | .sum => do sumValues (← gather f arguments t)
  | .avg => do averageValues (← gather f arguments t)
  | .min => do extremeValue f .lt (← gather f arguments t)
  | .max => do extremeValue f .gt (← gather f arguments t)
  | .first => do pure ((← gather f arguments t).head?.getD .null)
  | .last => do pure ((← gather f arguments t).getLast?.getD .null)

/-- The outcome of a call by name. -/
def applyAggregateCall (function : String) (arguments : List Expr) (t : Table) : Outcome :=
  match AggregateFunction.ofName? function with
  | some f => applyAggregate f arguments t
  | none =>
    match ScalarFunction.ofName? function with
    | some _ => .error (.notAggregate (.scalarFunction function))
    | none => .error (.unknownFunction function)

/-- The value of an expression over a table. -/
def Expr.aggregate (t : Table) : Expr → Outcome
  | .literal l => .ok l.value
  | .call function arguments => applyAggregateCall function arguments t
  | .binary op left right =>
    if op.family = .arithmetic then do
      let a ← left.aggregate t
      let b ← right.aggregate t
      arithmetic op a b
    else .error (.notAggregate (.operator op.symbol))
  | .unary .negate operand => do
    let v ← operand.aggregate t
    applyUnary .negate v
  | .unary op _ => .error (.notAggregate (.operator op.symbol))
  | .column name => .error (.notAggregate (.column name))
  | .nullTest _ _ => .error (.notAggregate .nullTest)

end TablePipeline
