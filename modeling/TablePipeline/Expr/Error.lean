import TablePipeline.Expr
import TablePipeline.Value.Text
import TablePipeline.Text.Quoted

/-!
# Evaluation errors

What can go wrong when an expression is evaluated, as causes, and the wording of each.

## Main definitions

* `ScalarFunction`, `AggregateFunction` — the functions of expressions, with their names
* `Arity`, `TypeFault`, `OverflowFault`, `GroupFault`, `TruthContext` — details of causes
* `EvalError`, `EvalError.message` — the causes and their texts
-/

namespace TablePipeline

/-- Functions of cell values. -/
inductive ScalarFunction
  | upper
  | lower
  | trim
  | len
  | substr
  | coalesce
  | choose
  | year
  | month
  | day
  | contains
  | startsWith
  | endsWith
  | matchesPattern
  deriving DecidableEq

namespace ScalarFunction

/-- The name by which a function is called. -/
def name : ScalarFunction → String
  | upper => "upper"
  | lower => "lower"
  | trim => "trim"
  | len => "len"
  | substr => "substr"
  | coalesce => "coalesce"
  | choose => "if"
  | year => "year"
  | month => "month"
  | day => "day"
  | contains => "contains"
  | startsWith => "startswith"
  | endsWith => "endswith"
  | matchesPattern => "matches"

/-- Every function. -/
def all : List ScalarFunction :=
  [upper, lower, trim, len, substr, coalesce, choose, year, month, day, contains, startsWith,
    endsWith, matchesPattern]

/-- The function with a given name. -/
def ofName? (s : String) : Option ScalarFunction :=
  all.find? (·.name == s)

theorem mem_all (f : ScalarFunction) : f ∈ all := by
  cases f <;> decide

theorem ofName?_name (f : ScalarFunction) : ofName? f.name = some f := by
  cases f <;> decide

/-- A function is found under its own name only. -/
theorem name_of_ofName? {s : String} {f : ScalarFunction} (h : ofName? s = some f) :
    f.name = s := by
  simpa using List.find?_some h

end ScalarFunction

/-- Functions that gather a column of a nested table. -/
inductive AggregateFunction
  | count
  | sum
  | avg
  | min
  | max
  | first
  | last
  deriving DecidableEq

namespace AggregateFunction

/-- The name by which a function is called. -/
def name : AggregateFunction → String
  | count => "count"
  | sum => "sum"
  | avg => "avg"
  | min => "min"
  | max => "max"
  | first => "first"
  | last => "last"

/-- Every function. -/
def all : List AggregateFunction :=
  [count, sum, avg, min, max, first, last]

/-- The function with a given name. -/
def ofName? (s : String) : Option AggregateFunction :=
  all.find? (·.name == s)

theorem mem_all (f : AggregateFunction) : f ∈ all := by
  cases f <;> decide

theorem ofName?_name (f : AggregateFunction) : ofName? f.name = some f := by
  cases f <;> decide

/-- A function is found under its own name only. -/
theorem name_of_ofName? {s : String} {f : AggregateFunction} (h : ofName? s = some f) :
    f.name = s := by
  simpa using List.find?_some h

end AggregateFunction

/-- How many arguments a function takes. -/
inductive Arity
  | one
  | two
  | atLeastOne
  | stringStartLength
  | conditionThenElse
  deriving DecidableEq

/-- The text of an arity. -/
def Arity.text : Arity → String
  | one => "1 argument"
  | two => "2 arguments"
  | atLeastOne => "at least 1 argument"
  | stringStartLength => "3 arguments (string, start, length)"
  | conditionThenElse => "3 arguments (condition, then, else)"

/-- Operands of a kind that an operator or a function cannot work with. -/
inductive TypeFault
  | pattern (function : String) (found : Value.Kind)
  | substringStart
  | substringLength
  | negation (found : Value.Kind)
  | arithmetic (op : BinaryOp) (left right : Value.Kind)
  | booleanOrder (op : BinaryOp)
  | comparison (left right : Value.Kind)
  | aggregateArgument (function : String)
  | notNumeric (function : String) (value : String)
  deriving DecidableEq

/-- The text of a type fault. -/
def TypeFault.text : TypeFault → String
  | pattern function found =>
    function ++ "() second argument must be a string, got " ++ found.name
  | substringStart => "substr: start must be a number"
  | substringLength => "substr: length must be a number"
  | negation found => "cannot negate " ++ found.name
  | arithmetic op left right =>
    "cannot perform " ++ op.symbol ++ " on " ++ left.name ++ " and " ++ right.name
  | booleanOrder op => "cannot use " ++ op.symbol ++ " on booleans"
  | comparison left right => "cannot compare " ++ left.name ++ " with " ++ right.name
  | aggregateArgument function => function ++ "() argument must be a column reference"
  | notNumeric function value => function ++ ": non-numeric value " ++ value

/-- Integer operations whose result is out of range. -/
inductive OverflowFault
  | negation (n : Int64)
  | arithmetic (op : BinaryOp) (left right : Int64)
  | sum
  deriving DecidableEq

/-- The text of an overflow. -/
def OverflowFault.text : OverflowFault → String
  | negation n => "-" ++ String.ofList (integerText n.toInt)
  | arithmetic op left right =>
    String.ofList (integerText left.toInt) ++ " " ++ op.symbol ++ " " ++
      String.ofList (integerText right.toInt)
  | sum => "sum()"

/-- Places that require a truth value. -/
inductive TruthContext
  | condition
  | operator (name : String)
  deriving DecidableEq

/-- The text of a place. -/
def TruthContext.text : TruthContext → String
  | condition => "if() condition"
  | operator name => "'" ++ name ++ "'"

/-- Expressions that have no single value over a table. -/
inductive GroupFault
  | operator (symbol : String)
  | column (name : String)
  | nullTest
  | scalarFunction (name : String)
  deriving DecidableEq

/-- The text of such an expression. -/
def GroupFault.text : GroupFault → String
  | operator symbol => "operator '" ++ symbol ++ "'"
  | column name => "bare column reference " ++ quoted name
  | nullTest => "'is null'"
  | scalarFunction name => "non-aggregate function " ++ quoted name

/-- Why an expression has no value. -/
inductive EvalError
  | unknownColumn (name : String)
  | unknownFunction (name : String)
  | arity (function : String) (expected : Arity) (found : Nat)
  | typeFault (fault : TypeFault)
  | notBoolean (context : TruthContext) (found : Value.Kind)
  | notDate (function : String) (input : String)
  | overflow (fault : OverflowFault)
  | aggregateOutsideReduce (function : String)
  | notAggregate (fault : GroupFault)
  | invalidPattern (pattern : String)
  deriving DecidableEq

/-- The text of an evaluation error. -/
def EvalError.message : EvalError → String
  | unknownColumn name => "column " ++ quoted name ++ " not found"
  | unknownFunction name => "unknown function " ++ quoted name
  | arity function expected found =>
    function ++ "() takes " ++ expected.text ++ ", got " ++ countText found
  | typeFault fault => "type error: " ++ fault.text
  | notBoolean context found => context.text ++ " requires a boolean, got " ++ found.name
  | notDate function input => function ++ "(): cannot parse " ++ quoted input ++ " as a date"
  | overflow fault => "integer overflow in " ++ fault.text
  | aggregateOutsideReduce function =>
    "aggregate function " ++ quoted function ++ " can only be used inside 'reduce'"
  | notAggregate fault => fault.text ++ " is not allowed inside 'reduce'"
  | invalidPattern pattern => "invalid regex " ++ quoted pattern

end TablePipeline
