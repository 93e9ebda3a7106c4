/-!
# Expressions

The expressions of a query: literals, columns, operators, calls and null tests.  The same
expressions stand in row stages, where a column is a cell of the current row, and in group stages,
where calls gather a column of a nested table.

## Main definitions

* `BinaryOp`, `UnaryOp`, `Literal`, `Expr` — expressions
* `BinaryOp.precedence` — how tightly an operator binds
* `BinaryOp.family` — arithmetic, comparison or logic
-/

namespace TablePipeline

/-- Operators between two operands. -/
inductive BinaryOp
  | equal
  | notEqual
  | less
  | greater
  | lessEqual
  | greaterEqual
  | add
  | subtract
  | multiply
  | divide
  | and
  | or
  deriving DecidableEq

/-- Operators in front of one operand. -/
inductive UnaryOp
  | not
  | negate
  deriving DecidableEq

namespace BinaryOp

/-- What an operator works on. -/
inductive Family
  | logic
  | comparison
  | arithmetic
  deriving DecidableEq

/-- The family of an operator. -/
def family : BinaryOp → Family
  | equal | notEqual | less | greater | lessEqual | greaterEqual => .comparison
  | add | subtract | multiply | divide => .arithmetic
  | and | or => .logic

/-- How tightly the operator binds; a greater number binds tighter. -/
def precedence : BinaryOp → Nat
  | or => 1
  | and => 2
  | equal | notEqual | less | greater | lessEqual | greaterEqual => 3
  | add | subtract => 4
  | multiply | divide => 5

/-- The operator as written. -/
def symbol : BinaryOp → String
  | equal => "=="
  | notEqual => "!="
  | less => "<"
  | greater => ">"
  | lessEqual => "<="
  | greaterEqual => ">="
  | add => "+"
  | subtract => "-"
  | multiply => "*"
  | divide => "/"
  | and => "and"
  | or => "or"

end BinaryOp

/-- The operator as written. -/
def UnaryOp.symbol : UnaryOp → String
  | not => "not"
  | negate => "-"

/-- Values written in a query. -/
inductive Literal
  | null
  | boolean (b : Bool)
  | integer (n : Int64)
  | float (x : Float)
  | string (s : String)

/-- Expressions. -/
inductive Expr
  | literal (l : Literal)
  | column (name : String)
  | binary (op : BinaryOp) (left right : Expr)
  | unary (op : UnaryOp) (operand : Expr)
  | call (function : String) (arguments : List Expr)
  /-- `operand is null`, or `operand is not null` when `negated`. -/
  | nullTest (operand : Expr) (negated : Bool)

instance : Inhabited Expr := ⟨.literal .null⟩

/-- Induction over expressions.  In the case of a call the statement may be used of every
argument. -/
@[elab_as_elim, induction_eliminator]
theorem Expr.induction {motive : Expr → Prop}
    (literal : ∀ l, motive (.literal l))
    (column : ∀ name, motive (.column name))
    (binary : ∀ op left right, motive left → motive right → motive (.binary op left right))
    (unary : ∀ op operand, motive operand → motive (.unary op operand))
    (call : ∀ function arguments, (∀ e ∈ arguments, motive e) →
      motive (.call function arguments))
    (nullTest : ∀ operand negated, motive operand → motive (.nullTest operand negated)) :
    ∀ e, motive e
  | .literal l => literal l
  | .column name => column name
  | .binary op left right =>
    binary op left right (induction literal column binary unary call nullTest left)
      (induction literal column binary unary call nullTest right)
  | .unary op operand =>
    unary op operand (induction literal column binary unary call nullTest operand)
  | .call function arguments =>
    call function arguments fun e _ =>
      induction literal column binary unary call nullTest e
  | .nullTest operand negated =>
    nullTest operand negated (induction literal column binary unary call nullTest operand)

end TablePipeline
