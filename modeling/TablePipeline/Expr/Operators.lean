import TablePipeline.Expr.Error
import TablePipeline.Number.Decimal
import TablePipeline.Value.Order

/-!
# Operators on values

Arithmetic, comparison and logic.  Null spreads through arithmetic and through comparisons of
order; two integers stay an integer as long as the result is exact, and a result out of range is an
error.  Doubles go through decimals where both have one, so that `0.1 + 0.2` is `0.3`.

## Main definitions

* `floatArithmetic`, `integerArithmetic`, `arithmetic` — `+`, `-`, `*` and `/`
* `compareValues` — the six comparisons
* `applyBinary`, `applyUnary` — any operator
-/

namespace TablePipeline

/-- The plain double result of an arithmetic operator. -/
def plainArithmetic (op : BinaryOp) (x y : Float) : Float :=
  match op with
  | .add => x + y
  | .subtract => x - y
  | .multiply => x * y
  | _ => x / y

/-- The decimal result of an arithmetic operator, if it fits. -/
def decimalArithmetic? (op : BinaryOp) (a b : Decimal) : Option Decimal :=
  match op with
  | .add => a.add? b
  | .subtract => a.sub? b
  | .multiply => a.mul? b
  | .divide => a.div? b
  | _ => none

/-- Prefers a decimal result to the plain one, unless the decimal has become zero by losing all
its digits. -/
def preferDecimal (decimal : Option Float) (plain : Float) : Float :=
  (decimal.filter fun d => d != 0 || plain == 0).getD plain

/-- Arithmetic on doubles: by decimals when both sides have one and the result fits, plain
otherwise.  Division by zero is null. -/
def floatArithmetic (op : BinaryOp) (x y : Float) : Value :=
  if op = .divide ∧ y == 0 then .null
  else
    let decimal := do
      let a ← Decimal.faithful? x
      let b ← Decimal.faithful? y
      let c ← decimalArithmetic? op a b
      pure c.toFloat
    .float (preferDecimal decimal (plainArithmetic op x y))

/-- The integer of that value, or an overflow. -/
def narrowResult (op : BinaryOp) (m n : Int64) (z : Int) : Except EvalError Value :=
  match narrow? z with
  | some r => .ok (.integer r)
  | none => .error (.overflow (.arithmetic op m n))

/-- Arithmetic on integers.  A division with a remainder is done on doubles; division by zero is
null. -/
def integerArithmetic (op : BinaryOp) (m n : Int64) : Except EvalError Value :=
  match op with
  | .add => narrowResult op m n (m.toInt + n.toInt)
  | .subtract => narrowResult op m n (m.toInt - n.toInt)
  | .multiply => narrowResult op m n (m.toInt * n.toInt)
  | _ =>
    if n.toInt = 0 then .ok .null
    else if m.toInt % n.toInt = 0 then narrowResult op m n (m.toInt / n.toInt)
    else .ok (floatArithmetic op (Float.ofInt m.toInt) (Float.ofInt n.toInt))

/-- `+`, `-`, `*` and `/` on values.  Null spreads, and `+` joins two strings. -/
def arithmetic (op : BinaryOp) (a b : Value) : Except EvalError Value :=
  match a, b with
  | .null, _ => .ok .null
  | _, .null => .ok .null
  | .integer m, .integer n => integerArithmetic op m n
  | a, b =>
    match a, b, op with
    | .string s, .string t, .add => .ok (.string (s ++ t))
    | a, b, _ =>
      match a.toFloat?, b.toFloat? with
      | some x, some y => .ok (floatArithmetic op x y)
      | _, _ => .error (.typeFault (.arithmetic op a.kind b.kind))

/-- What a comparison operator says of an order. -/
def BinaryOp.holdsOf (op : BinaryOp) (o : Ordering) : Bool :=
  match op with
  | .equal => o == .eq
  | .notEqual => o != .eq
  | .less => o == .lt
  | .greater => o == .gt
  | .lessEqual => o != .gt
  | _ => o != .lt

/-- The order of two non-null values that can be compared at all.  Booleans have no order beyond
equality. -/
def comparableOrder (op : BinaryOp) (a b : Value) : Except EvalError Ordering :=
  match a, b with
  | .string s, .string t => .ok (compareTexts s t)
  | .boolean p, .boolean q =>
    if op = .equal ∨ op = .notEqual then .ok (compare p q)
    else .error (.typeFault (.booleanOrder op))
  | .integer m, .integer n => .ok (compare m n)
  | a, b =>
    match a.toFloat?, b.toFloat? with
    | some x, some y => .ok (compareFloats x y)
    | _, _ => .error (.typeFault (.comparison a.kind b.kind))

/-- The comparisons.  Null equals null only, and an order against null is null. -/
def compareValues (op : BinaryOp) (a b : Value) : Except EvalError Value :=
  if a.isNull || b.isNull then
    match op with
    | .equal => .ok (.boolean (a.isNull && b.isNull))
    | .notEqual => .ok (.boolean !(a.isNull && b.isNull))
    | _ => .ok .null
  else do
    let o ← comparableOrder op a b
    pure (.boolean (op.holdsOf o))

/-- The truth value of an operand. -/
def requireTruth (context : TruthContext) (v : Value) : Except EvalError Bool :=
  match v.toBool? with
  | some b => .ok b
  | none => .error (.notBoolean context v.kind)

/-- `and` and `or`, with null as false.  Both operands have to be truth values. -/
def applyLogic (op : BinaryOp) (a b : Value) : Except EvalError Value := do
  let p ← requireTruth (.operator op.symbol) a
  let q ← requireTruth (.operator op.symbol) b
  pure (.boolean (if op = .and then p && q else p || q))

/-- Applies an operator to two values. -/
def applyBinary (op : BinaryOp) (a b : Value) : Except EvalError Value :=
  match op.family with
  | .arithmetic => arithmetic op a b
  | .comparison => compareValues op a b
  | .logic => applyLogic op a b

/-- The negative of a number; null stays null. -/
def negate (v : Value) : Except EvalError Value :=
  match v with
  | .null => .ok .null
  | .integer n =>
    match narrow? (-n.toInt) with
    | some r => .ok (.integer r)
    | none => .error (.overflow (.negation n))
  | .float x => .ok (.float (-x))
  | v => .error (.typeFault (.negation v.kind))

/-- Applies an operator to one value. -/
def applyUnary (op : UnaryOp) (v : Value) : Except EvalError Value :=
  match op with
  | .not => do
    let b ← requireTruth (.operator op.symbol) v
    pure (.boolean !b)
  | .negate => negate v

end TablePipeline
