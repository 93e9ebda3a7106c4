import TablePipeline.Calendar.Layout
import TablePipeline.Expr.Error
import TablePipeline.Pattern.Reader
import TablePipeline.Pattern.Search
import TablePipeline.Text.Case

/-!
# Functions of cell values

What a call of a function makes of its arguments.  An argument is given as its outcome, a value or
an error, because a function may leave an argument out of account: `if` looks at one of its two
branches only and `coalesce` stops at the first value that is not null.  The first error that a
function meets is the error of the call.

Null is passed through: a function of a null text is null.

## Main definitions

* `Outcome` — the value of an expression, or why it has none
* `applyTextFunction`, `applyTextTest`, `applySubstring`, `firstNonNull`, `applyChoice`,
  `applyDatePart` — the kinds of functions
* `ScalarFunction.apply` — a call of any function
-/

namespace TablePipeline

/-- The value of an expression, or why it has none. -/
abbrev Outcome := Except EvalError Value

/-- Whether the second text occurs in the first. -/
def containsText (cs part : List Char) : Bool :=
  match cs with
  | [] => part.isEmpty
  | c :: rest => part.isPrefixOf (c :: rest) || containsText rest part

/-- A function of the text of its only argument. -/
def applyTextFunction (f : ScalarFunction) (arguments : List Outcome)
    (result : List Char → Value) : Outcome :=
  match arguments with
  | [a] => do
    let v ← a
    pure (if v.isNull then .null else result v.text.toList)
  | _ => .error (.arity f.name .one arguments.length)

/-- A test of the text of the first argument against the string that is the second. -/
def applyTextTest (f : ScalarFunction) (arguments : List Outcome)
    (test : List Char → List Char → Except EvalError Bool) : Outcome :=
  match arguments with
  | [a, b] => do
    let subject ← a
    match ← b with
    | .string part =>
      if subject.isNull then pure .null
      else
        let holds ← test subject.text.toList part.toList
        pure (.boolean holds)
    | other => .error (.typeFault (.pattern f.name other.kind))
  | _ => .error (.arity f.name .two arguments.length)

/-- The number of characters that a number stands for: none below zero. -/
def characterCount (x : Float) : Nat :=
  x.toUInt64.toNat

/-- The characters of the first argument from a start and of a length, as far as there are any. -/
def applySubstring (arguments : List Outcome) : Outcome :=
  match arguments with
  | [a, b, c] => do
    let subject ← a
    if subject.isNull then pure .null
    else
      match (← b).toFloat? with
      | none => .error (.typeFault .substringStart)
      | some start =>
        match (← c).toFloat? with
        | none => .error (.typeFault .substringLength)
        | some length =>
          pure (.string (String.ofList
            ((subject.text.toList.drop (characterCount start)).take (characterCount length))))
  | _ => .error (.arity ScalarFunction.substr.name .stringStartLength arguments.length)

/-- The first value that is not null. -/
def firstNonNull : List Outcome → Outcome
  | [] => .ok .null
  | a :: rest => do
    let v ← a
    if v.isNull then firstNonNull rest else pure v

/-- The second or the third argument, as the first one says. -/
def applyChoice (arguments : List Outcome) : Outcome :=
  match arguments with
  | [condition, yes, no] => do
    let v ← condition
    match v.toBool? with
    | some b => if b then yes else no
    | none => .error (.notBoolean .condition v.kind)
  | _ => .error (.arity ScalarFunction.choose.name .conditionThenElse arguments.length)

/-- A part of the date that a string spells. -/
def applyDatePart (f : ScalarFunction) (arguments : List Outcome) (part : Date → Int) : Outcome :=
  match arguments with
  | [a] => do
    match ← a with
    | .null => pure .null
    | .string s =>
      match readDate? s with
      | some d => pure (.integer (Int64.ofInt (part d)))
      | none => .error (.notDate f.name s)
    | other => .error (.notDate f.name other.text)
  | _ => .error (.arity f.name .one arguments.length)

/-- Whether a pattern occurs in a text. -/
def testPattern (cs pattern : List Char) : Except EvalError Bool :=
  match Pattern.read? pattern with
  | some p => .ok (p.occursIn cs)
  | none => .error (.invalidPattern (String.ofList pattern))

/-- The outcome of a call. -/
def ScalarFunction.apply (f : ScalarFunction) (arguments : List Outcome) : Outcome :=
  match f with
  | .upper => applyTextFunction f arguments fun cs => .string (String.ofList (upperCase cs))
  | .lower => applyTextFunction f arguments fun cs => .string (String.ofList (lowerCase cs))
  | .trim => applyTextFunction f arguments fun cs => .string (String.ofList (trimBlanks cs))
  | .len => applyTextFunction f arguments fun cs => .integer (Int64.ofInt cs.length)
  | .substr => applySubstring arguments
  | .coalesce =>
    if arguments.isEmpty then .error (.arity f.name .atLeastOne 0) else firstNonNull arguments
  | .choose => applyChoice arguments
  | .year => applyDatePart f arguments fun d => d.year
  | .month => applyDatePart f arguments fun d => d.month
  | .day => applyDatePart f arguments fun d => d.day
  | .contains => applyTextTest f arguments fun cs part => .ok (containsText cs part)
  | .startsWith => applyTextTest f arguments fun cs part => .ok (part.isPrefixOf cs)
  | .endsWith => applyTextTest f arguments fun cs part => .ok (part.isSuffixOf cs)
  | .matchesPattern => applyTextTest f arguments testPattern

end TablePipeline
