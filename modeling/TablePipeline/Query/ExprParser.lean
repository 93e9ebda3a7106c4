import TablePipeline.Query.Parsed
import TablePipeline.Query.Operation
import TablePipeline.Text.Case

/-!
# The grammar of expressions

An expression is a chain of operands with operators between them.  Operators of higher precedence
bind tighter and those of one precedence bind to the left; `not` and `-` in front of an operand
bind tighter than all of them.  The test `is null` or `is not null` takes everything before it at
its level as its operand, and operators behind it take the test as theirs.

The rules are declared as steps, so that their recursion ends.  `parseExpression` and the other
functions without a proof in their result are what the rest of the library uses; their equations
stand at the end.

## Main definitions

* `operatorOf?` — the operators among the tokens
* `parseExpression`, `parseBinary`, `parseSuffix`, `parseUnary`, `parsePrimary`,
  `parseArguments` — the rules
-/

namespace TablePipeline

/-- The operator that a token stands for between operands. -/
def operatorOf? : Token.Kind → Option BinaryOp
  | .or => some .or
  | .and => some .and
  | .equal => some .equal
  | .notEqual => some .notEqual
  | .less => some .less
  | .greater => some .greater
  | .lessEqual => some .lessEqual
  | .greaterEqual => some .greaterEqual
  | .plus => some .add
  | .minus => some .subtract
  | .star => some .multiply
  | .slash => some .divide
  | _ => none

/-- The operator that a token stands for in front of an operand. -/
def signOf? : Token.Kind → Option UnaryOp
  | .not => some .not
  | .minus => some .negate
  | _ => none

/-- Takes `null` or `not null` behind `is`, and says whether there was a `not`. -/
def nullTestStep (ts : List Token) : Step Bool ts :=
  match ts with
  | [] => .refuse (.unexpected .nullAfterIs) []
  | t :: rest =>
    if t.kind = .not then
      ((expectStep .null .nullAfterIsNot rest).map fun _ => true).after (length_tail_le _ _)
    else (expectStep .null .nullAfterIs (t :: rest)).map fun _ => false

/-- The literal of a token, where it is one that stands for itself. -/
def literalOf? (t : Token) : Option (Except Complaint Literal) :=
  match t.kind with
  | .integer =>
    match readInteger? t.text.toList with
    | some n => some (.ok (.integer n))
    | none => some (.error (.invalidInteger t.text t.position))
  | .float =>
    match readFloat? t.text.toList with
    | some x => some (.ok (.float x))
    | none => some (.error (.invalidFloat t.text t.position))
  | .string => some (.ok (.string t.text))
  | .true => some (.ok (.boolean true))
  | .false => some (.ok (.boolean false))
  | .null => some (.ok .null)
  | _ => none

/-- A function name as functions are called by. -/
def functionName (name : String) : String :=
  String.ofList (lowerCase name.toList)

mutual

/-- A whole expression. -/
def expressionStep (ts : List Token) : Step Expr ts :=
  (unaryStep ts).andThen fun first rest _ =>
    (binaryStep 1 first rest).andThen fun chain rest _ => suffixStep chain rest
termination_by 8 * ts.length + 4

/-- The null tests behind an operand, each followed by further operators. -/
def suffixStep (operand : Expr) (ts : List Token) : Step Expr ts :=
  match ts with
  | [] => .done operand []
  | t :: rest =>
    if t.kind = .is then
      ((nullTestStep rest).andThen fun negated rest _ =>
        (binaryStep 1 (.nullTest operand negated) rest).andThen fun chain rest _ =>
          suffixStep chain rest).after (length_tail_le _ _)
    else .done operand (t :: rest)
termination_by 8 * ts.length + 3

/-- The operators of at least the given precedence behind an operand. -/
def binaryStep (least : Nat) (left : Expr) (ts : List Token) : Step Expr ts :=
  match ts with
  | [] => .done left []
  | t :: rest =>
    match operatorOf? t.kind with
    | none => .done left (t :: rest)
    | some op =>
      if op.precedence < least then .done left (t :: rest)
      else
        ((unaryStep rest).andThen fun operand rest _ =>
          (binaryStep (op.precedence + 1) operand rest).andThen fun right rest _ =>
            binaryStep least (.binary op left right) rest).after (length_tail_le _ _)
termination_by 8 * ts.length + 3
decreasing_by all_goals (simp only [List.length_cons]; omega)

/-- An operand with the operators in front of it. -/
def unaryStep (ts : List Token) : Step Expr ts :=
  match ts with
  | [] => .refuse (.unexpected .expression) []
  | t :: rest =>
    match signOf? t.kind with
    | some op => ((unaryStep rest).map (.unary op)).after (length_tail_le _ _)
    | none => primaryStep t rest
termination_by 8 * ts.length + 2

/-- An operand: a literal, a column, a call, or an expression between parentheses. -/
def primaryStep (t : Token) (rest : List Token) : Step Expr (t :: rest) :=
  match literalOf? t with
  | some (.ok l) => (Step.done (.literal l) rest).after (length_tail_le _ _)
  | some (.error c) => (Step.refuse c rest).after (length_tail_le _ _)
  | none =>
    match t.kind with
    | .quotedName => (Step.done (.column t.text) rest).after (length_tail_le _ _)
    | .name =>
      match rest with
      | [] => (Step.done (.column t.text) []).after (length_tail_le _ _)
      | p :: inner =>
        if p.kind = .leftParen then
          (callStep (functionName t.text) inner).after
            (Nat.le_trans (length_tail_le _ _) (length_tail_le _ _))
        else (Step.done (.column t.text) (p :: inner)).after (length_tail_le _ _)
    | .leftParen =>
      ((expressionStep rest).andThen fun inner rest _ =>
        (expectStep .rightParen .groupEnd rest).map fun _ => inner).after (length_tail_le _ _)
    | _ => .refuse (.unexpected .expression) (t :: rest)
termination_by 8 * rest.length + 9

/-- The arguments of a call and its closing parenthesis. -/
def callStep (function : String) (ts : List Token) : Step Expr ts :=
  if nextIs .rightParen ts then
    (expectStep .rightParen (.callEnd function) ts).map fun _ => .call function []
  else
    (argumentsStep ts).andThen fun arguments rest _ =>
      (expectStep .rightParen (.callEnd function) rest).map fun _ => .call function arguments
termination_by 8 * ts.length + 6

/-- One or more expressions with commas between them. -/
def argumentsStep (ts : List Token) : Step (List Expr) ts :=
  (expressionStep ts).andThen fun first rest _ =>
    match rest with
    | [] => .done [first] []
    | t :: rest =>
      if t.kind = .comma then
        ((argumentsStep rest).map (first :: ·)).after (length_tail_le _ _)
      else .done [first] (t :: rest)
termination_by 8 * ts.length + 5

end

/-- Takes `null` or `not null` behind `is`, and says whether there was a `not`. -/
def parseNullTest (ts : List Token) : Parsed Bool := (nullTestStep ts).1

/-- A whole expression. -/
def parseExpression (ts : List Token) : Parsed Expr := (expressionStep ts).1

/-- The null tests behind an operand, each followed by further operators. -/
def parseSuffix (operand : Expr) (ts : List Token) : Parsed Expr := (suffixStep operand ts).1

/-- The operators of at least the given precedence behind an operand. -/
def parseBinary (least : Nat) (left : Expr) (ts : List Token) : Parsed Expr :=
  (binaryStep least left ts).1

/-- An operand with the operators in front of it. -/
def parseUnary (ts : List Token) : Parsed Expr := (unaryStep ts).1

/-- An operand: a literal, a column, a call, or an expression between parentheses. -/
def parsePrimary (t : Token) (rest : List Token) : Parsed Expr := (primaryStep t rest).1

/-- The arguments of a call and its closing parenthesis. -/
def parseCall (function : String) (ts : List Token) : Parsed Expr := (callStep function ts).1

/-- One or more expressions with commas between them. -/
def parseArguments (ts : List Token) : Parsed (List Expr) := (argumentsStep ts).1

/-! ## No rule leaves more than it was given -/

theorem length_rest_parseExpression (ts : List Token) :
    (parseExpression ts).rest.length ≤ ts.length :=
  (expressionStep ts).2

/-! ## Equations -/

theorem parseNullTest_nil : parseNullTest [] = .refuse (.unexpected .nullAfterIs) [] := rfl

theorem parseNullTest_cons (t : Token) (rest : List Token) :
    parseNullTest (t :: rest) =
      if t.kind = .not then (expect .null .nullAfterIsNot rest).map fun _ => true
      else (expect .null .nullAfterIs (t :: rest)).map fun _ => false := by
  simp only [parseNullTest, nullTestStep]
  split
  · rw [Step.val_after, Step.val_map]; rfl
  · rw [Step.val_map]; rfl

theorem parseExpression_eq (ts : List Token) :
    parseExpression ts =
      (parseUnary ts).bind fun first rest =>
        (parseBinary 1 first rest).bind fun chain rest => parseSuffix chain rest := by
  rw [parseExpression, expressionStep]
  refine Step.val_andThen _ _ _ fun first rest _ => ?_
  exact Step.val_andThen _ _ _ fun chain rest _ => rfl

theorem parseSuffix_nil (operand : Expr) : parseSuffix operand [] = .done operand [] := by
  rw [parseSuffix, suffixStep, Step.val_done]

theorem parseSuffix_cons (operand : Expr) (t : Token) (rest : List Token) :
    parseSuffix operand (t :: rest) =
      if t.kind = .is then
        (parseNullTest rest).bind fun negated rest =>
          (parseBinary 1 (.nullTest operand negated) rest).bind fun chain rest =>
            parseSuffix chain rest
      else .done operand (t :: rest) := by
  rw [parseSuffix, suffixStep]
  split
  · rw [Step.val_after]
    refine Step.val_andThen _ _ _ fun negated rest _ => ?_
    exact Step.val_andThen _ _ _ fun chain rest _ => rfl
  · rfl

theorem parseBinary_nil (least : Nat) (left : Expr) :
    parseBinary least left [] = .done left [] := by
  rw [parseBinary, binaryStep, Step.val_done]

theorem parseBinary_cons (least : Nat) (left : Expr) (t : Token) (rest : List Token) :
    parseBinary least left (t :: rest) =
      match operatorOf? t.kind with
      | none => .done left (t :: rest)
      | some op =>
        if op.precedence < least then .done left (t :: rest)
        else
          (parseUnary rest).bind fun operand rest =>
            (parseBinary (op.precedence + 1) operand rest).bind fun right rest =>
              parseBinary least (.binary op left right) rest := by
  rw [parseBinary, binaryStep]
  cases operatorOf? t.kind with
  | none => rfl
  | some op =>
    simp only
    split
    · rfl
    · rw [Step.val_after]
      refine Step.val_andThen _ _ _ fun operand rest _ => ?_
      exact Step.val_andThen _ _ _ fun right rest _ => rfl

theorem parseUnary_nil : parseUnary [] = .refuse (.unexpected .expression) [] := by
  rw [parseUnary, unaryStep, Step.val_refuse]

theorem parseUnary_cons (t : Token) (rest : List Token) :
    parseUnary (t :: rest) =
      match signOf? t.kind with
      | some op => (parseUnary rest).map (.unary op)
      | none => parsePrimary t rest := by
  rw [parseUnary, unaryStep]
  cases signOf? t.kind with
  | none => rfl
  | some op =>
    simp only
    rw [Step.val_after]
    exact Step.val_map _ _

theorem parsePrimary_eq (t : Token) (rest : List Token) :
    parsePrimary t rest =
      match literalOf? t with
      | some (.ok l) => .done (.literal l) rest
      | some (.error c) => .refuse c rest
      | none =>
        match t.kind with
        | .quotedName => .done (.column t.text) rest
        | .name =>
          match rest with
          | [] => .done (.column t.text) []
          | p :: inner =>
            if p.kind = .leftParen then parseCall (functionName t.text) inner
            else .done (.column t.text) (p :: inner)
        | .leftParen =>
          (parseExpression rest).bind fun inner rest =>
            (expect .rightParen .groupEnd rest).map fun _ => inner
        | _ => .refuse (.unexpected .expression) (t :: rest) := by
  rw [parsePrimary, primaryStep.eq_def]
  cases literalOf? t with
  | some r => cases r <;> rfl
  | none =>
    simp only
    split
    · rfl
    · cases rest with
      | nil => rfl
      | cons p inner =>
        simp only
        split <;> rfl
    · rw [Step.val_after]
      exact Step.val_andThen _ _ _ fun inner rest _ => Step.val_map _ _
    · rfl

theorem parseCall_eq (function : String) (ts : List Token) :
    parseCall function ts =
      if nextIs .rightParen ts then
        (expect .rightParen (.callEnd function) ts).map fun _ => .call function []
      else
        (parseArguments ts).bind fun arguments rest =>
          (expect .rightParen (.callEnd function) rest).map fun _ =>
            .call function arguments := by
  rw [parseCall, callStep]
  split
  · exact Step.val_map _ _
  · exact Step.val_andThen _ _ _ fun arguments rest _ => Step.val_map _ _

theorem parseArguments_eq (ts : List Token) :
    parseArguments ts =
      (parseExpression ts).bind fun first rest =>
        match rest with
        | [] => .done [first] []
        | t :: rest =>
          if t.kind = .comma then (parseArguments rest).map (first :: ·)
          else .done [first] (t :: rest) := by
  rw [parseArguments, argumentsStep]
  refine Step.val_andThen _ _ _ fun first rest _ => ?_
  cases rest with
  | nil => rfl
  | cons t rest =>
    simp only
    split
    · rw [Step.val_after]
      exact Step.val_map _ _
    · rfl

end TablePipeline
