import TablePipeline.Query.Parser

/-!
# The parser as a walk over its buffer

The rules of the grammar take lists of tokens, and nothing can go wrong with a list.  A parser has
a buffer and an index into it, and there it matters which index is read: here the same rules are
written as walks, which know the buffer by its indices only.  A look at the buffer may be out of
range, the index moves by one token at a time, and nothing says beforehand that it moves often
enough for a walk to end.  Each walk keeps a record of the places from which it has looked.

## Main definitions

* `Walk`, `Walk.run` — computations that look at the buffer and move the cursor
* `Walk.peekAt`, `Walk.advance` — the only access to the buffer and the only step of the cursor
* `Walk.expression`, `Walk.operation`, `Walk.operations` — the grammar
* `Parser.Call`, `Parser.ask`, `Parser.after` — calls of a parser, one after the other
* `Parser.Call.walk` — a call as a walk

## Implementation notes

Rules and loops are given the depth to which they may call each other and themselves, since it is
not the tokens that they go down on.  A walk that needs more has no result at all.  An error keeps
the cursor where it is.
-/

namespace TablePipeline

namespace Walk

/-- Why a walk stops before its end. -/
inductive Stop
  /-- There is no token at the index that was looked at. -/
  | outOfRange
  | failed (e : ParseError)

/-- A parser on its walk, and the cursors from which it has looked at its buffer so far. -/
structure State where
  parser : Parser
  visited : List Nat

end Walk

/-- A computation that looks at the buffer of a parser and moves its cursor. -/
abbrev Walk : Type → Type :=
  ExceptT Walk.Stop (StateT Walk.State Option)

namespace Walk

variable {α : Type}

/-- What a walk finds and where it ends, if it ends. -/
def run (w : Walk α) (st : State) : Option (Except Stop α × State) :=
  (ExceptT.run w).run st

/-- The walk of a rule that would have to go deeper than it may. -/
def tooDeep : Walk α :=
  ExceptT.mk fun _ => none

/-! ## Single tokens -/

/-- The token so many places behind the cursor, or the last token where the buffer ends before. -/
def peekAt (offset : Nat) : Walk Token := do
  let ⟨p, visited⟩ ← get
  match p.tokens[min (p.cursor + offset) (p.tokens.length - 1)]? with
  | some t =>
    set (State.mk p (visited ++ [p.cursor]))
    return t
  | none => throw .outOfRange

/-- The token at the cursor. -/
def peek : Walk Token :=
  peekAt 0

/-- Whether the token at the cursor has the given kind. -/
def check (kind : Token.Kind) : Walk Bool := do
  return (← peek).kind == kind

/-- Takes the token at the cursor.  The cursor stays in front of an end mark. -/
def advance : Walk Token := do
  let t ← peek
  if t.kind = .finish then return t
  else
    modify fun st => { st with parser.cursor := st.parser.cursor + 1 }
    return t

/-- Complains of the token at the cursor. -/
def unexpected (expected : Expected) : Walk α := do
  throw (.failed (.refused (.unexpected expected) (← peek)))

/-- Complains without looking at the buffer: the token that goes with the complaint is not part of
its text. -/
def complain (c : Complaint) : Walk α := do
  let p := (← get).parser
  throw (.failed (.refused c (p.upcoming.head?.getD p.endMark)))

/-- Takes a token of the given kind. -/
def expect (kind : Token.Kind) (expected : Expected) : Walk Token := do
  if ← check kind then advance else unexpected expected

/-- Takes a token that names something. -/
def expectName (expected : Expected) : Walk String := do
  if (← peek).kind.isName then
    let t ← advance
    return t.text
  else unexpected expected

/-! ## Expressions -/

/-- Takes `null` or `not null` behind `is`, and says whether there was a `not`. -/
def nullTest : Walk Bool := do
  if ← check .not then
    let _ ← advance
    let _ ← expect .null .nullAfterIsNot
    return true
  else
    let _ ← expect .null .nullAfterIs
    return false

mutual

/-- A whole expression. -/
def expression : Nat → Walk Expr
  | 0 => tooDeep
  | depth + 1 => do
    let first ← unary depth
    let chain ← binary depth 1 first
    suffix depth chain

/-- The null tests behind an operand, each followed by further operators. -/
def suffix (depth : Nat) (operand : Expr) : Walk Expr :=
  match depth with
  | 0 => tooDeep
  | depth + 1 => do
    if ← check .is then
      let _ ← advance
      let negated ← nullTest
      let chain ← binary depth 1 (.nullTest operand negated)
      suffix depth chain
    else return operand

/-- The operators of at least the given precedence behind an operand. -/
def binary (depth : Nat) (least : Nat) (left : Expr) : Walk Expr :=
  match depth with
  | 0 => tooDeep
  | depth + 1 => do
    match operatorOf? (← peek).kind with
    | none => return left
    | some op =>
      if op.precedence < least then return left
      else
        let _ ← advance
        let operand ← unary depth
        let right ← binary depth (op.precedence + 1) operand
        binary depth least (.binary op left right)

/-- An operand with the operators in front of it. -/
def unary : Nat → Walk Expr
  | 0 => tooDeep
  | depth + 1 => do
    match signOf? (← peek).kind with
    | some op =>
      let _ ← advance
      let operand ← unary depth
      return .unary op operand
    | none => primary depth

/-- An operand: a literal, a column, a call, or an expression between parentheses. -/
def primary : Nat → Walk Expr
  | 0 => tooDeep
  | depth + 1 => do
    let t ← peek
    match literalOf? t with
    | some (.ok l) =>
      let _ ← advance
      return .literal l
    | some (.error c) =>
      let _ ← advance
      complain c
    | none =>
      match t.kind with
      | .quotedName =>
        let _ ← advance
        return .column t.text
      | .name =>
        let _ ← advance
        if ← check .leftParen then call depth (functionName t.text) else return .column t.text
      | .leftParen =>
        let _ ← advance
        let inner ← expression depth
        let _ ← expect .rightParen .groupEnd
        return inner
      | _ => unexpected .expression

/-- The arguments of a call and its parentheses. -/
def call (depth : Nat) (function : String) : Walk Expr :=
  match depth with
  | 0 => tooDeep
  | depth + 1 => do
    let _ ← advance
    if ← check .rightParen then
      let _ ← expect .rightParen (.callEnd function)
      return .call function []
    else
      let arguments ← arguments depth
      let _ ← expect .rightParen (.callEnd function)
      return .call function arguments

/-- One or more expressions with commas between them. -/
def arguments : Nat → Walk (List Expr)
  | 0 => tooDeep
  | depth + 1 => do
    let first ← expression depth
    if ← check .comma then
      let _ ← advance
      let more ← arguments depth
      return first :: more
    else return [first]

end

/-! ## Operations -/

/-- Takes a count. -/
def count (operation : String) : Walk Nat := do
  let t ← expect .integer (.count operation)
  match readCount? t.text.toList with
  | some n => return n
  | none => complain (.invalidInteger t.text t.position)

/-- Takes names as long as there are any. -/
def names : Nat → Walk (List String)
  | 0 => tooDeep
  | depth + 1 => do
    if (← peek).kind.isName then
      let t ← advance
      let more ← names depth
      return t.text :: more
    else return []

/-- Takes one or more names. -/
def requiredNames (depth : Nat) (operation : String) : Walk (List String) := do
  let columns ← names depth
  if columns.isEmpty then complain (.missingColumns operation) else return columns

/-- Takes an expression between braces. -/
def filter (depth : Nat) : Walk Operation := do
  let _ ← expect .leftBrace .filterBody
  let condition ← expression depth
  let _ ← expect .rightBrace .filterEnd
  return .filter condition

/-- Takes the name of a nested column behind `as`, if there is an `as`. -/
def nestedName : Walk String := do
  if ← check .as then
    let _ ← advance
    expectName .nestedName
  else return defaultNested

/-- Takes the columns of a group and the name of its nested column. -/
def group (depth : Nat) : Walk Operation := do
  let columns ← requiredNames depth "group"
  let nested ← nestedName
  return .group columns nested

/-- Takes pairs of an old and a new name as long as there are names. -/
def pairs : Nat → Walk (List RenamePair)
  | 0 => tooDeep
  | depth + 1 => do
    if (← peek).kind.isName then
      let old ← advance
      let new ← expectName (.newName old.text)
      let more ← pairs depth
      return ⟨old.text, new⟩ :: more
    else return []

/-- Takes one or more pairs of an old and a new name. -/
def rename (depth : Nat) : Walk Operation := do
  let pairs ← pairs depth
  if pairs.isEmpty then complain .missingRenamePair else return .rename pairs

/-- Takes a column, an equals sign and an expression. -/
def assignment (depth : Nat) : Walk Assignment := do
  let column ← expectName .assignedColumn
  let _ ← expect .assign (.assignSign column)
  let expr ← expression depth
  return ⟨column, expr⟩

/-- Takes one or more assignments with commas between them. -/
def assignments : Nat → Walk (List Assignment)
  | 0 => tooDeep
  | depth + 1 => do
    let first ← assignment depth
    if ← check .comma then
      let _ ← advance
      let more ← assignments depth
      return first :: more
    else return [first]

/-- Takes the name of the nested column of a reduction, if two names and an equals sign come. -/
def reducedName : Walk String := do
  if (← peek).kind.isName then
    if (← peekAt 1).kind.isName then
      if (← peekAt 2).kind = .assign then
        let t ← advance
        return t.text
      else return defaultNested
    else return defaultNested
  else return defaultNested

/-- Takes the nested column of a reduction, if it is named, and its assignments. -/
def reduce (depth : Nat) : Walk Operation := do
  let nested ← reducedName
  let assignments ← assignments depth
  return .reduce nested assignments

/-- Takes what follows the name of an operation. -/
def operationBody (depth : Nat) (name : Token) : Walk Operation :=
  match name.text with
  | "head" => return .head (← count "head")
  | "tail" => return .tail (← count "tail")
  | "sorta" => return .sortAscending (← requiredNames depth "sorta")
  | "sortd" => return .sortDescending (← requiredNames depth "sortd")
  | "select" => return .select (← requiredNames depth "select")
  | "remove" => return .remove (← requiredNames depth "remove")
  | "distinct" => return .distinct (← names depth)
  | "filter" => filter depth
  | "group" => group depth
  | "transform" => return .transform (← assignments depth)
  | "reduce" => reduce depth
  | "count" => return .count
  | "rename" => rename depth
  | _ => complain (.unknownOperation name.text name.position)

/-- Takes an operation. -/
def operation (depth : Nat) : Walk Operation := do
  let name ← expect .name .operationName
  operationBody depth name

/-- Takes bars and operations up to the end mark. -/
def operations : Nat → Walk (List Operation)
  | 0 => tooDeep
  | depth + 1 => do
    if ← check .pipe then
      let _ ← advance
      let first ← operation depth
      let more ← operations depth
      return first :: more
    else if ← check .finish then return []
    else unexpected .pipeOrEnd

/-- Takes an expression and looks for the end mark behind it. -/
def wholeExpression (depth : Nat) : Walk Expr := do
  let e ← expression depth
  let _ ← expect .finish .endOfExpression
  return e

/-! ## Calls -/

/-- Does something to the parser that is no look at its buffer. -/
def onParser (f : Parser → Except ParseError α × Parser) : Walk α := do
  let ⟨p, visited⟩ ← get
  set (State.mk (f p).2 visited)
  match (f p).1 with
  | .ok a => return a
  | .error e => throw (.failed e)

end Walk

namespace Parser

/-- Reads the name of a source, which may not be empty. -/
def source (p : Parser) : Except ParseError String × Parser :=
  match p.lexer.source with
  | (.error e, lexer) => (.error (.lexical e), { p with lexer })
  | (.ok source, lexer) =>
    (if source.text.isEmpty then .error (.missingSource source.position) else .ok source.text,
      { p with lexer })

/-- What a parser can be asked for. -/
inductive Call
  | query
  | expression
  | subexpression
  deriving DecidableEq

/-- A call as a walk. -/
def Call.walk (depth : Nat) : Call → Walk (Query ⊕ Expr)
  | query => do
    let source ← Walk.onParser source
    Walk.onParser fill
    let operations ← Walk.operations depth
    return .inl ⟨source, operations⟩
  | expression => do
    Walk.onParser fill
    let e ← Walk.wholeExpression depth
    return .inr e
  | subexpression => do
    let e ← Walk.expression depth
    return .inr e

/-- What a parser answers to a call, and the parser afterwards.  Without tokens there is no answer
to the call for a part of an expression. -/
def ask (p : Parser) : Call → Option (Except ParseError (Query ⊕ Expr) × Parser)
  | .query => some (p.query.1.map .inl, p.query.2)
  | .expression => some (p.expression.1.map .inr, p.expression.2)
  | .subexpression => p.subexpression?.map fun answer => (answer.1.map .inr, answer.2)

/-- The parser after a call; a call without an answer changes nothing. -/
def asked (p : Parser) (call : Call) : Parser :=
  ((p.ask call).map Prod.snd).getD p

/-- The parser after some calls, one after the other. -/
def after (p : Parser) (calls : List Call) : Parser :=
  calls.foldl asked p

end Parser

end TablePipeline
