import TablePipeline.Proofs.Query.Grammar
import TablePipeline.Value.Text

/-!
# Writing queries

A query has a canonical text.  It is made in two steps: first the words of the query, which are
tokens without positions, and then the characters of the words with blanks between them.  All names
of columns stand between backticks and all compound expressions between parentheses, so that
neither keywords nor precedences have to be thought of; negative integers have parentheses of their
own, since only there the minus belongs to the number.

Not every query can be written: a name with a backtick has no spelling, and a list of columns that
has to be there may be empty.  `Query.Printable` leaves these out, and doubles with them, whose text
is not meant to be read back.

## Main definitions

* `Word`, `Word.write`, `spaced` — words and their characters
* `Expr.words`, `Operation.words` — the words of a query
* `Query.print` — the canonical text
* `Query.Printable` — the queries that have one
-/

namespace TablePipeline

/-! ### Words -/

/-- A token without its position. -/
structure Word where
  kind : Token.Kind
  text : String
  deriving DecidableEq

/-- The word that a token stands for. -/
def Token.word (t : Token) : Word :=
  ⟨t.kind, t.text⟩

namespace Word

/-- Punctuation or a keyword. -/
def symbol (kind : Token.Kind) : Word :=
  ⟨kind, kind.symbol⟩

/-- A name between backticks. -/
def quoted (name : String) : Word :=
  ⟨.quotedName, name⟩

/-- A bare name. -/
def bare (name : String) : Word :=
  ⟨.name, name⟩

/-- An integer in decimal digits. -/
def integer (z : Int) : Word :=
  ⟨.integer, String.ofList (integerText z)⟩

end Word

/-- The body of a string literal: quotes and backslashes stand behind a backslash. -/
def escape (cs : List Char) : List Char :=
  cs.flatMap fun c => if c = '"' ∨ c = '\\' then ['\\', c] else [c]

/-- A text between double quotes. -/
def stringLiteral (s : String) : List Char :=
  '"' :: (escape s.toList ++ ['"'])

/-- The characters of a word. -/
def Word.write (w : Word) : List Char :=
  match w.kind with
  | .string => stringLiteral w.text
  | .quotedName => '`' :: (w.text.toList ++ ['`'])
  | _ => w.text.toList

/-- Whether no blank is written between two words: inside parentheses, before commas and between a
function and its arguments. -/
def tight (before after : Token.Kind) : Bool :=
  before = .leftParen || after = .rightParen || after = .comma ||
    (before = .name && after = .leftParen)

/-- The characters of words behind a word of the given kind, with blanks between them. -/
def spaced (last : Token.Kind) : List Word → List Char
  | [] => []
  | w :: ws => (if tight last w.kind then [] else [' ']) ++ (w.write ++ spaced w.kind ws)

/-! ### The words of a query -/

/-- Words between parentheses. -/
def parenthesised (ws : List Word) : List Word :=
  .symbol .leftParen :: (ws ++ [.symbol .rightParen])

/-- Lists of words with commas between them. -/
def commaSeparated : List (List Word) → List Word
  | [] => []
  | [ws] => ws
  | ws :: next :: rest => ws ++ .symbol .comma :: commaSeparated (next :: rest)

/-- The words of a literal.  A negative integer has its own parentheses. -/
def Literal.words : Literal → List Word
  | .null => [.symbol .null]
  | .boolean b => [.symbol (if b then .true else .false)]
  | .integer n =>
    if n.toInt < 0 then parenthesised [.integer n.toInt] else [.integer n.toInt]
  | .float x => [⟨.float, floatText x⟩]
  | .string s => [⟨.string, s⟩]

/-- The words of a null test behind its operand. -/
def nullTestWords (negated : Bool) : List Word :=
  if negated then [.symbol .is, .symbol .not, .symbol .null] else [.symbol .is, .symbol .null]

mutual

/-- The words of an expression. -/
def Expr.words : Expr → List Word
  | .literal l => l.words
  | .column name => [.quoted name]
  | .binary op left right =>
    parenthesised (left.words ++ .symbol op.token :: right.words)
  | .unary op operand => parenthesised (.symbol op.token :: operand.words)
  | .call function arguments =>
    .bare function :: parenthesised (commaSeparated (argumentWords arguments))
  | .nullTest operand negated => parenthesised (operand.words ++ nullTestWords negated)

/-- The words of each argument. -/
def argumentWords : List Expr → List (List Word)
  | [] => []
  | e :: rest => e.words :: argumentWords rest

end

/-- The words of an assignment. -/
def Assignment.words (a : Assignment) : List Word :=
  .quoted a.column :: .symbol .assign :: a.expr.words

/-- The words behind the name of an operation. -/
def Operation.bodyWords : Operation → List Word
  | .head n | .tail n => [.integer n]
  | .sortAscending columns | .sortDescending columns | .select columns | .distinct columns
  | .remove columns => columns.map .quoted
  | .filter condition => .symbol .leftBrace :: (condition.words ++ [.symbol .rightBrace])
  | .group columns nested => columns.map .quoted ++ [.symbol .as, .quoted nested]
  | .transform assignments => commaSeparated (assignments.map Assignment.words)
  | .reduce nested assignments =>
    .quoted nested :: commaSeparated (assignments.map Assignment.words)
  | .count => []
  | .rename pairs => pairs.flatMap fun pair => [.quoted pair.old, .quoted pair.new]

/-- The words of an operation. -/
def Operation.words (op : Operation) : List Word :=
  .bare op.name :: op.bodyWords

/-- The words of operations, with a bar before each. -/
def operationWords (ops : List Operation) : List Word :=
  ops.flatMap fun op => .symbol .pipe :: op.words

/-- The canonical text of a query. -/
def Query.print (q : Query) : String :=
  String.ofList (stringLiteral q.source ++ spaced .string (operationWords q.operations))

/-! ### What can be written -/

/-- A name that may stand between backticks. -/
def Quotable (name : String) : Prop :=
  '`' ∉ name.toList

instance (name : String) : Decidable (Quotable name) :=
  inferInstanceAs (Decidable ('`' ∉ name.toList))

/-- Whether a character is a small ASCII letter, a digit or an underscore. -/
def isIdentifierChar (c : Char) : Bool :=
  c.isLower || c.isDigit || c == '_'

/-- A bare name in small ASCII letters. -/
structure IsIdentifier (s : String) : Prop where
  chars : ∀ c ∈ s.toList, isIdentifierChar c = true
  nonempty : s.toList ≠ []
  noDigit : startsDigit s.toList = false
  notKeyword : Token.Kind.ofKeyword? s = none

instance (s : String) : Decidable (IsIdentifier s) :=
  decidable_of_iff ((s.toList.all isIdentifierChar && !s.toList.isEmpty && !startsDigit s.toList &&
      (Token.Kind.ofKeyword? s).isNone) = true) <| by
    simp only [Bool.and_eq_true, List.all_eq_true, Bool.not_eq_true', List.isEmpty_eq_false_iff,
      Option.isNone_iff_eq_none]
    exact ⟨fun h => ⟨h.1.1.1, h.1.1.2, h.1.2, h.2⟩, fun h => ⟨⟨⟨h.1, h.2⟩, h.3⟩, h.4⟩⟩

/-- An expression without doubles whose columns have spellings and whose functions are bare
names. -/
inductive Expr.Printable : Expr → Prop
  | literal {l : Literal} (exact : ∀ x, l ≠ .float x) : Printable (.literal l)
  | column {name : String} (quotable : Quotable name) : Printable (.column name)
  | binary {op : BinaryOp} {l r : Expr} (left : Printable l) (right : Printable r) :
      Printable (.binary op l r)
  | unary {op : UnaryOp} {e : Expr} (operand : Printable e) : Printable (.unary op e)
  | call {f : String} {es : List Expr} (function : IsIdentifier f)
      (arguments : ∀ e ∈ es, Printable e) : Printable (.call f es)
  | nullTest {e : Expr} {negated : Bool} (operand : Printable e) :
      Printable (.nullTest e negated)

/-- The column has a spelling, and so has the expression. -/
def Assignment.Printable (a : Assignment) : Prop :=
  Quotable a.column ∧ a.expr.Printable

/-- Names have spellings, counts fit an integer, and only `distinct` may name no columns. -/
def Operation.Printable : Operation → Prop
  | .head n | .tail n => Fits n
  | .sortAscending columns | .sortDescending columns | .select columns | .remove columns =>
    columns ≠ [] ∧ ∀ c ∈ columns, Quotable c
  | .distinct columns => ∀ c ∈ columns, Quotable c
  | .filter condition => condition.Printable
  | .group columns nested => (columns ≠ [] ∧ ∀ c ∈ columns, Quotable c) ∧ Quotable nested
  | .transform assignments => assignments ≠ [] ∧ ∀ a ∈ assignments, a.Printable
  | .reduce nested assignments =>
    Quotable nested ∧ assignments ≠ [] ∧ ∀ a ∈ assignments, a.Printable
  | .count => True
  | .rename pairs => pairs ≠ [] ∧ ∀ pair ∈ pairs, Quotable pair.old ∧ Quotable pair.new

/-- The source has a name and every operation can be written. -/
def Query.Printable (q : Query) : Prop :=
  q.source ≠ "" ∧ ∀ op ∈ q.operations, op.Printable

end TablePipeline
