import TablePipeline.Query.OperationParser

/-!
# The parser

A parser reads a query, or an expression, from a text, and can be asked again: it keeps its lexer,
the tokens it has read and a cursor in them.  The tokens are read once, all together, when they are
first needed; when that fails nothing is kept but the place where the lexer stopped.  The name of a
source is always read by the lexer itself, from where it stands.

## Main definitions

* `Parser` — lexer, tokens and cursor
* `Parser.query`, `Parser.expression`, `Parser.subexpression?` — the three questions
* `Query.parse` — the query that a text spells
* `Expr.parse` — the expression that a text spells
-/

namespace TablePipeline

/-- A lexer, the tokens that it has given, the end mark among them, and the number of tokens that
have been taken.  There are no tokens as long as they have not been asked for. -/
structure Parser where
  lexer : Lexer
  tokens : List Token
  cursor : Nat

namespace Parser

/-- A parser at the beginning of a text. -/
def ofString (s : String) : Parser :=
  ⟨Lexer.ofString s, [], 0⟩

/-- The tokens that are still to come, without the end mark. -/
def upcoming (p : Parser) : List Token :=
  (p.tokens.drop p.cursor).dropLast

/-- The mark at the end of the tokens. -/
def endMark (p : Parser) : Token :=
  p.tokens.getLast?.getD ⟨.finish, "", 0⟩

/-- Reads all tokens, if that has not been done yet. -/
def fill (p : Parser) : Except ParseError Unit × Parser :=
  if p.tokens.isEmpty then
    match p.lexer.tokenize with
    | (.ok tokens, lexer) => (.ok (), ⟨lexer, tokens, 0⟩)
    | (.error e, lexer) => (.error (.lexical e), { p with lexer })
  else (.ok (), p)

/-- Applies a rule of the grammar to the tokens that are still to come and moves the cursor behind
those that it took. -/
def apply {α : Type} (p : Parser) (rule : List Token → Parsed α) : Except ParseError α × Parser :=
  let result := rule p.upcoming
  let found := result.rest.head?.getD p.endMark
  (result.outcome.mapError (ParseError.refused · found),
    { p with cursor := p.tokens.length - 1 - result.rest.length })

/-- Reads the name of a source and then the operations up to the end of the tokens. -/
def query (p : Parser) : Except ParseError Query × Parser :=
  match p.lexer.source with
  | (.error e, lexer) => (.error (.lexical e), { p with lexer })
  | (.ok source, lexer) =>
    let p := { p with lexer }
    if source.text.isEmpty then (.error (.missingSource source.position), p)
    else
      match p.fill with
      | (.error e, p) => (.error e, p)
      | (.ok (), p) =>
        let (outcome, p) := p.apply parseOperations
        (outcome.map (⟨source.text, ·⟩), p)

/-- Reads an expression up to the end of the tokens. -/
def expression (p : Parser) : Except ParseError Expr × Parser :=
  match p.fill with
  | (.error e, p) => (.error e, p)
  | (.ok (), p) => p.apply parseWholeExpression

/-- Reads an expression at the cursor; without tokens there is no cursor. -/
def subexpression? (p : Parser) : Option (Except ParseError Expr × Parser) :=
  if p.tokens.isEmpty then none else some (p.apply parseExpression)

end Parser

/-- The query that a text spells. -/
def Query.parse (s : String) : Except ParseError Query :=
  (Parser.ofString s).query.1

/-- The expression that a text spells. -/
def Expr.parse (s : String) : Except ParseError Expr :=
  (Parser.ofString s).expression.1

end TablePipeline
