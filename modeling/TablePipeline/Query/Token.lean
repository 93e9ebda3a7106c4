import TablePipeline.Text.Quoted
import TablePipeline.Number.Integer

/-!
# Tokens

The words of a query.  A token has a kind, a text (the name, the digits, the decoded contents of a
string) and the position of its first character in the query.

## Main definitions

* `Token`, `Token.Kind` — tokens and their kinds
* `Token.Kind.endsOperand` — whether a minus behind such a token is an operator
* `Token.Kind.ofKeyword?` — the kinds of words that are no names
-/

namespace TablePipeline

/-- The kinds of tokens. -/
inductive Token.Kind
  | pipe
  | leftBrace
  | rightBrace
  | leftParen
  | rightParen
  | comma
  | assign
  | dot
  | plus
  | minus
  | star
  | slash
  | equal
  | notEqual
  | less
  | greater
  | lessEqual
  | greaterEqual
  | and
  | or
  | not
  | is
  | true
  | false
  | null
  | as
  | integer
  | float
  | string
  | name
  | quotedName
  | finish
  deriving DecidableEq

/-- A word of a query. -/
structure Token where
  kind : Token.Kind
  text : String
  position : Nat
  deriving DecidableEq

namespace Token

namespace Kind

/-- A kind as it stands in messages. -/
def symbol : Kind → String
  | pipe => "|"
  | leftBrace => "\x7b"
  | rightBrace => "\x7d"
  | leftParen => "("
  | rightParen => ")"
  | comma => ","
  | assign => "="
  | dot => "."
  | plus => "+"
  | minus => "-"
  | star => "*"
  | slash => "/"
  | equal => "=="
  | notEqual => "!="
  | less => "<"
  | greater => ">"
  | lessEqual => "<="
  | greaterEqual => ">="
  | and => "and"
  | or => "or"
  | not => "not"
  | is => "is"
  | true => "true"
  | false => "false"
  | null => "null"
  | as => "as"
  | integer => "INT"
  | float => "FLOAT"
  | string => "STRING"
  | name => "IDENT"
  | quotedName => "QUOTED_IDENT"
  | finish => "EOF"

/-- Whether the kind names something: a column, an operation or a function. -/
def isName : Kind → Bool
  | name | quotedName => Bool.true
  | _ => Bool.false

/-- Whether a minus behind a token of this kind is an operator.  Behind an opening bracket, a
separator or an operator there can be no operand yet, and a minus in front of a digit begins a
negative number. -/
def endsOperand : Kind → Bool
  | leftParen | comma | assign | pipe | leftBrace => Bool.false
  | plus | minus | star | slash => Bool.false
  | equal | notEqual | less | greater | lessEqual | greaterEqual => Bool.false
  | and | or | not => Bool.false
  | _ => Bool.true

/-- The kind of a word that is no name. -/
def ofKeyword? (word : String) : Option Kind :=
  match word with
  | "and" => some .and
  | "or" => some .or
  | "not" => some .not
  | "is" => some .is
  | "true" => some .true
  | "false" => some .false
  | "null" => some .null
  | "as" => some .as
  | _ => none

end Kind

/-- A token with its kind, its quoted text and its position. -/
def display (t : Token) : String :=
  t.kind.symbol ++ "(" ++ quoted t.text ++ ")@" ++ countText t.position

end Token

end TablePipeline
