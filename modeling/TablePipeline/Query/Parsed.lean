import TablePipeline.Query.Lexer

/-!
# Outcomes of parsing

A grammar rule takes the tokens that are still to come and gives back what it found, or why it
could not go on, together with the tokens that it left.  The mark at the end of the text is not
among the tokens: a rule that needs another token and has none complains with nothing left.

Rules that call each other give their outcome as a `Step`, which carries the fact that a rule never
leaves more tokens than it was given; that is why the recursion ends.

## Main definitions

* `Expected`, `Complaint`, `ParseError` — why a text is no query
* `Parsed` — an outcome and the tokens that are left
* `Parsed.bind` — one rule after another
* `Step` — an outcome that leaves no more tokens than there were
* `expect` — the rule for one token of a given kind
-/

namespace TablePipeline

/-- What a rule would have accepted. -/
inductive Expected
  | pipeOrEnd
  | endOfExpression
  | operationName
  | count (operation : String)
  | filterBody
  | filterEnd
  | nestedName
  | newName (old : String)
  | assignedColumn
  | assignSign (column : String)
  | expression
  | nullAfterIs
  | nullAfterIsNot
  | groupEnd
  | callEnd (function : String)
  deriving DecidableEq

/-- The text of an expectation. -/
def Expected.text : Expected → String
  | pipeOrEnd => "'|' or end of query"
  | endOfExpression => "end of expression"
  | operationName => "operation name"
  | count operation => "integer after '" ++ operation ++ "'"
  | filterBody => "'\x7b' after 'filter'"
  | filterEnd => "'\x7d' to close filter"
  | nestedName => "nested column name after 'as'"
  | newName old => "new name for column " ++ quoted old
  | assignedColumn => "column name in assignment"
  | assignSign column => "'=' after column " ++ quoted column
  | expression => "expression"
  | nullAfterIs => "'null' after 'is'"
  | nullAfterIsNot => "'null' after 'is not'"
  | groupEnd => "')' to close group"
  | callEnd function => "')' to close call to " ++ function

/-- Why a rule could not go on. -/
inductive Complaint
  /-- The first token that was left is none of those expected. -/
  | unexpected (expected : Expected)
  | unknownOperation (name : String) (position : Nat)
  | missingColumns (operation : String)
  | missingRenamePair
  | invalidInteger (text : String) (position : Nat)
  | invalidFloat (text : String) (position : Nat)
  deriving DecidableEq

/-- Why a text is no query or no expression. -/
inductive ParseError
  | lexical (e : LexError)
  | missingSource (position : Nat)
  /-- A complaint of the grammar, with the first token that was left. -/
  | refused (complaint : Complaint) (found : Token)
  deriving DecidableEq

namespace ParseError

/-- The text of a parse error. -/
def message : ParseError → String
  | lexical e => "lex error: " ++ e.message
  | missingSource position => "expected filename at position " ++ countText position
  | refused (.unexpected expected) found =>
    "expected " ++ expected.text ++ ", got " ++ found.kind.symbol ++ " (" ++ quoted found.text ++
      ") at position " ++ countText found.position
  | refused (.unknownOperation name position) _ =>
    "unknown operation " ++ quoted name ++ " at position " ++ countText position
  | refused (.missingColumns operation) _ => operation ++ ": expected at least one column"
  | refused .missingRenamePair _ => "rename: expected at least one old/new pair"
  | refused (.invalidInteger text position) _ =>
    "invalid integer " ++ quoted text ++ " at position " ++ countText position
  | refused (.invalidFloat text position) _ =>
    "invalid float " ++ quoted text ++ " at position " ++ countText position

/-- The position of the character or token at fault, where there is one. -/
def position? : ParseError → Option Nat
  | lexical e => some e.position
  | missingSource position => some position
  | refused (.unexpected _) found => some found.position
  | refused (.unknownOperation _ position) _ => some position
  | refused (.missingColumns _) _ => none
  | refused .missingRenamePair _ => none
  | refused (.invalidInteger _ position) _ => some position
  | refused (.invalidFloat _ position) _ => some position

end ParseError

/-- What a rule found, or why it could not go on, and the tokens that it left. -/
structure Parsed (α : Type) where
  outcome : Except Complaint α
  rest : List Token

namespace Parsed

variable {α β : Type}

/-- The rule found something and leaves these tokens. -/
def done (a : α) (rest : List Token) : Parsed α :=
  ⟨.ok a, rest⟩

/-- The rule could not go on with these tokens. -/
def refuse (c : Complaint) (rest : List Token) : Parsed α :=
  ⟨.error c, rest⟩

/-- Goes on with what was found and the tokens that were left. -/
def bind (p : Parsed α) (next : α → List Token → Parsed β) : Parsed β :=
  match p with
  | ⟨.ok a, rest⟩ => next a rest
  | ⟨.error c, rest⟩ => ⟨.error c, rest⟩

/-- Changes what was found. -/
def map (f : α → β) (p : Parsed α) : Parsed β :=
  p.bind fun a rest => done (f a) rest

@[simp] theorem bind_done (a : α) (rest : List Token) (next : α → List Token → Parsed β) :
    (done a rest).bind next = next a rest := rfl

@[simp] theorem bind_refuse (c : Complaint) (rest : List Token)
    (next : α → List Token → Parsed β) : (refuse c rest : Parsed α).bind next = refuse c rest :=
  rfl

@[simp] theorem map_done (f : α → β) (a : α) (rest : List Token) :
    (done a rest).map f = done (f a) rest := rfl

@[simp] theorem map_refuse (f : α → β) (c : Complaint) (rest : List Token) :
    (refuse c rest : Parsed α).map f = refuse c rest := rfl

/-- Every outcome is a find or a refusal. -/
theorem eq_done_or_refuse (p : Parsed α) :
    (∃ a rest, p = done a rest) ∨ ∃ c rest, p = refuse c rest := by
  obtain ⟨outcome, rest⟩ := p
  cases outcome with
  | ok a => exact .inl ⟨a, rest, rfl⟩
  | error c => exact .inr ⟨c, rest, rfl⟩

/-- Rules that never leave more than `n` tokens do not do so one after the other. -/
theorem length_rest_bind {p : Parsed α} {next : α → List Token → Parsed β} {n : Nat}
    (hp : p.rest.length ≤ n)
    (hnext : ∀ a rest, rest.length ≤ n → (next a rest).rest.length ≤ n) :
    (p.bind next).rest.length ≤ n := by
  rcases p.eq_done_or_refuse with ⟨a, rest, rfl⟩ | ⟨c, rest, rfl⟩
  · exact hnext a rest hp
  · exact hp

theorem rest_map (f : α → β) (p : Parsed α) : (p.map f).rest = p.rest := by
  rcases p.eq_done_or_refuse with ⟨a, rest, rfl⟩ | ⟨c, rest, rfl⟩ <;> rfl

end Parsed

/-! ## Steps -/

/-- An outcome of a rule that leaves no more tokens than it was given. -/
abbrev Step (α : Type) (ts : List Token) :=
  { p : Parsed α // p.rest.length ≤ ts.length }

namespace Step

variable {α β : Type} {ts rest : List Token}

/-- The rule found something and leaves all tokens. -/
def done (a : α) (ts : List Token) : Step α ts :=
  ⟨.done a ts, Nat.le_refl _⟩

/-- The rule could not go on. -/
def refuse (c : Complaint) (ts : List Token) : Step α ts :=
  ⟨.refuse c ts, Nat.le_refl _⟩

/-- The same outcome, seen from a longer list of tokens. -/
def after (h : rest.length ≤ ts.length) (s : Step α rest) : Step α ts :=
  ⟨s.1, Nat.le_trans s.2 h⟩

/-- Goes on with what was found; the tokens left are known to be no more than there were. -/
def andThen (s : Step α ts)
    (next : (a : α) → (rest : List Token) → rest.length ≤ ts.length → Step β rest) : Step β ts :=
  match s with
  | ⟨⟨.ok a, rest⟩, h⟩ => (next a rest h).after h
  | ⟨⟨.error c, rest⟩, h⟩ => ⟨⟨.error c, rest⟩, h⟩

/-- Changes what was found. -/
def map (f : α → β) (s : Step α ts) : Step β ts :=
  s.andThen fun a rest _ => done (f a) rest

theorem val_done (a : α) (ts : List Token) : (done a ts).1 = .done a ts := rfl

theorem val_refuse (c : Complaint) (ts : List Token) :
    (refuse c ts : Step α ts).1 = .refuse c ts := rfl

theorem val_after (h : rest.length ≤ ts.length) (s : Step α rest) : (s.after h).1 = s.1 := rfl

/-- Going on with a step is going on with its outcome. -/
theorem val_andThen (s : Step α ts)
    (next : (a : α) → (rest : List Token) → rest.length ≤ ts.length → Step β rest)
    (next' : α → List Token → Parsed β) (h : ∀ a rest hle, (next a rest hle).1 = next' a rest) :
    (s.andThen next).1 = s.1.bind next' := by
  obtain ⟨⟨outcome, rest⟩, hle⟩ := s
  cases outcome with
  | ok a => exact h a rest hle
  | error c => rfl

theorem val_map (f : α → β) (s : Step α ts) : (s.map f).1 = s.1.map f :=
  val_andThen _ _ _ fun _ _ _ => rfl

end Step

/-! ## Single tokens -/

theorem length_tail_le (t : Token) (rest : List Token) : rest.length ≤ (t :: rest).length :=
  Nat.le_succ _

/-- Takes a token of the given kind. -/
def expectStep (kind : Token.Kind) (expected : Expected) (ts : List Token) : Step Token ts :=
  match ts with
  | [] => .refuse (.unexpected expected) []
  | t :: rest =>
    if t.kind = kind then (Step.done t rest).after (length_tail_le _ _)
    else .refuse (.unexpected expected) (t :: rest)

/-- Takes a token of the given kind. -/
def expect (kind : Token.Kind) (expected : Expected) (ts : List Token) : Parsed Token :=
  (expectStep kind expected ts).1

/-- Takes a token that names something. -/
def expectName (expected : Expected) (ts : List Token) : Parsed String :=
  match ts with
  | [] => .refuse (.unexpected expected) []
  | t :: rest =>
    if t.kind.isName then .done t.text rest else .refuse (.unexpected expected) (t :: rest)

/-- Whether the next token has the given kind. -/
def nextIs (kind : Token.Kind) (ts : List Token) : Bool :=
  match ts with
  | [] => false
  | t :: _ => t.kind == kind

theorem expect_cons (kind : Token.Kind) (expected : Expected) (t : Token) (rest : List Token) :
    expect kind expected (t :: rest) =
      if t.kind = kind then .done t rest else .refuse (.unexpected expected) (t :: rest) := by
  simp only [expect, expectStep]
  split <;> rfl

theorem length_rest_expect (kind : Token.Kind) (expected : Expected) (ts : List Token) :
    (expect kind expected ts).rest.length ≤ ts.length :=
  (expectStep kind expected ts).2

theorem length_rest_expectName (expected : Expected) (ts : List Token) :
    (expectName expected ts).rest.length ≤ ts.length := by
  unfold expectName
  split
  · exact Nat.le_refl _
  · split
    · exact Nat.le_succ _
    · exact Nat.le_refl _

theorem expect_nil (kind : Token.Kind) (expected : Expected) :
    expect kind expected [] = .refuse (.unexpected expected) [] := rfl

end TablePipeline
