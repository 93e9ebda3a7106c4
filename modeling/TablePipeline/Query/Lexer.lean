import TablePipeline.Query.Lexeme

/-!
# The lexer

A lexer stands somewhere in a query and remembers the kind of the last token, which decides whether
a minus may begin a number.  It can be asked for the name of a source, for one token or for all
tokens that remain.  An error does not end it: it stays where the reading stopped and can be asked
again.

## Main definitions

* `LexError` — a fault and its position
* `Lexer` — the text, what remains of it and the last kind
* `Lexer.source`, `Lexer.next`, `Lexer.tokenize` — the three questions
-/

namespace TablePipeline

/-- A fault and the position of the character that begins it. -/
structure LexError where
  fault : LexFault
  position : Nat
  deriving DecidableEq

/-- The text of a lexical error. -/
def LexError.message (e : LexError) : String :=
  let at_ := countText e.position
  match e.fault with
  | .unterminatedString => "unterminated string starting at position " ++ at_
  | .unterminatedName => "unterminated backtick identifier starting at position " ++ at_
  | .unexpectedChar c =>
    let hint := if c = '!' then " (did you mean '!='?)" else ""
    "unexpected character " ++ quotedChar c ++ " at position " ++ at_ ++ hint
  | .invalidNumber text => "invalid number " ++ quoted text ++ " at position " ++ at_

/-- A text that is being read, what remains of it, and the kind of the last token. -/
structure Lexer where
  text : List Char
  rest : List Char
  last : Option Token.Kind

namespace Lexer

/-- A lexer at the beginning of a text. -/
def ofString (s : String) : Lexer :=
  ⟨s.toList, s.toList, none⟩

/-- The number of characters before what remains. -/
def position (l : Lexer) : Nat :=
  l.text.length - l.rest.length

/-- The lexer behind white space and comments. -/
def skip (l : Lexer) : Lexer :=
  { l with rest := skipGap l.rest }

/-- Whether a minus in front of a digit begins a number here. -/
def signAllowed (l : Lexer) : Bool :=
  match l.last with
  | none => true
  | some kind => !kind.endsOperand

/-- Makes a token of a word read at the front of what remains. -/
def take (l : Lexer) (outcome : Lexeme.Outcome) : Except LexError Token × Lexer :=
  match outcome with
  | .ok word =>
    (.ok ⟨word.kind, String.ofList word.text, l.position⟩,
      { l with rest := word.rest, last := some word.kind })
  | .error (fault, rest) => (.error ⟨fault, l.position⟩, { l with rest })

/-- Reads the name of a source. -/
def source (l : Lexer) : Except LexError Token × Lexer :=
  l.skip.take (Lexeme.readSource l.skip.rest)

/-- Reads the next token. -/
def next (l : Lexer) : Except LexError Token × Lexer :=
  l.skip.take (Lexeme.read l.signAllowed l.skip.rest)

/-- A token other than the end mark leaves less to be read. -/
theorem length_rest_next {l : Lexer} {t : Token} (h : l.next.1 = .ok t) (hk : t.kind ≠ .finish) :
    l.next.2.rest.length < l.rest.length := by
  have hskip := length_skipGap_le l.rest
  unfold next take at h ⊢
  cases hr : Lexeme.read l.signAllowed l.skip.rest with
  | error e => simp [hr] at h
  | ok word =>
    rw [hr] at h
    simp only [Except.ok.injEq] at h
    rcases Lexeme.length_read hr with ⟨hkind, -, -⟩ | hlt
    · exact absurd (by rw [← h]; exact hkind) hk
    · simp only
      exact Nat.lt_of_lt_of_le hlt hskip

/-- Reads all tokens that remain, up to the end mark. -/
def tokenize (l : Lexer) : Except LexError (List Token) × Lexer :=
  match _h : l.next with
  | (.error e, stopped) => (.error e, stopped)
  | (.ok t, following) =>
    if _hk : t.kind = .finish then (.ok [t], following)
    else
      let (tokens, stopped) := following.tokenize
      (tokens.map (t :: ·), stopped)
termination_by l.rest.length
decreasing_by
  have hlt := length_rest_next (l := l) (t := t) (by rw [_h]) _hk
  rw [_h] at hlt
  exact hlt

end Lexer

end TablePipeline
