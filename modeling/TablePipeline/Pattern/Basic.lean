import TablePipeline.Pattern.CharSet

/-!
# Patterns

A pattern describes the texts in which it occurs.  Anchors look at the characters around a place
without reading them, so that a pattern may be fulfilled at one place and not at another.

## Main definitions

* `Anchor`, `Anchor.holds` — conditions on a place
* `Pattern` — patterns
* `Pattern.readsNothing` — whether a pattern can only be fulfilled without reading
-/

namespace TablePipeline

/-- The conditions on the characters of words around a place. -/
inductive WordPlace
  | edge
  | noEdge
  | start
  | finish
  | startHalf
  | finishHalf
  deriving DecidableEq

/-- A condition on a place in a text.  Lines end at a line feed, or with `crlf` also at a carriage
return, the two together being one end. -/
inductive Anchor
  | textStart
  | textEnd
  | lineStart (crlf : Bool)
  | lineEnd (crlf : Bool)
  | wordPlace (place : WordPlace) (unicode : Bool)
  deriving DecidableEq

namespace Anchor

/-- Whether there is a character of words. -/
def isWord (unicode : Bool) : Option Char → Bool
  | none => false
  | some c => (if unicode then CharSet.word else CharSet.asciiWord).contains c

/-- Whether the condition holds between the character before the place and the one behind it. -/
def holds (before behind : Option Char) : Anchor → Bool
  | textStart => before.isNone
  | textEnd => behind.isNone
  | lineStart false => before.isNone || before == some '\n'
  | lineStart true =>
    before.isNone || before == some '\n' || (before == some '\r' && behind != some '\n')
  | lineEnd false => behind.isNone || behind == some '\n'
  | lineEnd true =>
    behind.isNone || behind == some '\r' || (behind == some '\n' && before != some '\r')
  | wordPlace place unicode =>
    let left := isWord unicode before
    let right := isWord unicode behind
    match place with
    | .edge => left != right
    | .noEdge => left == right
    | .start => !left && right
    | .finish => left && !right
    | .startHalf => !left
    | .finishHalf => !right

end Anchor

/-- A pattern. -/
inductive Pattern
  | empty
  | oneOf (s : CharSet)
  | anchor (a : Anchor)
  | sequence (p q : Pattern)
  | either (p q : Pattern)
  /-- At least `least` and at most `most` repetitions. -/
  | repeated (p : Pattern) (least : Nat) (most : Option Nat)

namespace Pattern

/-- One pattern behind the other. -/
def andThen (p q : Pattern) : Pattern :=
  match p, q with
  | empty, q => q
  | p, empty => p
  | p, q => sequence p q

/-- Whether the pattern can only be fulfilled without reading anything. -/
def readsNothing : Pattern → Bool
  | empty => true
  | oneOf _ => false
  | anchor _ => true
  | sequence p q => p.readsNothing && q.readsNothing
  | either p q => p.readsNothing && q.readsNothing
  | repeated p _ most => p.readsNothing || most == some 0

end Pattern

end TablePipeline
