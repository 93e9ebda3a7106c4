import TablePipeline.Pattern.Basic

/-!
# Searching for patterns

A search goes through the text once.  The pattern is written out, so that every repetition has a
copy of its own, and each set in it carries a mark that says whether some way of fulfilling the
pattern has just read a character there.  Reading a character moves the marks; a new way may begin
at every place.  The pattern occurs when some way reaches its end.

Anchors are decided where they stand, by the two characters around the place.

## Main definitions

* `MarkedPattern` — a pattern written out, with marks
* `Pattern.writtenOut` — a pattern without marks
* `MarkedPattern.passable`, `MarkedPattern.finished` — what can be reached without reading
* `MarkedPattern.advance` — the marks after one more character
* `Pattern.occursIn` — whether a pattern occurs in a text
-/

namespace TablePipeline

/-- A pattern without counted repetitions, with a mark at every set. -/
inductive MarkedPattern
  | empty
  | oneOf (reached : Bool) (s : CharSet)
  | anchor (a : Anchor)
  | sequence (p q : MarkedPattern)
  | either (p q : MarkedPattern)
  /-- Any number of repetitions. -/
  | star (p : MarkedPattern)

namespace MarkedPattern

/-- One pattern behind the other. -/
def andThen (p q : MarkedPattern) : MarkedPattern :=
  match p, q with
  | empty, q => q
  | p, empty => p
  | p, q => sequence p q

/-- The pattern at most once. -/
def optional (p : MarkedPattern) : MarkedPattern :=
  either empty p

/-- A number of copies, one behind the other.  They are put together in halves, so that the pattern
does not become deep. -/
def copies (p : MarkedPattern) (n : Nat) : MarkedPattern :=
  if n = 0 then empty
  else if n = 1 then p
  else (copies p (n / 2)).andThen (copies p (n - n / 2))
termination_by n

/-- At least `least` and at most `most` copies. -/
def repeated (p : MarkedPattern) (least : Nat) : Option Nat → MarkedPattern
  | none => (p.copies least).andThen p.star
  | some most => (p.copies least).andThen (p.optional.copies (most - least))

/-- Whether the pattern can be passed at a place without reading anything. -/
def passable (before behind : Option Char) : MarkedPattern → Bool
  | empty => true
  | oneOf _ _ => false
  | anchor a => a.holds before behind
  | sequence p q => p.passable before behind && q.passable before behind
  | either p q => p.passable before behind || q.passable before behind
  | star _ => true

/-- Whether a way through the pattern that has been begun ends at a place. -/
def finished (before behind : Option Char) : MarkedPattern → Bool
  | empty => false
  | oneOf reached _ => reached
  | anchor _ => false
  | sequence p q =>
    q.finished before behind || (q.passable before behind && p.finished before behind)
  | either p q => p.finished before behind || q.finished before behind
  | star p => p.finished before behind

/-- The marks after one more character has been read.  A new way is begun when `enter` holds. -/
def advance (before : Option Char) (c : Char) (enter : Bool) : MarkedPattern → MarkedPattern
  | empty => empty
  | oneOf _ s => oneOf (enter && s.contains c) s
  | anchor a => anchor a
  | sequence p q =>
    sequence (p.advance before c enter)
      (q.advance before c
        ((enter && p.passable before (some c)) || p.finished before (some c)))
  | either p q => either (p.advance before c enter) (q.advance before c enter)
  | star p => star (p.advance before c (enter || p.finished before (some c)))

/-- Whether a way through the pattern is complete at a place, a way that reads nothing among
them. -/
def complete (before behind : Option Char) (p : MarkedPattern) : Bool :=
  p.passable before behind || p.finished before behind

/-- Whether a way through the pattern becomes complete somewhere in the rest of a text. -/
def search (p : MarkedPattern) (before : Option Char) : List Char → Bool
  | [] => p.complete before none
  | c :: rest =>
    p.complete before (some c) || search (p.advance before c true) (some c) rest

end MarkedPattern

namespace Pattern

/-- The pattern written out, without marks.  More than one repetition of what reads nothing is no
different from one. -/
def writtenOut : Pattern → MarkedPattern
  | empty => .empty
  | oneOf s => .oneOf false s
  | anchor a => .anchor a
  | sequence p q => p.writtenOut.andThen q.writtenOut
  | either p q => .either p.writtenOut q.writtenOut
  | repeated p least most =>
    if p.readsNothing then p.writtenOut.repeated (min least 1) (some (min (most.getD 1) 1))
    else p.writtenOut.repeated least most

/-- Whether the pattern occurs in the text. -/
def occursIn (p : Pattern) (cs : List Char) : Bool :=
  p.writtenOut.search none cs

end Pattern

end TablePipeline
