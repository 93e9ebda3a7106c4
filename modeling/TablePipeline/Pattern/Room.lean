import TablePipeline.Pattern.Basic

/-!
# The room that patterns take

A pattern is refused when it would take too much room, written out as a machine that reads the bytes
of a text from the last to the first.  Each byte or range of bytes is a state of that machine.  A
set is written out range by range, each split into sequences of byte ranges; sequences share the
states of a common beginning.

## Main definitions

* `CharSet.outline` — the ranges of a set, as few as possible
* `byteSequences` — the sequences of byte ranges that spell a range of characters
* `CharSet.room`, `Pattern.room` — the room of a set and of a pattern
* `Pattern.roomLimit` — the room that there is
-/

namespace TablePipeline

/-! ## Outlines -/

/-- The greatest code point. -/
def greatestCode : Nat := 0x10FFFF

namespace CodeRanges

/-- Joins ascending ranges that overlap or touch, the first of them given by its ends. -/
def joinFrom (low high : Nat) : CodeRanges → CodeRanges
  | [] => [(low, high)]
  | (a, b) :: rest =>
    if a ≤ high + 1 then joinFrom low (max high b) rest else (low, high) :: joinFrom a b rest

/-- Joins ascending ranges that overlap or touch. -/
def join : CodeRanges → CodeRanges
  | [] => []
  | (low, high) :: rest => joinFrom low high rest

/-- The ranges of two lists, in ascending order. -/
def together (a b : CodeRanges) : CodeRanges :=
  join (a.merge b fun r s => r.1 ≤ s.1)

/-- The gaps between ascending ranges, from a code point on. -/
def gapsFrom (next : Nat) : CodeRanges → CodeRanges
  | [] => if next ≤ greatestCode then [(next, greatestCode)] else []
  | (low, high) :: rest =>
    if next < low then (next, low - 1) :: gapsFrom (high + 1) rest else gapsFrom (high + 1) rest

/-- The number of code points. -/
def size (ranges : CodeRanges) : Nat :=
  ranges.foldl (fun n r => n + (r.2 + 1 - r.1)) 0

/-- The code points. -/
def codes (ranges : CodeRanges) : List Nat :=
  ranges.flatMap fun r => List.range' r.1 (r.2 + 1 - r.1)

/-- The ranges with the variants of their code points.  Large sets are taken to hold theirs. -/
def withVariants (variants : Nat → List Nat) (ranges : CodeRanges) : CodeRanges :=
  if ranges.size ≤ 200 then
    join ((ranges.codes.flatMap variants).mergeSort.map fun n => (n, n))
  else ranges

end CodeRanges

/-- The ranges of a set, as few as possible. -/
def CharSet.outline : CharSet → CodeRanges
  | ranges rs => rs.join
  | union a b => a.outline.together b.outline
  | intersection a b =>
    ((a.outline.gapsFrom 0).together (b.outline.gapsFrom 0)).gapsFrom 0
  | difference a b => ((a.outline.gapsFrom 0).together b.outline).gapsFrom 0
  | complement a => a.outline.gapsFrom 0
  | folded a => a.outline.withVariants caseVariants
  | foldedAscii a => a.outline.withVariants asciiVariants

/-! ## Sequences of bytes -/

/-- The part of a range between two code points, if there is any. -/
def clipRange (r : Nat × Nat) (bounds : Nat × Nat) : CodeRanges :=
  let low := max r.1 bounds.1
  let high := min r.2 bounds.2
  if low ≤ high then [(low, high)] else []

/-- The code points that take the same number of bytes, without surrogates. -/
def encodedRanges : CodeRanges :=
  [(0, 0x7F), (0x80, 0x7FF), (0x800, 0xD7FF), (0xE000, 0xFFFF), (0x10000, 0x10FFFF)]

/-- Splits a range into what lies in one block and what fills whole blocks. -/
def splitBlocks (block : Nat) (r : Nat × Nat) : CodeRanges :=
  if r.1 / block = r.2 / block then [r]
  else
    let first := (r.1 + block - 1) / block * block
    let last := (r.2 + 1) / block * block
    (if r.1 < first then [(r.1, first - 1)] else []) ++
      (if first < last then [(first, last - 1)] else []) ++
      (if last ≤ r.2 then [(last, r.2)] else [])

/-- The parts of a range whose characters are spelt by one sequence of byte ranges each. -/
def spelledParts (r : Nat × Nat) : CodeRanges :=
  (encodedRanges.flatMap (clipRange r)).flatMap fun part =>
    if part.2 < 0x80 then [part]
    else ((splitBlocks 0x40 part).flatMap (splitBlocks 0x1000)).flatMap (splitBlocks 0x40000)

/-- The bytes of a code point. -/
def codeBytes (n : Nat) : List UInt8 :=
  String.utf8EncodeChar (Char.ofNat n)

/-- The sequences of byte ranges that spell a range of characters. -/
def byteSequences (r : Nat × Nat) : List (List (UInt8 × UInt8)) :=
  (spelledParts r).map fun part => (codeBytes part.1).zip (codeBytes part.2)

/-- The length of the common beginning of two lists. -/
def commonLength {α : Type} [BEq α] : List α → List α → Nat
  | a :: as, b :: bs => if a == b then commonLength as bs + 1 else 0
  | _, _ => 0

/-- The number of states of sequences of which each shares the beginning of the one before it. -/
def sharedStates (before : List (UInt8 × UInt8)) : List (List (UInt8 × UInt8)) → Nat
  | [] => 0
  | s :: rest => s.length - commonLength before s + sharedStates s rest

/-! ## Room -/

/-- The room of a state. -/
def stateRoom : Nat := 32

/-- The room of a set. -/
def CharSet.room (s : CharSet) : Nat :=
  let outline := s.outline
  match outline.getLast? with
  | none => stateRoom
  | some (low, high) =>
    if outline.length = 1 ∧ low = high then stateRoom * (codeBytes low).length
    else if high < 0x80 then 2 * stateRoom + 8 * outline.length
    else
      let sequences := outline.flatMap byteSequences
      stateRoom * (2 + sharedStates [] sequences) + 4 * sequences.length

namespace Pattern

/-- The room of a pattern.  Repetitions are written out; of what reads nothing one is enough. -/
def room : Pattern → Nat
  | empty => stateRoom
  | oneOf s => s.room
  | anchor _ => stateRoom
  | sequence p q => p.room + q.room
  | either p q => p.room + q.room + stateRoom
  | repeated p least most =>
    let least := if p.readsNothing then min least 1 else least
    let surplus :=
      match most with
      | none => 1
      | some most => if p.readsNothing then 1 else most - least
    least * p.room + surplus * (p.room + stateRoom + 8) + stateRoom

/-- The room that there is. -/
def roomLimit : Nat := 10485760

end Pattern

end TablePipeline
