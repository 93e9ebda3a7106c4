import TablePipeline.Pattern.CaseFold
import TablePipeline.Text.Alphabet
import TablePipeline.Text.Blank
import TablePipeline.Pattern.Categories

/-!
# Sets of characters

The sets that stand in a pattern: ranges, and what union, intersection, difference, complement and
the disregard of case make of them.

## Main definitions

* `CharSet`, `CharSet.contains` — sets and membership
* `CharSet.digit`, `CharSet.space`, `CharSet.word` — the common classes
-/

namespace TablePipeline

/-- A set of characters. -/
inductive CharSet
  | ranges (rs : CodeRanges)
  | union (a b : CharSet)
  | intersection (a b : CharSet)
  | difference (a b : CharSet)
  | complement (a : CharSet)
  /-- The characters that differ from a member by case only. -/
  | folded (a : CharSet)
  /-- The characters that differ from a member by the case of an ASCII letter only. -/
  | foldedAscii (a : CharSet)
  deriving DecidableEq

namespace CharSet

/-- The variants of a code point that differ by the case of an ASCII letter. -/
def asciiVariants (n : Nat) : List Nat :=
  if 0x41 ≤ n ∧ n ≤ 0x5A then [n, n + 32]
  else if 0x61 ≤ n ∧ n ≤ 0x7A then [n, n - 32]
  else [n]

/-- Whether a code point belongs to the set. -/
def containsCode : CharSet → Nat → Bool
  | ranges rs, n => rs.containsCode n
  | union a b, n => a.containsCode n || b.containsCode n
  | intersection a b, n => a.containsCode n && b.containsCode n
  | difference a b, n => a.containsCode n && !b.containsCode n
  | complement a, n => !a.containsCode n
  | folded a, n => (caseVariants n).any a.containsCode
  | foldedAscii a, n => (asciiVariants n).any a.containsCode

/-- Whether a character belongs to the set. -/
def contains (s : CharSet) (c : Char) : Bool :=
  s.containsCode c.toNat

/-- The empty set. -/
def empty : CharSet := ranges []

/-- The set of one character. -/
def single (c : Char) : CharSet := ranges [(c.toNat, c.toNat)]

/-- The union of several sets. -/
def unions (sets : List CharSet) : CharSet :=
  sets.foldr union empty

/-- The characters in one of the sets but not in both. -/
def symmetricDifference (a b : CharSet) : CharSet :=
  union (difference a b) (difference b a)

/-- The members of the set, or the characters outside it. -/
def negateIf (negated : Bool) (s : CharSet) : CharSet :=
  if negated then complement s else s

/-- Decimal digits of any script. -/
def digit : CharSet := ranges categoryNd

/-- White space. -/
def space : CharSet := ranges blankRanges

/-- The characters of words: letters, marks, decimal digits, connectors and joiners. -/
def word : CharSet :=
  unions [ranges alphabeticRanges, ranges categoryNd, ranges categoryMn, ranges categoryMc,
    ranges categoryMe, ranges categoryPc, ranges [(0x200C, 0x200D)]]

/-- The ASCII digits. -/
def asciiDigit : CharSet := ranges [(0x30, 0x39)]

/-- The ASCII blanks. -/
def asciiSpace : CharSet := ranges [(0x9, 0xD), (0x20, 0x20)]

/-- The ASCII letters and digits and the underscore. -/
def asciiWord : CharSet := ranges [(0x30, 0x39), (0x41, 0x5A), (0x5F, 0x5F), (0x61, 0x7A)]

end CharSet

end TablePipeline
