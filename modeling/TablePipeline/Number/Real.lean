import TablePipeline.Number.Integer

/-!
# Reading doubles

A number is an optional sign, then digits with an optional point (at least one digit on one of its
sides) and an optional exponent, or one of the words `inf`, `infinity` and `nan` in any letter
case.  It is read as the double nearest to its value, a tie going to the even neighbour.

## Main definitions

* `Numeral` — the parts of a written number
* `Numeral.read?` — the parts of a text
* `floatOfDecimal` — the double nearest to a decimal
* `readFloat?` — the double that a text stands for
-/

namespace TablePipeline

/-- The double nearest to `coefficient * 10 ^ exponent`.  Values beyond 10 ^ 400 are infinite and
those below 10 ^ (-400) are zero; they are told apart by their digits before any power is taken. -/
def floatOfDecimal (coefficient : Nat) (exponent : Int) : Float :=
  let leading := (naturalText coefficient).length + exponent
  if coefficient = 0 then 0
  else if 400 < leading then 1 / 0
  else if leading < -400 then 0
  else Float.ofScientific coefficient (exponent < 0) exponent.natAbs

/-- The infinite double with the given sign is reached by negation. -/
def negateIf (negative : Bool) (x : Float) : Float :=
  if negative then -x else x

/-- A number as written: the digits on both sides of the point and the exponent. -/
structure Numeral where
  whole : List Char
  fraction : List Char
  exponent : Int

namespace Numeral

/-- The value of a non-empty run of digits with an optional sign. -/
def readExponent? (cs : List Char) : Option Int :=
  let (negative, digits) := splitSign cs
  (readNatural? digits).map fun n => if negative then -(n : Int) else n

/-- The exponent that follows the digits: none at all, or `e` and an integer. -/
def readTail? : List Char → Option Int
  | [] => some 0
  | c :: rest => if c = 'e' ∨ c = 'E' then readExponent? rest else none

/-- Reads an unsigned number. -/
def read? (cs : List Char) : Option Numeral :=
  let whole := cs.takeWhile Char.isDigit
  let rest := cs.dropWhile Char.isDigit
  let (fraction, rest) :=
    match rest with
    | '.' :: more => (more.takeWhile Char.isDigit, more.dropWhile Char.isDigit)
    | _ => ([], rest)
  if whole.isEmpty && fraction.isEmpty then none
  else (readTail? rest).map fun e => ⟨whole, fraction, e⟩

/-- The double nearest to the number. -/
def toFloat (n : Numeral) : Float :=
  floatOfDecimal (Nat.ofDigitChars 10 (n.whole ++ n.fraction) 0)
    (n.exponent - n.fraction.length)

end Numeral

/-- The magnitude of an unsigned number or of one of the words for the special doubles. -/
def readMagnitude? (cs : List Char) : Option Float :=
  match Numeral.read? cs with
  | some n => some n.toFloat
  | none =>
    let word := String.ofList (cs.map Char.toLower)
    if word = "inf" ∨ word = "infinity" then some (1 / 0)
    else if word = "nan" then some (0 / 0)
    else none

/-- The double that a text stands for, if it is a number. -/
def readFloat? (cs : List Char) : Option Float :=
  let (negative, rest) := splitSign cs
  (readMagnitude? rest).map (negateIf negative)

end TablePipeline
