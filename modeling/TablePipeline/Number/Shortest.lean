import TablePipeline.Number.Integer
import TablePipeline.Number.Powers

/-!
# The fewest digits that read back

A finite double stands for every real number that rounds to it.  Among the decimals in that
interval the printed one has the fewest digits and, of those, lies nearest to the double.  The
search is exact: for one digit, two digits, and so on, it looks at the two neighbours of the value
on the decimal grid of that many digits.

## Main definitions

* `Binary` — a positive value `mantissa * 2 ^ exponent`
* `Digits` — a decimal `coefficient * 10 ^ exponent`
* `Binary.shortest` — the fewest digits that read back
-/

namespace TablePipeline

/-- Which of two equally near decimals is printed. -/
inductive TieRule
  | up
  | even
  deriving DecidableEq

/-- The value `mantissa * 2 ^ exponent`. -/
structure Binary where
  mantissa : Nat
  exponent : Int

/-- The decimal `coefficient * 10 ^ exponent`. -/
structure Digits where
  coefficient : Nat
  exponent : Int
  deriving DecidableEq

/-- The magnitude of a finite double. -/
def Binary.ofFloat (x : Float) : Binary :=
  let bits := x.toBits.toNat
  let field : Nat := bits / twoTo 52 % twoTo 11
  let fraction : Nat := bits % twoTo 52
  if field = 0 then ⟨fraction, -1074⟩ else ⟨fraction + twoTo 52, (field : Int) - 1075⟩

/-- The number of decimal digits of a natural number. -/
def digitCount (n : Nat) : Nat :=
  (naturalText n).length

namespace Binary

/-- The value as a fraction of natural numbers. -/
def fraction (v : Binary) : Nat × Nat :=
  (v.mantissa * twoTo v.exponent.toNat, twoTo (-v.exponent).toNat)

/-- The decimal exponent of the first digit.  From one upwards it is counted in the whole part; below
one it is the least power of ten that brings the value up to one. -/
def leadingExponent (v : Binary) : Int :=
  let (num, den) := v.fraction
  if den ≤ num then (digitCount (num / den) : Int) - 1
  else -(digitCount ((den + num - 1) / num - 1) : Int)

/-- The two ends of the interval of reals that round to a double of 53 bits, four times the value
being `4 * mantissa` at the exponent; below a power of two the doubles lie twice as close. -/
def ends (v : Binary) : Nat × Nat :=
  let lower := if v.mantissa = twoTo 52 ∧ -1074 < v.exponent then 1 else 2
  (4 * v.mantissa - lower, 4 * v.mantissa + 2)

/-- The decimal nearest to the value among its two neighbours with step `10 ^ step`, of those that
round to the value. -/
def onGrid? (v : Binary) (tie : TieRule) (step : Int) : Option Digits :=
  let scale := twoTo v.exponent.toNat * tenTo (-step).toNat
  let unit := 4 * twoTo (-v.exponent).toNat * tenTo step.toNat
  let value := 4 * v.mantissa * scale
  let low := v.ends.1 * scale
  let high := v.ends.2 * scale
  let below := value / unit
  let above := below + 1
  let inside (d : Nat) : Bool :=
    if v.mantissa % 2 = 0 then low ≤ d * unit && d * unit ≤ high
    else low < d * unit && d * unit < high
  let overshoot := 2 * (value - below * unit)
  let preferAbove :=
    unit < overshoot || (unit == overshoot && (tie == .up || below % 2 == 1))
  match inside below, inside above with
  | true, true => some ⟨if preferAbove then above else below, step⟩
  | true, false => some ⟨below, step⟩
  | false, true => some ⟨above, step⟩
  | false, false => none

/-- The first grid that has a decimal for the value, beginning with the grid of step
`10 ^ step` and trying `tries` grids. -/
def firstGrid (v : Binary) (tie : TieRule) : Nat → Int → Option Digits
  | 0, _ => none
  | tries + 1, step => (v.onGrid? tie step).or (v.firstGrid tie tries (step - 1))

end Binary

/-- The decimal without trailing zeros in its coefficient, dropping at most `limit` of them. -/
def Digits.strip : Nat → Digits → Digits
  | 0, d => d
  | limit + 1, d =>
    if d.coefficient ≠ 0 ∧ d.coefficient % 10 = 0 then
      Digits.strip limit ⟨d.coefficient / 10, d.exponent + 1⟩
    else d

/-- The decimal with the fewest digits that reads back as the value, which has to be positive.
Seventeen digits are always enough. -/
def Binary.shortest (v : Binary) (tie : TieRule) : Digits :=
  ((v.firstGrid tie 17 v.leadingExponent).getD ⟨0, 0⟩).strip 17

end TablePipeline
