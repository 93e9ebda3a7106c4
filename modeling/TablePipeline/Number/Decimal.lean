import TablePipeline.Number.Powers

/-!
# Decimals of 96 bits

A decimal is a signed coefficient below 2 ^ 96 over a power of ten of at most 28.  Doubles whose
decimal expansion is short are added, multiplied and divided in this form, so that `0.1 + 0.2` is
`0.3`; every operation says when its result does not fit.

## Main definitions

* `Decimal` — sign, coefficient and scale
* `Decimal.ofFloat?`, `Decimal.toFloat` — conversion from and to doubles
* `Decimal.faithful?` — the decimal of a double that converts back to the same double
* `Decimal.add?`, `Decimal.sub?`, `Decimal.mul?`, `Decimal.div?` — arithmetic
-/

namespace TablePipeline

/-- The value `± coefficient / 10 ^ scale`. -/
structure Decimal where
  negative : Bool
  coefficient : Nat
  scale : Nat
  deriving DecidableEq

namespace Decimal

/-- Coefficients lie below this bound. -/
def bound : Nat := twoTo 96

/-- The greatest scale. -/
def maxScale : Nat := 28

/-- The decimal zero. -/
def zero : Decimal := ⟨false, 0, 0⟩

/-- The decimal of an integer. -/
def ofInt (z : Int) : Decimal := ⟨z < 0, z.natAbs, 0⟩

/-! ## From doubles

The coefficient starts as the binary significand of the double and the decimal exponent as its
binary exponent.  The factor `2 ^ e` is `10 ^ e / 5 ^ e`, so the powers of five are multiplied in
(or divided out) one by one, and where the coefficient has no room left it loses its last bit (or
its last fifth) instead. -/

/-- Multiplies `steps` fives into the coefficient. -/
def raiseFives : Nat → Nat → Int → Nat × Int
  | 0, m, e => (m, e)
  | steps + 1, m, e =>
    if m % 2 = 0 then raiseFives steps (m / 2) (e + 1)
    else if m * 5 < bound then raiseFives steps (m * 5) e
    else raiseFives steps (m / 2) (e + 1)

/-- Divides `steps` fives out of the coefficient, or fails when the value is too large. -/
def dropFives : Nat → Nat → Int → Option (Nat × Int)
  | 0, m, e => some (m, e)
  | steps + 1, m, e =>
    if m < twoTo 95 then dropFives steps (m * 2) (e - 1)
    else if e * 2 > (steps + 1 : Nat) then none
    else dropFives steps (m / 5) e

/-- Multiplies `steps` tens into the coefficient, or fails when it has no room for them. -/
def raiseTens : Nat → Nat → Option Nat
  | 0, m => some m
  | steps + 1, m => if m * 10 ≥ bound then none else raiseTens steps (m * 10)

/-- Drops `steps` digits, rounding a half up; a coefficient of zero ends at scale zero. -/
def dropToScale : Nat → Nat → Nat → Nat × Nat
  | 0, m, s => (m, s)
  | steps + 1, m, s =>
    if m / 10 = 0 then (0, 0)
    else dropToScale steps (if m % 10 ≥ 5 then m / 10 + 1 else m / 10) (s - 1)

/-- Drops digits that a double does not carry, rounding a half up. -/
def dropExcess : Nat → Nat → Nat × Nat
  | 0, m => (m, 0)
  | s + 1, m =>
    if m ≥ twoTo 52 then dropExcess s (if m % 10 ≥ 5 then m / 10 + 1 else m / 10) else (m, s + 1)

/-- Drops trailing zeros of the fraction. -/
def dropZeros : Nat → Nat → Nat × Nat
  | 0, m => (m, 0)
  | s + 1, m => if m % 10 = 0 then dropZeros s (m / 10) else (m, s + 1)

/-- A coefficient with a decimal exponent as a decimal with at most 28 places and no digits beyond
those of a double. -/
def ofScaled? (negative : Bool) (m : Nat) (e : Int) : Option Decimal :=
  if 0 < e then (raiseTens e.toNat m).map fun m => ⟨negative, m, 0⟩
  else
    let places := (-e).toNat
    let (m, places) := dropToScale (places - maxScale) m places
    let (m, places) := dropExcess places m
    let (m, places) := dropZeros places m
    some ⟨negative, m, places⟩

/-- The decimal nearest to a double, with at most the digits a double carries. -/
def ofFloat? (x : Float) : Option Decimal :=
  let bits := x.toBits.toNat
  let negative : Bool := twoTo 63 ≤ bits
  let field : Nat := bits / twoTo 52 % twoTo 11
  let fraction : Nat := bits % twoTo 52
  if field = 2047 then none
  else if field = 0 ∧ fraction = 0 then some zero
  else
    let e : Int := if field = 0 then -1074 else (field : Int) - 1075
    let m : Nat := if field = 0 then fraction else fraction + twoTo 52
    if e < 0 then
      let (m, e) := raiseFives (-e).toNat m e
      ofScaled? negative m e
    else
      (dropFives e.toNat m e).bind fun (m, e) => ofScaled? negative m e

/-! ## To doubles -/

/-- The double of a natural number. -/
def floatOfNat (n : Nat) : Float :=
  Float.ofNat n

/-- A power of a double by repeated squaring; `steps` bounds the bits of the exponent. -/
def powerFrom : Nat → Float → Float → Nat → Float
  | 0, result, _, _ => result
  | steps + 1, result, base, n =>
    let result := if n % 2 = 1 then result * base else result
    if n / 2 = 0 then result else powerFrom steps result (base * base) (n / 2)

/-- The double `base ^ n` for `n` below 2 ^ 32. -/
def power (base : Float) (n : Nat) : Float :=
  powerFrom 32 1 base n

/-- The whole number nearest to a non-negative double, a half going up. -/
def roundHalfUp (x : Float) : Float :=
  if x < 4503599627370496.0 then
    let floor := floatOfNat x.toUInt64.toNat
    if x - floor ≥ 0.5 then floor + 1 else floor
  else x

/-- The double of a decimal: whole part and fraction are converted apart, and the sum is rounded
to the decimal's own number of places. -/
def toFloat (d : Decimal) : Float :=
  let magnitude :=
    if d.scale = 0 then floatOfNat d.coefficient
    else
      let p := tenTo d.scale
      let whole := floatOfNat (d.coefficient / p)
      let fraction := floatOfNat (d.coefficient % p) / floatOfNat p
      if fraction == 0.0 then whole
      else
        let t := power 10.0 d.scale
        roundHalfUp ((whole + fraction) * t) / t
  if d.negative && d.coefficient != 0 then -magnitude else magnitude

/-- The decimal of a double, when it converts back to the same double. -/
def faithful? (x : Float) : Option Decimal :=
  (ofFloat? x).filter fun d => d.toFloat == x

/-! ## Arithmetic -/

/-- The quotient of `m` by `10 ^ k`, to the nearest, a half going to the even neighbour. -/
def divideTen (m k : Nat) : Nat :=
  let h := tenTo k
  let q := m / h
  let r := m % h
  if 2 * r > h ∨ (2 * r = h ∧ q % 2 = 1) then q + 1 else q

/-- Drops `k` digits, or more until the coefficient fits, trying `tries` counts. -/
def fitFrom (negative : Bool) (m s : Nat) : Nat → Nat → Option Decimal
  | 0, _ => none
  | tries + 1, k =>
    if s < k then none
    else
      let q := divideTen m k
      if m / tenTo k < bound ∧ q < bound then some ⟨negative && q != 0, q, s - k⟩
      else fitFrom negative m s tries (k + 1)

/-- The decimal nearest to `± m / 10 ^ s`, a half going to the even neighbour, if there is one. -/
def fit? (negative : Bool) (m s : Nat) : Option Decimal :=
  fitFrom negative m s (s + 1) (s - maxScale)

/-- The signed coefficient of a decimal at a greater scale. -/
def signedAt (d : Decimal) (s : Nat) : Int :=
  let m : Int := (d.coefficient * tenTo (s - d.scale) : Nat)
  if d.negative then -m else m

/-- The sum, if it fits. -/
def add? (a b : Decimal) : Option Decimal :=
  if a.coefficient = 0 then some b
  else if b.coefficient = 0 then some a
  else
    let s := max a.scale b.scale
    let sum := a.signedAt s + b.signedAt s
    fit? (sum < 0) sum.natAbs s

/-- The difference, if it fits. -/
def sub? (a b : Decimal) : Option Decimal :=
  a.add? { b with negative := !b.negative }

/-- The product, if it fits. -/
def mul? (a b : Decimal) : Option Decimal :=
  if a.coefficient = 0 ∨ b.coefficient = 0 then some zero
  else fit? (a.negative != b.negative) (a.coefficient * b.coefficient) (a.scale + b.scale)

/-- A quotient under long division: what is found so far, what remains, and the scale, which is
negative as long as the dividend has fewer places than the divisor. -/
structure Quotient where
  found : Nat
  remainder : Nat
  scale : Int
  inexact : Bool

/-- The greatest number of digits, at most `k`, that the quotient has room for. -/
def digitRoom (q : Nat) : Nat → Nat
  | 0 => 0
  | k + 1 => if q * tenTo (k + 1) ≥ bound then digitRoom q k else k + 1

/-- One step of long division: either the quotient is final, or it goes on with up to nine more
digits; it fails when the quotient does not fit. -/
def Quotient.step (divisor : Nat) (a : Quotient) : Option (Quotient ⊕ Quotient) :=
  let exact := a.remainder == 0
  let room : Nat :=
    if a.scale < 28 then digitRoom a.found (min 9 (28 - a.scale).toNat) else 0
  let k : Nat := if exact then min 9 (-a.scale).toNat else room
  if !exact && a.scale < 28 && k < 9 && a.scale + k < 0 then none
  else if k = 0 then
    let up := 2 * a.remainder > divisor || (2 * a.remainder == divisor && a.found % 2 == 1)
    let q := if up then a.found + 1 else a.found
    if q < bound then some (.inl { a with found := q, inexact := true })
    else if a.scale = 0 then none
    else
      let q := bound / 10 + (if bound % 10 > 5 then 1 else 0)
      some (.inl { a with found := q, scale := a.scale - 1, inexact := true })
  else
    let q := a.found * tenTo k
    if q ≥ bound then none
    else
      let scale := a.scale + k
      let r := a.remainder * tenTo k
      let q := q + r / divisor
      let r := r % divisor
      let inexact := a.inexact || !exact
      if q < bound then some (.inr ⟨q, r, scale, inexact⟩)
      else if scale = 0 then none
      else
        let t := q % 10
        let q := q / 10
        let up := t > 5 || (t == 5 && (r != 0 || q % 2 == 1))
        some (.inl ⟨if up then q + 1 else q, r, scale - 1, inexact⟩)

/-- Long division until nothing remains and the scale is not negative, for at most `steps`
steps; each step adds at least one digit. -/
def Quotient.run (divisor : Nat) : Nat → Quotient → Option Quotient
  | 0, a => some a
  | steps + 1, a =>
    if a.remainder = 0 ∧ 0 ≤ a.scale then some a
    else
      match a.step divisor with
      | none => none
      | some (.inl final) => some final
      | some (.inr next) => next.run divisor steps

/-- Drops `n` trailing zeros at once where the coefficient has them and the scale allows it. -/
def dropBlock (n : Nat) (d : Decimal) : Decimal :=
  if d.coefficient % tenTo n = 0 ∧ n ≤ d.scale then
    { d with coefficient := d.coefficient / tenTo n, scale := d.scale - n }
  else d

/-- Drops the trailing zeros of an inexact quotient, in blocks of eight, four, two and one. -/
def dropQuotientZeros (d : Decimal) : Decimal :=
  let eights (d : Decimal) : Decimal := if d.coefficient % twoTo 32 = 0 then dropBlock 8 d else d
  dropBlock 1 (dropBlock 2 (dropBlock 4 (eights (eights (eights d)))))

/-- The quotient, if the divisor is not zero and the quotient fits. -/
def div? (a b : Decimal) : Option Decimal :=
  if b.coefficient = 0 then none
  else if a.coefficient = 0 then some zero
  else
    let start : Quotient :=
      ⟨a.coefficient / b.coefficient, a.coefficient % b.coefficient,
        (a.scale : Int) - b.scale, false⟩
    (start.run b.coefficient 64).map fun q =>
      let d : Decimal := ⟨(a.negative != b.negative) && q.found != 0, q.found, q.scale.toNat⟩
      if q.inexact then
        let e := dropQuotientZeros d
        { e with negative := e.negative && e.coefficient != 0 }
      else d

end Decimal

end TablePipeline
