import TablePipeline.Number.Shortest

/-!
# Written doubles

A double is written with the fewest digits that read back.  What is left open by that rule is
decided by a `FloatStyle`: where positional notation ends, whether a whole number keeps a fraction,
whether a positive exponent has a sign, and which of two equally near decimals is taken.

## Main definitions

* `FloatStyle` — the decisions of one written form
* `FloatStyle.write` — the text of a finite double
-/

namespace TablePipeline

/-- The decisions that one written form of doubles makes. -/
structure FloatStyle where
  /-- The least exponent of the first digit that is written positionally. -/
  least : Int
  /-- The greatest exponent of the first digit that is written positionally. -/
  greatest : Int
  /-- Whether a whole number is written with the fraction `.0`. -/
  wholeFraction : Bool
  /-- Whether a positive exponent is written with a sign. -/
  exponentSign : Bool
  /-- Which of two equally near decimals is written. -/
  tie : TieRule

namespace Digits

/-- The exponent of the first digit. -/
def leading (d : Digits) : Int :=
  d.exponent + (digitCount d.coefficient : Int) - 1

/-- The decimal without an exponent, as whole part and fraction. -/
def positional (d : Digits) : List Char × List Char :=
  let digits := naturalText d.coefficient
  if 0 ≤ d.exponent then
    (digits ++ List.replicate d.exponent.toNat '0', [])
  else
    let places := (-d.exponent).toNat
    if places < digits.length then
      (digits.take (digits.length - places), digits.drop (digits.length - places))
    else
      (['0'], List.replicate (places - digits.length) '0' ++ digits)

end Digits

namespace FloatStyle

/-- A whole part and a fraction with the point between them. -/
def joinPoint (style : FloatStyle) (whole fraction : List Char) : List Char :=
  match fraction with
  | [] => if style.wholeFraction then whole ++ ['.', '0'] else whole
  | _ => whole ++ '.' :: fraction

/-- A decimal with one digit before the point and an exponent. -/
def scientific (style : FloatStyle) (d : Digits) : List Char :=
  let mantissa :=
    match naturalText d.coefficient with
    | [] => []
    | [c] => [c]
    | c :: rest => c :: '.' :: rest
  let sign : List Char := if style.exponentSign && 0 ≤ d.leading then ['+'] else []
  mantissa ++ 'e' :: sign ++ integerText d.leading

/-- The text of a finite double. -/
def write (style : FloatStyle) (x : Float) : List Char :=
  let sign : List Char := if x.toBits.toNat < twoTo 63 then [] else ['-']
  let v := Binary.ofFloat x
  if v.mantissa = 0 then sign ++ style.joinPoint ['0'] []
  else
    let d := v.shortest style.tie
    if style.least ≤ d.leading ∧ d.leading ≤ style.greatest then
      sign ++ style.joinPoint d.positional.1 d.positional.2
    else sign ++ style.scientific d

end FloatStyle

end TablePipeline
