/-!
# Powers of two and of ten

The powers that scale binary and decimal numbers.

## Main definitions

* `twoTo`, `tenTo` — the powers
-/

namespace TablePipeline

/-- The power of two with the given exponent. -/
def twoTo (n : Nat) : Nat := Nat.pow 2 n

/-- The power of ten with the given exponent. -/
def tenTo (n : Nat) : Nat := Nat.pow 10 n

/-- Powers are positive. -/
theorem twoTo_pos (n : Nat) : 0 < twoTo n := Nat.pow_pos (by decide)

end TablePipeline
