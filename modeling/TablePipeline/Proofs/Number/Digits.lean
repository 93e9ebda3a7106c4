import Mathlib.Data.List.Basic
import TablePipeline.Number.Integer

/-!
# Decimal digits

The text of a natural number consists of digits and is not empty, and it begins with a zero for zero
only.

## Main statements

* `isDigit_of_mem_naturalText`, `naturalText_ne_nil` — what the text consists of
* `head?_naturalText_ne` — how it begins
-/

namespace TablePipeline

theorem isDigit_of_mem_naturalText {n : Nat} {c : Char} (h : c ∈ naturalText n) :
    c.isDigit = true :=
  Nat.isDigit_of_mem_toDigits (by decide) (by decide) h

theorem naturalText_ne_nil (n : Nat) : naturalText n ≠ [] :=
  Nat.toDigits_ne_nil

/-- There are no leading zeros. -/
theorem head?_naturalText_ne {n : Nat} (h : 0 < n) : (naturalText n).head? ≠ some '0' := by
  -- the first digit is that of the number without its last digit
  induction n using Nat.strongRecOn with
  | ind n ih =>
    rw [naturalText, Nat.toDigits_eq_if (by decide)]
    by_cases hn : n < 10
    · have hdigit : ∀ d < 10, 0 < d → d.digitChar ≠ '0' := by decide
      rw [if_pos hn, List.head?_cons, Ne, Option.some_inj]
      exact hdigit n hn h
    · rw [if_neg hn, List.head?_append_of_ne_nil _ Nat.toDigits_ne_nil]
      exact ih (n / 10) (by omega) (by omega)

end TablePipeline
