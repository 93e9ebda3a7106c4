/-!
# Sets of code points

A property of characters is kept as the ascending list of the closed ranges of code points that
have it.  `CodeRanges.contains` walks that list and stops at the first range that begins beyond
the character.

## Main definitions

* `CodeRanges` — ascending closed ranges of code points
* `CodeRanges.contains` — membership of a character
-/

namespace TablePipeline

/-- Ascending, disjoint, closed ranges of code points. -/
abbrev CodeRanges := List (Nat × Nat)

namespace CodeRanges

/-- Whether the code point lies in one of the ranges. -/
def containsCode : CodeRanges → Nat → Bool
  | [], _ => false
  | (low, high) :: rest, n => if n < low then false else n ≤ high || containsCode rest n

/-- Whether the character lies in one of the ranges. -/
def contains (ranges : CodeRanges) (c : Char) : Bool :=
  ranges.containsCode c.toNat

theorem containsCode_nil (n : Nat) : containsCode [] n = false := rfl

theorem containsCode_cons (low high n : Nat) (rest : CodeRanges) :
    containsCode ((low, high) :: rest) n =
      if n < low then false else n ≤ high || containsCode rest n := rfl

/-- A member lies between the ends of one of the ranges. -/
theorem exists_of_containsCode {ranges : CodeRanges} {n : Nat}
    (h : ranges.containsCode n = true) : ∃ r ∈ ranges, r.1 ≤ n ∧ n ≤ r.2 := by
  induction ranges with
  | nil => simp [containsCode_nil] at h
  | cons r rest ih =>
    obtain ⟨low, high⟩ := r
    rw [containsCode_cons] at h
    split at h
    · simp at h
    · rename_i hlow
      rcases Bool.or_eq_true_iff.1 h with hhigh | hrest
      · exact ⟨(low, high), by simp, by omega, by simpa using hhigh⟩
      · obtain ⟨r, hr, hb⟩ := ih hrest
        exact ⟨r, by simp [hr], hb⟩

end CodeRanges

end TablePipeline
