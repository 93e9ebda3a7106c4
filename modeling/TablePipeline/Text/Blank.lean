import TablePipeline.Text.CodeRanges

/-!
# White space

White space is the Unicode property White_Space: the ASCII blanks, the next-line and no-break
spaces, the typographic spaces and the line and paragraph separators.  The byte order mark is not
among them.

## Main definitions

* `isBlank` — whether a character is white space
* `trimBlanks` — a text without the white space at its two ends
-/

namespace TablePipeline

/-- Code points with the property White_Space. -/
def blankRanges : CodeRanges := [
  (0x9, 0xD), (0x20, 0x20), (0x85, 0x85), (0xA0, 0xA0), (0x1680, 0x1680), (0x2000, 0x200A),
  (0x2028, 0x2029), (0x202F, 0x202F), (0x205F, 0x205F), (0x3000, 0x3000)]

/-- Whether the character has the property White_Space. -/
def isBlank (c : Char) : Bool :=
  blankRanges.contains c

/-- The text without the white space at its beginning. -/
def dropBlanks (cs : List Char) : List Char :=
  cs.dropWhile isBlank

/-- The text without the white space at its two ends. -/
def trimBlanks (cs : List Char) : List Char :=
  (dropBlanks (dropBlanks cs).reverse).reverse

section

variable {c : Char} {gap gapEnd cs : List Char}

/-- No visible ASCII character is white space. -/
theorem isBlank_eq_false (hlow : 0x20 < c.toNat) (hhigh : c.toNat < 0x85) : isBlank c = false := by
  have htail : CodeRanges.containsCode (blankRanges.drop 2) c.toNat = false :=
    if_pos hhigh
  have hranges : blankRanges = (0x9, 0xD) :: (0x20, 0x20) :: blankRanges.drop 2 := rfl
  rw [isBlank, CodeRanges.contains, hranges, CodeRanges.containsCode_cons,
    CodeRanges.containsCode_cons, htail, if_neg (by omega), if_neg (by omega)]
  simp only [Bool.or_false, Bool.or_eq_false_iff, decide_eq_false_iff_not]
  omega

theorem dropBlanks_append (hgap : ∀ c ∈ gap, isBlank c = true)
    (hfirst : ∀ c ∈ cs.head?, isBlank c = false) : dropBlanks (gap ++ cs) = cs := by
  rw [dropBlanks, List.dropWhile_append_of_pos hgap]
  cases cs with
  | nil => rfl
  | cons c cs => exact List.dropWhile_cons_of_neg (by simp [hfirst c rfl])

/-- Trimming takes the white space off a text and no more. -/
theorem trimBlanks_append (hgap : ∀ c ∈ gap, isBlank c = true)
    (hgapEnd : ∀ c ∈ gapEnd, isBlank c = true) (hne : cs ≠ [])
    (hfirst : ∀ c ∈ cs.head?, isBlank c = false) (hlast : ∀ c ∈ cs.getLast?, isBlank c = false) :
    trimBlanks (gap ++ (cs ++ gapEnd)) = cs := by
  have hfront : dropBlanks (gap ++ (cs ++ gapEnd)) = cs ++ gapEnd := by
    refine dropBlanks_append hgap ?_
    obtain ⟨c, rest, rfl⟩ := List.exists_cons_of_ne_nil hne
    exact hfirst
  have hback : dropBlanks (gapEnd.reverse ++ cs.reverse) = cs.reverse :=
    dropBlanks_append (fun c hc => hgapEnd c (List.mem_reverse.1 hc)) (by rwa [List.head?_reverse])
  rw [trimBlanks, hfront, List.reverse_append, hback, List.reverse_reverse]

end

end TablePipeline
