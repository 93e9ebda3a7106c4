import Mathlib.Algebra.Order.Ring.Nat
import Mathlib.Data.List.Basic
import TablePipeline.Calendar.Layout
import TablePipeline.Proofs.Number.Digits

/-!
# Reading the numbers of a date

A numbered part of a date takes digits up to its width and stops at the first character that is no
digit.  So a number that is padded to the width of the part is read whatever stands behind it, a
shorter one is read in front of anything but a digit, and of a longer one the part leaves digits
behind.

The last two are how a layout comes to refuse a text that is spelled in another one.  A layout has a
character of its own behind each number but the last.  If a number fits its part, this character has
to be the one that stands in the text (`Layout.readFields?_other_separator`); if a number is too
wide, a digit stands there, which is neither a separator nor the end of the text
(`Layout.readFields?_wide`).

## Main definitions

* `EndsNumber` — texts in front of which a number ends
* `DatePart.width` — the number of digits that a part takes

## Main statements

* `readPart?_padded`, `readPart?_wide` — a part in front of a number
* `Layout.readFields?_number`, `Layout.readFields?_other_separator`, `Layout.readFields?_wide` — a
  layout in front of a number
-/

namespace TablePipeline

/-! ### Padded numbers -/

theorem isBlank_of_isDigit {c : Char} (h : c.isDigit = true) : isBlank c = false := by
  have hcode : 48 ≤ c.toNat ∧ c.toNat ≤ 57 := Char.isDigit_iff_toNat.1 h
  exact isBlank_eq_false (by omega) (by omega)

section Padded

variable {w n : Nat} {c : Char}

theorem isDigit_of_mem_padded (h : c ∈ Date.padded w n) : c.isDigit = true := by
  rw [Date.padded, List.mem_append] at h
  rcases h with hzero | hdigit
  · rw [List.eq_of_mem_replicate hzero]
    rfl
  · exact isDigit_of_mem_naturalText hdigit

theorem padded_ne_nil (w n : Nat) : Date.padded w n ≠ [] := by
  simp [Date.padded, naturalText_ne_nil]

/-- A number that is small enough has as many digits as it is padded to. -/
theorem length_padded (hw : 0 < w) (hn : n < 10 ^ w) : (Date.padded w n).length = w := by
  have hlength : (naturalText n).length ≤ w :=
    (Nat.length_toDigits_le_iff (by decide) hw).2 hn
  simp only [Date.padded, List.length_append, List.length_replicate]
  omega

/-- The zeros in front do not change the number. -/
theorem ofDigitChars_padded (w n : Nat) : Nat.ofDigitChars 10 (Date.padded w n) 0 = n := by
  rw [Date.padded, Nat.ofDigitChars_append, Nat.ofDigitChars_replicate_zero, Nat.mul_zero]
  exact Nat.ofDigitChars_ten_toDigits

end Padded

/-! ### Runs of digits -/

/-- The text does not begin with a digit, so that a number in front of it ends there. -/
def EndsNumber (cs : List Char) : Prop :=
  ∀ c ∈ cs.head?, c.isDigit = false

section Numbers

variable {least most w n : Nat} {ds cs : List Char} {part : DatePart}

/-- The digits that are taken are those up to the greatest number or up to another character. -/
theorem takeWhile_take_append (hds : ∀ c ∈ ds, c.isDigit = true) (hmost : ds.length ≤ most)
    (hstop : ds.length = most ∨ EndsNumber cs) :
    ((ds ++ cs).take most).takeWhile Char.isDigit = ds := by
  have hrest : (cs.take (most - ds.length)).takeWhile Char.isDigit = [] := by
    rcases hstop with hfull | hend
    · simp [hfull]
    · cases cs with
      | nil => simp
      | cons c cs =>
        have hc : c.isDigit = false := hend c rfl
        cases most - ds.length <;> simp [hc]
  rw [List.take_append, List.take_of_length_le hmost, List.takeWhile_append_of_pos hds, hrest,
    List.append_nil]

/-- Digits are read up to the greatest number of them, or up to what ends a number. -/
theorem readDigits?_append (hds : ∀ c ∈ ds, c.isDigit = true) (hleast : least ≤ ds.length)
    (hmost : ds.length ≤ most) (hstop : ds.length = most ∨ EndsNumber cs) :
    readDigits? least most (ds ++ cs) = some (Nat.ofDigitChars 10 ds 0, cs) := by
  rw [readDigits?, takeWhile_take_append hds hmost hstop, if_neg (by omega), List.drop_left]

/-- Fewer digits than the least are no number. -/
theorem readDigits?_append_of_short (hds : ∀ c ∈ ds, c.isDigit = true) (hshort : ds.length < least)
    (hmost : ds.length ≤ most) (hend : EndsNumber cs) :
    readDigits? least most (ds ++ cs) = none := by
  rw [readDigits?, takeWhile_take_append hds hmost (Or.inr hend)]
  exact if_pos hshort

/-- A padded number is read back. -/
theorem readDigits?_padded (hw : 0 < w) (hn : n < 10 ^ w) (hleast : least ≤ w) (hmost : w ≤ most)
    (hstop : w = most ∨ EndsNumber cs) :
    readDigits? least most (Date.padded w n ++ cs) = some (n, cs) := by
  have hlength := length_padded hw hn
  rw [readDigits?_append (fun _ => isDigit_of_mem_padded) (by omega) (by omega)
    (by rwa [hlength]), ofDigitChars_padded]

theorem not_endsNumber_append (hds : ∀ c ∈ ds, c.isDigit = true) (hne : ds ≠ []) :
    ¬ EndsNumber (ds ++ cs) := by
  obtain ⟨c, rest, rfl⟩ := List.exists_cons_of_ne_nil hne
  intro hend
  have hc := hds c List.mem_cons_self
  rw [hend c rfl] at hc
  cases hc

/-! ### Parts of dates -/

/-- The greatest number of digits that a part without a sign takes. -/
def DatePart.width : DatePart → Nat
  | .year => 4
  | _ => 2

theorem DatePart.width_pos (part : DatePart) : 0 < part.width := by
  cases part <;> decide

theorem dropBlanks_digits (hds : ∀ c ∈ ds, c.isDigit = true) (hne : ds ≠ []) :
    dropBlanks (ds ++ cs) = ds ++ cs := by
  obtain ⟨c, rest, rfl⟩ := List.exists_cons_of_ne_nil hne
  have hc : isBlank c = false := isBlank_of_isDigit (hds c List.mem_cons_self)
  exact List.dropWhile_cons_of_neg (by simp [hc])

/-- A year that begins with a digit has no sign. -/
theorem readYear?_digits (hds : ∀ c ∈ ds, c.isDigit = true) (hne : ds ≠ []) :
    readYear? (ds ++ cs) = (readDigits? 1 4 (ds ++ cs)).map fun (n, rest) => ((n : Int), rest) := by
  cases ds with
  | nil => exact absurd rfl hne
  | cons c ds =>
    have hc : c.isDigit = true := hds c (by simp)
    rw [List.cons_append, readYear?.eq_3]
    · rintro rest hrest
      cases hrest
      exact absurd hc (by decide)
    · rintro rest hrest
      cases hrest
      exact absurd hc (by decide)

/-- In front of a digit there is neither white space nor a sign to be read. -/
theorem readPart?_digits (hds : ∀ c ∈ ds, c.isDigit = true) (hne : ds ≠ []) :
    readPart? part (ds ++ cs) =
      (readDigits? 1 part.width (ds ++ cs)).map fun (n, rest) => ((n : Int), rest) := by
  cases part with
  | year => rw [readPart?, dropBlanks_digits hds hne, readYear?_digits hds hne, DatePart.width]
  | month | day | hour | minute | second =>
    simp only [readPart?, dropBlanks_digits hds hne, DatePart.width]

/-- A padded number is read if it is as wide as the part, or narrower and in front of a text that
ends it. -/
theorem readPart?_padded (hw : 0 < w) (hwidth : w ≤ part.width) (hn : n < 10 ^ w)
    (hstop : w = part.width ∨ EndsNumber cs) :
    readPart? part (Date.padded w n ++ cs) = some ((n : Int), cs) := by
  rw [readPart?_digits (fun _ => isDigit_of_mem_padded) (padded_ne_nil w n),
    readDigits?_padded hw hn hw hwidth hstop, Option.map_some]

/-- Of too many digits a part takes as many as it is wide. -/
theorem readPart?_digits_wide (hds : ∀ c ∈ ds, c.isDigit = true) (hwidth : part.width < ds.length) :
    readPart? part (ds ++ cs) =
      some (((Nat.ofDigitChars 10 (ds.take part.width) 0 : Nat) : Int),
        ds.drop part.width ++ cs) := by
  have hpos : 0 < part.width := part.width_pos
  have hlength : (ds.take part.width).length = part.width := List.length_take_of_le (by omega)
  have hdigits : ∀ c ∈ ds.take part.width, c.isDigit = true := fun c hc =>
    hds c (List.mem_of_mem_take hc)
  have hcut : ds ++ cs = ds.take part.width ++ (ds.drop part.width ++ cs) := by
    rw [← List.append_assoc, List.take_append_drop]
  rw [hcut, readPart?_digits hdigits (List.length_pos_iff.1 (by omega)),
    readDigits?_append hdigits (by omega) (Nat.le_of_eq hlength) (Or.inl hlength), Option.map_some]

/-- A number that is wider than the part is not read to its end. -/
theorem readPart?_wide (hwidth : part.width < w) (hn : n < 10 ^ w) (cs : List Char) :
    ∃ z rest, readPart? part (Date.padded w n ++ cs) = some (z, rest) ∧ ¬ EndsNumber rest := by
  have hlength : (Date.padded w n).length = w := length_padded (by omega) hn
  refine ⟨_, _, readPart?_digits_wide (fun _ => isDigit_of_mem_padded) (by omega),
    not_endsNumber_append (fun c hc => isDigit_of_mem_padded (List.mem_of_mem_drop hc)) ?_⟩
  rw [← List.length_pos_iff, List.length_drop]
  omega

/-- Without a digit there is no part of a date but a year, which may begin with a sign. -/
theorem readPart?_eq_none (hpart : part ≠ .year) (h : EndsNumber (dropBlanks cs)) :
    readPart? part cs = none := by
  have hread : readDigits? 1 2 ([] ++ dropBlanks cs) = none :=
    readDigits?_append_of_short (by simp) (by decide) (by decide) h
  rw [List.nil_append] at hread
  rw [readPart?.eq_2 part cs (fun hyear => absurd hyear hpart), hread, Option.map_none]

end Numbers

/-! ### Items of layouts -/

namespace Layout

variable {items : Layout} {f : DateFields} {part : DatePart} {c : Char} {w n : Nat} {cs : List Char}

theorem readFields?_number_of_readPart? {z : Int} {rest : List Char}
    (h : readPart? part cs = some (z, rest)) :
    readFields? (.number part :: items) f cs = readFields? items (f.set part z) rest := by
  rw [readFields?, h]
  rfl

theorem readFields?_number (hw : w = part.width) (hn : n < 10 ^ w) :
    readFields? (.number part :: items) f (Date.padded w n ++ cs) =
      readFields? items (f.set part n) cs :=
  readFields?_number_of_readPart?
    (readPart?_padded (hw ▸ part.width_pos) (Nat.le_of_eq hw) hn (Or.inl hw))

theorem readFields?_exactly :
    readFields? (.exactly c :: items) f (c :: cs) = readFields? items f cs := by
  simp [readFields?]

theorem readFields?_exactly_of_head? (h : cs.head? ≠ some c) :
    readFields? (.exactly c :: items) f cs = none := by
  cases cs with
  | nil => rw [readFields?]
  | cons d cs =>
    have hd : d ≠ c := fun hdc => h (congrArg some hdc)
    rw [readFields?, if_neg hd]

/-- A layout refuses a number with another separator behind it. -/
theorem readFields?_other_separator (hw : 0 < w) (hwidth : w ≤ part.width) (hn : n < 10 ^ w)
    (hend : EndsNumber cs) (h : cs.head? ≠ some c) :
    readFields? (.number part :: .exactly c :: items) f (Date.padded w n ++ cs) = none := by
  rw [readFields?_number_of_readPart? (readPart?_padded hw hwidth hn (Or.inr hend)),
    readFields?_exactly_of_head? h]

/-- A layout refuses a number that is too wide, unless its other items take what is left of it. -/
theorem readFields?_wide (hwidth : part.width < w) (hn : n < 10 ^ w)
    (hitems : ∀ f rest, ¬ EndsNumber rest → readFields? items f rest = none) :
    readFields? (.number part :: items) f (Date.padded w n ++ cs) = none := by
  obtain ⟨z, rest, hread, hrest⟩ := readPart?_wide hwidth hn cs
  rw [readFields?_number_of_readPart? hread, hitems _ rest hrest]

end Layout

end TablePipeline
