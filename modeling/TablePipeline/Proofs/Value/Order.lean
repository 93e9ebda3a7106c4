import Mathlib.Tactic.Tauto
import TablePipeline.Proofs.Number.DoubleOrder

/-!
# The order of a sort

A sort compares two numbers by value and any other two values by their texts, with nulls last.  The
two ways of comparing do not fit together: `9` is before `10` as a number, `10` is before the text
`1x`, and the text `1x` is before `9`.  Nor do exact integers fit together with rounded ones, or
NaN with anything.  So the order is not transitive on all values.  It always is *oriented*: the
order of `b` and `a` is the reverse of that of `a` and `b`.

What has to be excluded for transitivity is in `Value.Fitting`.  Where it holds, there are two
cases.  Either one of the three values is no number, and the order is that of texts, but for the
other two if these are numbers; then it matters only whether the text of the first lies between
theirs.  Or all three are numbers, and the order is that of doubles (`double_not_gt`) except for two
integers, which are compared exactly; an integer less than another one has a double that is not
greater.

## Main definitions

* `Value.Fitting` — three values on which the ways of comparing fit together

## Main statements

* `Value.compare_swap`, `Value.compare_trans` — the order of non-null values
* `Value.sortCompare_isPreorder` — the order of a sort
* `Value.sortCompare_not_trans`, `Value.compare_not_trans_of_between` — why `Fitting` is needed
-/

namespace TablePipeline

theorem isNaN_ofInt_toInt (n : Int64) : (Float.ofInt n.toInt).isNaN = false :=
  isNaN_ofInt (Int64.le_toInt n) (Int64.toInt_lt n).le

/-- Integers in order have doubles that are not in the reverse order. -/
theorem compareFloats_ofInt_ne_gt {m n : Int64} (h : m ≤ n) :
    compareFloats (Float.ofInt m.toInt) (Float.ofInt n.toInt) ≠ .gt := by
  have hplace := place_ofInt_mono (Int64.le_iff_toInt_le.1 h) (Int64.le_toInt m)
    (Int64.toInt_lt n).le
  rw [compareFloats_ne_gt_iff, float_lt_iff]
  exact fun hlt => absurd hlt.2.2 (not_lt.2 hplace)

/-- What is not greater, seen from either side, is equal. -/
theorem eq_of_ne_gt {o : Ordering} (h : o ≠ .gt) (hswap : o.swap ≠ .gt) : o = .eq := by
  cases o with
  | lt => exact absurd rfl hswap
  | eq => rfl
  | gt => exact absurd rfl h

theorem compareTexts_swap (s t : String) : compareTexts t s = (compareTexts s t).swap := by
  rw [compareTexts, compareTexts, Std.OrientedOrd.eq_swap]

theorem compareTexts_trans {s t u : String} (hst : compareTexts s t ≠ .gt)
    (htu : compareTexts t u ≠ .gt) : compareTexts s u ≠ .gt := by
  rw [compareTexts, Ne, ← Ordering.isLE_iff_ne_gt] at *
  exact Std.TransOrd.isLE_trans hst htu

theorem compare_ne_gt_iff_le {m n : Int64} : compare m n ≠ .gt ↔ m ≤ n := by
  rw [Ne, ← Ordering.isLE_iff_ne_gt, Std.isLE_compare]

namespace Value

/-! ### Two values -/

section Two

variable {a b : Value} {x y : Float}

/-- A value that is no number is compared by its text. -/
theorem compare_eq_compareTexts (h : a.toFloat? = none ∨ b.toFloat? = none) :
    compare a b = compareTexts a.text b.text := by
  rcases h with h | h <;> cases a <;> cases b <;> first | rfl | cases h

/-- Two numbers are compared by their doubles unless both are integers. -/
theorem compare_eq_compareFloats (ha : a.toFloat? = some x) (hb : b.toFloat? = some y)
    (h : a.isInteger = false ∨ b.isInteger = false) : compare a b = compareFloats x y := by
  cases a <;> cases b <;> cases ha <;> cases hb <;> first | rfl | simp [isInteger] at h

theorem exists_eq_integer (h : a.isInteger = true) : ∃ n, a = integer n := by
  cases a <;> first | exact ⟨_, rfl⟩ | cases h

/-- **The order of `b` and `a` is the reverse of that of `a` and `b`.** -/
theorem compare_swap (a b : Value) : compare b a = (compare a b).swap := by
  by_cases hints : a.isInteger = true ∧ b.isInteger = true
  · obtain ⟨m, rfl⟩ := exists_eq_integer hints.1
    obtain ⟨n, rfl⟩ := exists_eq_integer hints.2
    show Ord.compare n m = (Ord.compare m n).swap
    exact Std.OrientedOrd.eq_swap
  · rw [not_and_or, Bool.not_eq_true, Bool.not_eq_true] at hints
    cases ha : a.toFloat? with
    | none =>
      rw [compare_eq_compareTexts (.inl ha), compare_eq_compareTexts (.inr ha)]
      exact compareTexts_swap a.text b.text
    | some x =>
      cases hb : b.toFloat? with
      | none =>
        rw [compare_eq_compareTexts (.inr hb), compare_eq_compareTexts (.inl hb)]
        exact compareTexts_swap a.text b.text
      | some y =>
        rw [compare_eq_compareFloats ha hb hints, compare_eq_compareFloats hb ha hints.symm]
        exact compareFloats_swap x y

/-- Numbers in order have doubles that are not in the reverse order. -/
theorem double_not_gt (ha : a.toFloat? = some x) (hb : b.toFloat? = some y)
    (h : compare a b ≠ .gt) : compareFloats x y ≠ .gt := by
  by_cases hints : a.isInteger = true ∧ b.isInteger = true
  · obtain ⟨m, rfl⟩ := exists_eq_integer hints.1
    obtain ⟨n, rfl⟩ := exists_eq_integer hints.2
    cases ha
    cases hb
    exact compareFloats_ofInt_ne_gt (compare_ne_gt_iff_le.1 h)
  · rw [not_and_or, Bool.not_eq_true, Bool.not_eq_true] at hints
    rwa [← compare_eq_compareFloats ha hb hints]

end Two

/-! ### Three values -/

/-- Three values on which the ways of comparing fit together.  Where one of them is a text, a boolean
or a table, it does not lie between the texts of two numbers that have these in the reverse order,
for then the three would go round in a circle; a NaN is not between two numbers that differ; and a
double is not between two integers that both round to it. -/
structure Fitting (a b c : Value) : Prop where
  texts : ∀ w ∈ [a, b, c], w.isNull = false → w.isNumeric = false →
    ∀ m ∈ [a, b, c], ∀ n ∈ [a, b, c], m.isNumeric = true → n.isNumeric = true →
      compare m n ≠ .gt → compareTexts n.text w.text ≠ .gt → compareTexts w.text m.text ≠ .gt →
        compare m n = .eq ∧ m.text = n.text
  notNaN : ∀ x, b = float x → a.isNumeric = true → c.isNumeric = true → x.isNaN = true →
    compare a c = .eq
  exact : ∀ m x n, a = integer m → b = float x → c = integer n →
    compare a b = .eq → compare b c = .eq → m = n

section Three

variable {a b c : Value}

theorem Fitting.symm (h : Fitting a b c) : Fitting c b a where
  texts := by
    have hmem : ∀ v, v ∈ [c, b, a] ↔ v ∈ [a, b, c] := by
      intro v
      simp only [List.mem_cons, List.not_mem_nil, or_false]
      tauto
    simpa only [hmem] using h.texts
  notNaN x hb hc ha hx := by
    rw [compare_swap, h.notNaN x hb ha hc hx]
    rfl
  exact m x n hc hb ha hcb hba := by
    rw [compare_swap, Ordering.swap_eq_eq] at hcb hba
    exact (h.exact n x m ha hb hc hba hcb).symm

theorem toFloat?_of_isNumeric (h : a.isNumeric = false) : a.toFloat? = none := by
  rwa [isNumeric_eq_isSome_toFloat?, Option.isSome_eq_false_iff, Option.isNone_iff_eq_none] at h

/-- Two values of which one is no number are compared by their texts. -/
theorem compare_eq_of_not_numbers (h : ¬(a.isNumeric = true ∧ b.isNumeric = true)) :
    compare a b = compareTexts a.text b.text := by
  rw [not_and_or, Bool.not_eq_true, Bool.not_eq_true] at h
  exact compare_eq_compareTexts (h.imp toFloat?_of_isNumeric toFloat?_of_isNumeric)

/-- **With a text, a boolean or a table among them** all are compared by their texts, but for the two
that may be numbers. -/
theorem Fitting.trans_of_word (h : Fitting a b c) {w : Value} (hw : w ∈ [a, b, c])
    (hnull : w.isNull = false) (hword : w.isNumeric = false) (hab : compare a b ≠ .gt)
    (hbc : compare b c ≠ .gt) : compare a c ≠ .gt := by
  have htexts := h.texts w hw hnull hword
  have hother : ∀ {v}, v.isNumeric = true → w ≠ v := by
    rintro v hv rfl
    rw [hv] at hword
    cases hword
  by_cases hnumbers : a.isNumeric = true ∧ b.isNumeric = true
  · obtain rfl : w = c := by simpa [hother hnumbers.1, hother hnumbers.2] using hw
    rw [compare_eq_of_not_numbers (by simp [hword])] at hbc ⊢
    intro hgt
    have hwa : compareTexts w.text a.text ≠ .gt := by
      rw [compareTexts_swap, hgt]
      nofun
    obtain ⟨-, heq⟩ := htexts a (by simp) b (by simp) hnumbers.1 hnumbers.2 hab hbc hwa
    exact hbc (heq ▸ hgt)
  by_cases hnumbers' : b.isNumeric = true ∧ c.isNumeric = true
  · obtain rfl : w = a := by simpa [hother hnumbers'.1, hother hnumbers'.2] using hw
    rw [compare_eq_of_not_numbers (by simp [hword])] at hab ⊢
    intro hgt
    have hcw : compareTexts c.text w.text ≠ .gt := by
      rw [compareTexts_swap, hgt]
      nofun
    obtain ⟨-, heq⟩ := htexts b (by simp) c (by simp) hnumbers'.1 hnumbers'.2 hbc hcw hab
    exact hab (heq ▸ hgt)
  rw [compare_eq_of_not_numbers hnumbers] at hab
  rw [compare_eq_of_not_numbers hnumbers'] at hbc
  by_cases hends : a.isNumeric = true ∧ c.isNumeric = true
  · obtain rfl : w = b := by simpa [hother hends.1, hother hends.2] using hw
    intro hgt
    have hca : compare c a = .lt := by
      rw [compare_swap, hgt]
      rfl
    obtain ⟨heq, -⟩ := htexts c (by simp) a (by simp) hends.2 hends.1 (by simp [hca]) hab hbc
    simp [hca] at heq
  · rw [compare_eq_of_not_numbers hends]
    exact compareTexts_trans hab hbc

/-- Integers are in order when a double between them is. -/
theorem Fitting.le_of_between {m n : Int64} {x : Float}
    (h : Fitting (integer m) (float x) (integer n))
    (hab : compare (integer m) (float x) ≠ .gt) (hbc : compare (float x) (integer n) ≠ .gt) :
    m ≤ n := by
  by_contra hlt
  have hx : x.isNaN = false := by
    by_contra hnan
    have heq : Ord.compare m n = .eq := h.notNaN x rfl rfl rfl (Bool.not_eq_false _ ▸ hnan)
    exact hlt (compare_ne_gt_iff_le.1 (by simp [heq]))
  have hmn : compareFloats (Float.ofInt n.toInt) (Float.ofInt m.toInt) ≠ .gt :=
    compareFloats_ofInt_ne_gt (Int64.le_of_lt (Int64.not_le.1 hlt))
  -- the double is equal to both integers, since these are equal or in the reverse order as doubles
  have hba := compareFloats_trans (isNaN_ofInt_toInt n) hbc hmn
  have hcb := compareFloats_trans (isNaN_ofInt_toInt m) hmn hab
  have heq : compareFloats (Float.ofInt m.toInt) x = .eq :=
    eq_of_ne_gt hab (compareFloats_swap _ x ▸ hba)
  have heq' : compareFloats x (Float.ofInt n.toInt) = .eq :=
    eq_of_ne_gt hbc (compareFloats_swap x _ ▸ hcb)
  exact hlt (Int64.le_of_eq (h.exact m x n rfl rfl rfl heq heq'))

/-- **The order of three non-null values that fit together is transitive.** -/
theorem compare_trans (h : Fitting a b c) (ha : a.isNull = false) (hb : b.isNull = false)
    (hc : c.isNull = false) (hab : compare a b ≠ .gt) (hbc : compare b c ≠ .gt) :
    compare a c ≠ .gt := by
  by_cases hword : ∃ v ∈ [a, b, c], v.isNull = false ∧ v.isNumeric = false
  · obtain ⟨w, hw, hnull, hnumeric⟩ := hword
    exact h.trans_of_word hw hnull hnumeric hab hbc
  · have hnumber : ∀ v ∈ [a, b, c], v.isNull = false → v.isNumeric = true := by
      intro v hv hnull
      by_contra hnumeric
      exact hword ⟨v, hv, hnull, Bool.not_eq_true _ ▸ hnumeric⟩
    have ha' := hnumber a (by simp) ha
    have hb' := hnumber b (by simp) hb
    have hc' := hnumber c (by simp) hc
    rw [isNumeric_eq_isSome_toFloat?, Option.isSome_iff_exists] at ha' hb' hc'
    obtain ⟨x, hx⟩ := ha'
    obtain ⟨y, hy⟩ := hb'
    obtain ⟨z, hz⟩ := hc'
    by_cases hints : a.isInteger = true ∧ c.isInteger = true
    · obtain ⟨m, rfl⟩ := exists_eq_integer hints.1
      obtain ⟨n, rfl⟩ := exists_eq_integer hints.2
      show Ord.compare m n ≠ .gt
      rw [compare_ne_gt_iff_le]
      cases b with
      | integer k => exact Int64.le_trans (compare_ne_gt_iff_le.1 hab) (compare_ne_gt_iff_le.1 hbc)
      | float y => exact h.le_of_between hab hbc
      | null | boolean | string | nested => cases hy
    · rw [not_and_or, Bool.not_eq_true, Bool.not_eq_true] at hints
      by_cases hnan : y.isNaN = true
      · cases b with
        | integer k =>
          cases hy
          rw [isNaN_ofInt_toInt] at hnan
          cases hnan
        | float y' =>
          cases hy
          rw [h.notNaN y rfl (hnumber a (by simp) ha) (hnumber c (by simp) hc) hnan]
          nofun
        | null | boolean | string | nested => cases hy
      · rw [compare_eq_compareFloats hx hz hints]
        exact compareFloats_trans (Bool.eq_false_of_not_eq_true hnan) (double_not_gt hx hy hab)
          (double_not_gt hy hz hbc)

end Three

/-! ### Sorting -/

section Sorting

variable {descending : Bool} {a b c : Value}

/-- Of two non-null values, a descending sort compares the second with the first. -/
theorem sortCompare_eq (ha : a.isNull = false) (hb : b.isNull = false) :
    sortCompare descending a b = if descending then compare b a else compare a b := by
  rw [sortCompare, ha, hb, compare_swap a b]

theorem sortCompare_swap (descending : Bool) (a b : Value) :
    sortCompare descending b a = (sortCompare descending a b).swap := by
  rw [sortCompare, sortCompare]
  cases a.isNull <;> cases b.isNull
  · cases descending
    · exact compare_swap a b
    · exact congrArg Ordering.swap (compare_swap a b)
  all_goals rfl

theorem sortCompare_trans (h : Fitting a b c) (hab : sortCompare descending a b ≠ .gt)
    (hbc : sortCompare descending b c ≠ .gt) : sortCompare descending a c ≠ .gt := by
  by_cases hc : c.isNull = true
  -- nothing is after a null
  · rw [sortCompare, hc]
    cases a.isNull <;> simp
  · rw [Bool.not_eq_true] at hc
    -- what is not after a value that is not null is itself not null
    have hb : b.isNull = false := by
      by_contra hnull
      rw [Bool.not_eq_false] at hnull
      exact hbc (by rw [sortCompare, hnull, hc])
    have ha : a.isNull = false := by
      by_contra hnull
      rw [Bool.not_eq_false] at hnull
      exact hab (by rw [sortCompare, hnull, hb])
    rw [sortCompare_eq ha hb] at hab
    rw [sortCompare_eq hb hc] at hbc
    rw [sortCompare_eq ha hc]
    cases descending with
    | false => exact compare_trans h ha hb hc hab hbc
    | true => exact compare_trans h.symm hc hb ha hbc hab

/-- **The order of a sort** is oriented, and transitive on values that fit together. -/
theorem sortCompare_isPreorder (descending : Bool) (a b c : Value) :
    sortCompare descending b a = (sortCompare descending a b).swap ∧
      (Fitting a b c → sortCompare descending a b ≠ .gt → sortCompare descending b c ≠ .gt →
        sortCompare descending a c ≠ .gt) :=
  ⟨sortCompare_swap descending a b, sortCompare_trans⟩

/-- Two numbers with their texts in the reverse order, and a word behind both. -/
theorem sortCompare_isPreorder_mixed :
    Fitting (integer 9) (float 10.5) (boolean true) ∧
      sortCompare false (integer 9) (float 10.5) ≠ .gt ∧
      sortCompare false (float 10.5) (boolean true) ≠ .gt ∧
      sortCompare false (integer 9) (boolean true) ≠ .gt := by
  have hbehind : ∀ w ∈ [integer 9, float 10.5, boolean true], w.isNumeric = false →
      ∀ m ∈ [integer 9, float 10.5, boolean true], m.isNumeric = true →
        compareTexts w.text m.text = .gt := by
    decide
  have hfitting : Fitting (integer 9) (float 10.5) (boolean true) :=
    { texts := fun w hw _ hword m hm _ _ hnumber _ _ _ hwm =>
        absurd (hbehind w hw hword m hm hnumber) hwm
      notNaN := fun x _ _ hc => by cases hc
      exact := fun m x n _ _ hc => by cases hc }
  have hab : sortCompare false (integer 9) (float 10.5) ≠ .gt := by decide
  have hbc : sortCompare false (float 10.5) (boolean true) ≠ .gt := by decide
  exact ⟨hfitting, hab, hbc, (sortCompare_isPreorder false _ _ _).2 hfitting hab hbc⟩

/-- No less than `Fitting` has to be asked of a word among numbers: if its text lies between those of
two numbers that have these in the reverse order, the order goes round in a circle. -/
theorem compare_not_trans_of_between {m n w : Value} (hw : w.isNumeric = false)
    (hmn : compare m n ≠ .gt) (hnw : compareTexts n.text w.text ≠ .gt)
    (hwm : compareTexts w.text m.text ≠ .gt) (hdiffer : ¬(compare m n = .eq ∧ m.text = n.text)) :
    ¬((compare m n ≠ .gt → compare n w ≠ .gt → compare m w ≠ .gt) ∧
      (compare n w ≠ .gt → compare w m ≠ .gt → compare n m ≠ .gt) ∧
      (compare w m ≠ .gt → compare m n ≠ .gt → compare w n ≠ .gt)) := by
  have hword : ∀ v : Value, compare v w = compareTexts v.text w.text ∧
      compare w v = compareTexts w.text v.text := fun v =>
    ⟨compare_eq_of_not_numbers (by simp [hw]), compare_eq_of_not_numbers (by simp [hw])⟩
  rintro ⟨hmw, hnm, hwn⟩
  rw [(hword n).1, (hword m).1] at hmw
  rw [(hword n).1, (hword m).2] at hnm
  rw [(hword m).2, (hword n).2] at hwn
  have heq : ∀ {s t : String}, compareTexts s t ≠ .gt → compareTexts t s ≠ .gt → s = t := by
    intro s t hst hts
    have hcmp := eq_of_ne_gt hst (compareTexts_swap s t ▸ hts)
    exact String.toList_inj.1 (Std.compare_eq_iff_eq.1 hcmp)
  have hequal : compare m n = .eq := eq_of_ne_gt hmn (compare_swap m n ▸ hnm hnw hwm)
  exact hdiffer ⟨hequal, (heq (hmw hmn hnw) hwm).trans (heq (hwn hwm hmn) hnw)⟩

/-- On all values the order is not transitive, for each of the three reasons: a text among numbers,
a NaN between them, and a double between integers that round to it. -/
theorem sortCompare_not_trans :
    (sortCompare false (integer 9) (integer 10) ≠ .gt ∧
      sortCompare false (integer 10) (string "1x") ≠ .gt ∧
      sortCompare false (integer 9) (string "1x") = .gt) ∧
    (sortCompare false (integer 2) (float (0 / 0)) ≠ .gt ∧
      sortCompare false (float (0 / 0)) (integer 1) ≠ .gt ∧
      sortCompare false (integer 2) (integer 1) = .gt) ∧
    (sortCompare false (integer 9007199254740993) (float 9007199254740992) ≠ .gt ∧
      sortCompare false (float 9007199254740992) (integer 9007199254740992) ≠ .gt ∧
      sortCompare false (integer 9007199254740993) (integer 9007199254740992) = .gt) := by
  decide

end Sorting

end Value

end TablePipeline
