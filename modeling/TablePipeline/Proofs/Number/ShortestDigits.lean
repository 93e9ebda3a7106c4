import Mathlib.Algebra.Order.Field.Power
import Mathlib.Data.Nat.Cast.Order.Field
import Mathlib.Tactic.Linarith
import Mathlib.Tactic.Ring
import TablePipeline.Number.Shortest
import TablePipeline.Proofs.Number.Digits

/-!
# Shortest digits read back

A double stands for all numbers that are nearer to it than to its neighbours.  Its printed decimal
is one of them, which has two parts.  The search for the decimal only ever gives numbers inside this
interval (`Binary.onGrid?_covers`), and it does not end without one: the grid of seventeen digits is
finer than the interval is long (`Binary.exists_firstGrid_leadingExponent`).  As the intervals of
two doubles do not overlap, a decimal is printed for one double only (`Binary.Covers.unique`).

At the point in the middle of two doubles, which belongs to both intervals, the one with the even
mantissa wins.  So the interval of an odd mantissa lacks its ends, and of two neighbours exactly one
has an odd mantissa, also across a power of two, where the doubles on one side lie twice as close as
those on the other.

## Main definitions

* `Binary.value`, `Digits.value` — the numbers
* `Binary.IsDouble` — the mantissas and exponents of doubles
* `Binary.Covers` — the numbers that round to a double
* `Binary.Inside` — the same for the points of a grid, as the search asks it

## Main statements

* `Binary.Covers.unique` — a number rounds to one double
* `Binary.shortest_covers` — the shortest digits round to the double
-/

namespace TablePipeline

/-! ### Numbers -/

/-- The number. -/
def Binary.value (v : Binary) : ℚ :=
  v.mantissa * 2 ^ v.exponent

/-- The number. -/
def Digits.value (d : Digits) : ℚ :=
  d.coefficient * 10 ^ d.exponent

@[simp] theorem cast_twoTo (n : ℕ) : (twoTo n : ℚ) = 2 ^ n := by
  simp [twoTo]

@[simp] theorem cast_tenTo (n : ℕ) : (tenTo n : ℚ) = 10 ^ n := by
  simp [tenTo]

/-- A power with a sign in its exponent, as a quotient of powers without. -/
theorem zpow_mul_pow_toNat {b : ℚ} (hb : b ≠ 0) (e : ℤ) :
    b ^ e * b ^ (-e).toNat = b ^ e.toNat := by
  rw [← zpow_natCast, ← zpow_natCast, ← zpow_add₀ hb]
  congr 1
  omega

/-- Trailing zeros may be dropped. -/
theorem Digits.value_strip (limit : ℕ) (d : Digits) : (d.strip limit).value = d.value := by
  fun_induction Digits.strip limit d with
  | case1 => rfl
  | case2 limit d h ih =>
    have hten : (10 : ℚ) * (d.coefficient / 10 : ℕ) = d.coefficient := by
      exact_mod_cast Nat.mul_div_cancel' (Nat.dvd_of_mod_eq_zero h.2)
    rw [ih, value, value, zpow_add_one₀ (by norm_num), ← hten]
    ring
  | case3 => rfl

/-- Every number has a digit. -/
theorem digitCount_pos (n : ℕ) : 0 < digitCount n :=
  List.length_pos_of_ne_nil (naturalText_ne_nil n)

/-- A number is less than the power of ten with as many zeros as it has digits. -/
theorem lt_ten_pow (n : ℕ) : n < 10 ^ digitCount n :=
  (Nat.length_toDigits_le_iff (by decide) (digitCount_pos n)).1 le_rfl

/-- A number is not less than the power of ten with as many digits. -/
theorem ten_pow_le {n : ℕ} (h : 0 < n) : 10 ^ (digitCount n - 1) ≤ n := by
  by_contra hlt
  have hpos := digitCount_pos n
  rcases Nat.eq_zero_or_pos (digitCount n - 1) with hone | hmore
  · rw [hone, pow_zero] at hlt
    omega
  · have hle := (Nat.length_toDigits_le_iff (by decide) hmore).2 (not_le.1 hlt)
    have : digitCount n ≤ digitCount n - 1 := hle
    omega

namespace Binary

variable {v w : Binary} {q : ℚ} {tie : TieRule} {step : ℤ} {d : Digits}

/-! ### Intervals -/

/-- The mantissas and exponents of positive doubles.  Only at the least exponent a mantissa may have
fewer than 53 binary digits. -/
structure IsDouble (v : Binary) : Prop where
  pos : 0 < v.mantissa
  lt : v.mantissa < 2 ^ 53
  least : -1074 ≤ v.exponent
  full : -1074 < v.exponent → 2 ^ 52 ≤ v.mantissa

/-- The number rounds to the double: it lies between the ends of the interval, and not on them if
the mantissa is odd. -/
structure Covers (v : Binary) (q : ℚ) : Prop where
  low : v.ends.1 * 2 ^ v.exponent ≤ 4 * q
  high : 4 * q ≤ v.ends.2 * 2 ^ v.exponent
  odd : v.mantissa % 2 = 1 → v.ends.1 * 2 ^ v.exponent < 4 * q ∧ 4 * q < v.ends.2 * 2 ^ v.exponent

/-- The lower end, without the subtraction in its definition. -/
theorem IsDouble.ends_fst (hv : v.IsDouble) :
    v.ends.1 + (if v.mantissa = 2 ^ 52 ∧ -1074 < v.exponent then 1 else 2) = 4 * v.mantissa := by
  have hpos := hv.pos
  show 4 * v.mantissa - (if v.mantissa = 2 ^ 52 ∧ -1074 < v.exponent then 1 else 2) + _ = _
  split_ifs <;> omega

theorem ends_snd (v : Binary) : v.ends.2 = 4 * v.mantissa + 2 :=
  rfl

/-- Of two doubles the interval of the smaller one ends where that of the other begins, or before.
If it ends there, one of the mantissas is odd. -/
theorem ends_le {k : ℕ} (hv : v.IsDouble) (hw : w.IsDouble) (hk : w.exponent = v.exponent + k)
    (h : 0 < k ∨ v.mantissa < w.mantissa) :
    v.ends.2 ≤ w.ends.1 * 2 ^ k ∧
      (v.ends.2 = w.ends.1 * 2 ^ k → v.mantissa % 2 = 1 ∨ w.mantissa % 2 = 1) := by
  have hends := hw.ends_fst
  have hlt := hv.lt
  rw [ends_snd]
  rcases Nat.eq_zero_or_pos k with rfl | hpos
  · rw [pow_zero, mul_one]
    split_ifs at hends <;> omega
  -- above the least exponent the mantissa is full
  · have hleast := hv.least
    have hfull := hw.full (by omega)
    obtain ⟨j, rfl⟩ := Nat.exists_eq_add_of_lt hpos
    have hj := Nat.one_le_two_pow (n := j)
    have hmul : w.ends.1 * 2 ≤ w.ends.1 * 2 ^ (0 + j + 1) := by
      rw [Nat.zero_add, pow_succ]
      exact Nat.mul_le_mul_left _ (by omega)
    split_ifs at hends <;> omega

/-- No number rounds to two doubles of which one is smaller. -/
theorem not_covers_of_ends_le {k : ℕ} (hk : w.exponent = v.exponent + k)
    (h : v.ends.2 ≤ w.ends.1 * 2 ^ k)
    (hodd : v.ends.2 = w.ends.1 * 2 ^ k → v.mantissa % 2 = 1 ∨ w.mantissa % 2 = 1)
    (hvq : v.Covers q) : ¬w.Covers q := by
  intro hwq
  have hpower : (0 : ℚ) < 2 ^ v.exponent := by positivity
  have hscale : (w.ends.1 : ℚ) * 2 ^ w.exponent = (w.ends.1 * 2 ^ k : ℕ) * 2 ^ v.exponent := by
    rw [hk, zpow_add₀ two_ne_zero, zpow_natCast]
    push_cast
    ring
  have hle : (v.ends.2 : ℚ) * 2 ^ v.exponent ≤ w.ends.1 * 2 ^ w.exponent := by
    rw [hscale]
    exact mul_le_mul_of_nonneg_right (by exact_mod_cast h) hpower.le
  have hlow := hwq.low
  have hhigh := hvq.high
  have heq : (v.ends.2 : ℚ) * 2 ^ v.exponent = w.ends.1 * 2 ^ w.exponent := by linarith
  rw [hscale] at heq
  rcases hodd (by exact_mod_cast mul_right_cancel₀ hpower.ne' heq) with hv | hw
  · have := (hvq.odd hv).2
    linarith
  · have := (hwq.odd hw).1
    linarith

/-- No number rounds to two different doubles, said of the smaller one. -/
theorem not_covers_of_lt (hv : v.IsDouble) (hw : w.IsDouble)
    (h : v.exponent < w.exponent ∨ v.exponent = w.exponent ∧ v.mantissa < w.mantissa)
    (hvq : v.Covers q) : ¬w.Covers q := by
  have hk : w.exponent = v.exponent + (w.exponent - v.exponent).toNat := by omega
  have hle := ends_le hv hw hk (by omega)
  exact not_covers_of_ends_le hk hle.1 hle.2 hvq

/-- **A number rounds to one double.** -/
theorem Covers.unique (hvq : v.Covers q) (hwq : w.Covers q) (hv : v.IsDouble) (hw : w.IsDouble) :
    v = w := by
  by_contra hne
  rcases lt_trichotomy v.exponent w.exponent with h | h | h
  · exact not_covers_of_lt hv hw (.inl h) hvq hwq
  · rcases lt_trichotomy v.mantissa w.mantissa with h' | h' | h'
    · exact not_covers_of_lt hv hw (.inr ⟨h, h'⟩) hvq hwq
    · cases v
      cases w
      simp_all
    · exact not_covers_of_lt hw hv (.inr ⟨h.symm, h'⟩) hwq hvq
  · exact not_covers_of_lt hw hv (.inl h) hwq hvq

/-- Only positive numbers round to positive doubles. -/
theorem Covers.pos (h : v.Covers q) (hv : v.IsDouble) : 0 < q := by
  have hpower : (0 : ℚ) < 2 ^ v.exponent := by positivity
  have hend : (0 : ℚ) < v.ends.1 := by
    have hpos := hv.pos
    have hnat : 0 < v.ends.1 := by
      have hends := hv.ends_fst
      split_ifs at hends <;> omega
    exact_mod_cast hnat
  have hlow := h.low
  have := mul_pos hend hpower
  linarith

/-! ### Grids -/

/-- The numbers that the search compares are those of the interval and of the grid, on a common
scale. -/
theorem exists_scale (v : Binary) (step : ℤ) :
    ∃ c : ℚ, 0 < c ∧
      ((twoTo v.exponent.toNat * tenTo (-step).toNat : ℕ) : ℚ) = 2 ^ v.exponent * c ∧
      ((4 * twoTo (-v.exponent).toNat * tenTo step.toNat : ℕ) : ℚ) = 4 * 10 ^ step * c := by
  refine ⟨2 ^ (-v.exponent).toNat * 10 ^ (-step).toNat, by positivity, ?_, ?_⟩
  · push_cast [cast_twoTo, cast_tenTo]
    rw [← mul_assoc, zpow_mul_pow_toNat two_ne_zero]
  · push_cast [cast_twoTo, cast_tenTo]
    rw [← zpow_mul_pow_toNat (by norm_num : (10 : ℚ) ≠ 0) step]
    ring

/-- What the search asks of a point of the grid. -/
def Inside (v : Binary) (step : ℤ) (d : ℕ) : Prop :=
  let scale := twoTo v.exponent.toNat * tenTo (-step).toNat
  let unit := 4 * twoTo (-v.exponent).toNat * tenTo step.toNat
  (if v.mantissa % 2 = 0 then v.ends.1 * scale ≤ d * unit && d * unit ≤ v.ends.2 * scale
    else v.ends.1 * scale < d * unit && d * unit < v.ends.2 * scale) = true

/-- The points of the grid that the search takes are those that round to the double. -/
theorem inside_iff (d : ℕ) : v.Inside step d ↔ v.Covers (Digits.value ⟨d, step⟩) := by
  obtain ⟨c, hc, hscale, hunit⟩ := v.exists_scale step
  have hpoint : 4 * Digits.value ⟨d, step⟩ * c = d * (4 * 10 ^ step * c) := by
    rw [Digits.value]
    ring
  have hcovers : v.Covers (Digits.value ⟨d, step⟩) ↔
      (v.ends.1 * 2 ^ v.exponent * c ≤ 4 * Digits.value ⟨d, step⟩ * c ∧
        4 * Digits.value ⟨d, step⟩ * c ≤ v.ends.2 * 2 ^ v.exponent * c) ∧
      (v.mantissa % 2 = 1 → v.ends.1 * 2 ^ v.exponent * c < 4 * Digits.value ⟨d, step⟩ * c ∧
        4 * Digits.value ⟨d, step⟩ * c < v.ends.2 * 2 ^ v.exponent * c) := by
    simp only [mul_le_mul_iff_left₀ hc, mul_lt_mul_iff_left₀ hc]
    exact ⟨fun h => ⟨⟨h.low, h.high⟩, h.odd⟩, fun h => ⟨h.1.1, h.1.2, h.2⟩⟩
  rw [hcovers, hpoint, mul_assoc (v.ends.1 : ℚ), mul_assoc (v.ends.2 : ℚ), ← hscale, ← hunit,
    Inside]
  norm_cast
  rcases Nat.mod_two_eq_zero_or_one v.mantissa with heven | hodd
  · simp [heven]
  · simp only [hodd, one_ne_zero, if_false, Bool.and_eq_true, decide_eq_true_eq, true_imp_iff]
    exact ⟨fun h => ⟨⟨h.1.le, h.2.le⟩, h⟩, fun h => h.2⟩

/-- **The search only gives decimals that round to the double.** -/
theorem onGrid?_covers (h : v.onGrid? tie step = some d) : v.Covers d.value := by
  obtain ⟨n, hn, rfl⟩ : ∃ n, v.Inside step n ∧ (⟨n, step⟩ : Digits) = d := by
    simp only [onGrid?] at h
    split at h
    · rename_i hbelow habove
      split_ifs at h
      · exact ⟨_, habove, Option.some_inj.1 h⟩
      · exact ⟨_, hbelow, Option.some_inj.1 h⟩
    · rename_i hbelow _
      exact ⟨_, hbelow, Option.some_inj.1 h⟩
    · rename_i _ habove
      exact ⟨_, habove, Option.some_inj.1 h⟩
    · cases h
  exact (inside_iff n).1 hn

/-- Of the two multiples on either side of a point, one lies in an interval around the point that is
longer than they are apart. -/
theorem exists_multiple_between {low point high unit : ℕ} (hunit : 0 < unit) (hlow : low < point)
    (hhigh : point < high) (hfine : low + unit < high) :
    (low < point / unit * unit ∧ point / unit * unit < high) ∨
      (low < (point / unit + 1) * unit ∧ (point / unit + 1) * unit < high) := by
  have hbelow := Nat.div_mul_le_self point unit
  have habove := Nat.lt_div_mul_add hunit (a := point)
  rw [Nat.succ_mul]
  omega

/-- A grid that is finer than the interval is long has a decimal for the double. -/
theorem exists_onGrid? (hv : v.IsDouble) (tie : TieRule)
    (h : 4 * 10 ^ step < ((v.ends.2 : ℚ) - v.ends.1) * 2 ^ v.exponent) :
    ∃ d, v.onGrid? tie step = some d := by
  obtain ⟨c, hc, hscale, hunit⟩ := v.exists_scale step
  have hends := hv.ends_fst
  rw [onGrid?]
  generalize hs : twoTo v.exponent.toNat * tenTo (-step).toNat = scale at *
  generalize hu : 4 * twoTo (-v.exponent).toNat * tenTo step.toNat = unit at *
  have hspos : 0 < scale := by
    have : (0 : ℚ) < scale := by
      rw [hscale]
      positivity
    exact_mod_cast this
  have hupos : 0 < unit := by
    have : (0 : ℚ) < unit := by
      rw [hunit]
      positivity
    exact_mod_cast this
  -- the distance of the ends, on the common scale
  have hfine : v.ends.1 * scale + unit < v.ends.2 * scale := by
    have hlt := mul_lt_mul_of_pos_right h hc
    rw [← hunit, sub_mul, sub_mul, mul_assoc, mul_assoc, ← hscale] at hlt
    have : (v.ends.1 : ℚ) * scale + unit < v.ends.2 * scale := by linarith
    exact_mod_cast this
  have hlow : v.ends.1 * scale < 4 * v.mantissa * scale :=
    Nat.mul_lt_mul_of_pos_right (by split_ifs at hends <;> omega) hspos
  have hhigh : 4 * v.mantissa * scale < v.ends.2 * scale :=
    Nat.mul_lt_mul_of_pos_right (by rw [ends_snd]; omega) hspos
  have hbetween := exists_multiple_between hupos hlow hhigh hfine
  split
  · exact ⟨_, rfl⟩
  · exact ⟨_, rfl⟩
  · exact ⟨_, rfl⟩
  -- otherwise the search has refused both neighbours of the double on the grid
  · rename_i hb ha
    exfalso
    split_ifs at hb ha <;>
      simp only [Bool.and_eq_false_iff, decide_eq_false_iff_not] at hb ha <;> omega

/-- The value is not less than the power of ten of its first digit. -/
theorem ten_zpow_leadingExponent_le (hv : v.IsDouble) : (10 : ℚ) ^ v.leadingExponent ≤ v.value := by
  have hfraction : v.value = v.fraction.1 / v.fraction.2 := by
    rw [value, fraction]
    push_cast [cast_twoTo]
    rw [eq_div_iff (by positivity), mul_assoc, zpow_mul_pow_toNat two_ne_zero]
  have hnum : 0 < v.fraction.1 := Nat.mul_pos hv.pos (twoTo_pos _)
  have hden : 0 < v.fraction.2 := twoTo_pos _
  rw [hfraction, leadingExponent]
  generalize v.fraction = f at *
  obtain ⟨num, den⟩ := f
  simp only at hnum hden ⊢
  split_ifs with hle
  · have hdigits := ten_pow_le (Nat.div_pos hle hden)
    have hcount := digitCount_pos (num / den)
    have hexponent : (digitCount (num / den) : ℤ) - 1 = (digitCount (num / den) - 1 : ℕ) := by omega
    calc (10 : ℚ) ^ ((digitCount (num / den) : ℤ) - 1)
        = (10 ^ (digitCount (num / den) - 1) : ℕ) := by
          rw [hexponent, zpow_natCast]
          push_cast
          rfl
      _ ≤ (num / den : ℕ) := by exact_mod_cast hdigits
      _ ≤ num / den := Nat.cast_div_le
  · have hdigits := lt_ten_pow ((den + num - 1) / num - 1)
    generalize digitCount ((den + num - 1) / num - 1) = k at *
    have hlt : (den + num - 1) / num < 10 ^ k + 1 := by omega
    have hmul := (Nat.div_lt_iff_lt_mul hnum).1 hlt
    rw [Nat.succ_mul] at hmul
    have hnat : den ≤ 10 ^ k * num := by omega
    have hcast : (den : ℚ) ≤ 10 ^ k * num := by exact_mod_cast hnat
    rw [zpow_neg, zpow_natCast, inv_eq_one_div, div_le_div_iff₀ (by positivity) (by positivity)]
    linarith

/-- What is found on one grid or another rounds to the double. -/
theorem firstGrid_covers {tries : ℕ} (h : v.firstGrid tie tries step = some d) :
    v.Covers d.value := by
  induction tries generalizing step with
  | zero => cases h
  | succ tries ih =>
    rw [firstGrid, Option.or_eq_some_iff] at h
    rcases h with h | ⟨-, h⟩
    · exact onGrid?_covers h
    · exact ih h

/-- The search ends at the latest on a grid that has a decimal. -/
theorem exists_firstGrid {tries k : ℕ} (hk : k < tries)
    (h : ∃ d, v.onGrid? tie (step - k) = some d) : ∃ d, v.firstGrid tie tries step = some d := by
  induction tries generalizing step k with
  | zero => omega
  | succ tries ih =>
    rw [firstGrid]
    rcases hgrid : v.onGrid? tie step with _ | d
    · rcases k with _ | k
      · simp [hgrid] at h
      · refine ih (k := k) (by omega) ?_
        rwa [show step - 1 - (k : ℤ) = step - (k + 1 : ℕ) by push_cast; ring]
    · exact ⟨d, rfl⟩

/-- Seventeen digits are enough. -/
theorem exists_firstGrid_leadingExponent (hv : v.IsDouble) (tie : TieRule) :
    ∃ d, v.firstGrid tie 17 v.leadingExponent = some d := by
  refine exists_firstGrid (k := 16) (by omega) (exists_onGrid? hv tie ?_)
  have hten := ten_zpow_leadingExponent_le hv
  have hpower : (0 : ℚ) < 2 ^ v.exponent := by positivity
  have hends := hv.ends_fst
  have hlt := hv.lt
  have hwidth : (4 : ℚ) * v.mantissa < (v.ends.2 - v.ends.1) * 10 ^ 16 := by
    have hnat : 4 * v.mantissa + v.ends.1 * 10 ^ 16 < v.ends.2 * 10 ^ 16 := by
      rw [ends_snd]
      split_ifs at hends <;> omega
    have hcast : ((4 * v.mantissa + v.ends.1 * 10 ^ 16 : ℕ) : ℚ) < (v.ends.2 * 10 ^ 16 : ℕ) := by
      exact_mod_cast hnat
    push_cast at hcast
    linarith
  calc (4 : ℚ) * 10 ^ (v.leadingExponent - (16 : ℕ))
      = 4 * 10 ^ v.leadingExponent / 10 ^ 16 := by
        rw [zpow_sub₀ (by norm_num), zpow_natCast]
        ring
    _ ≤ 4 * v.mantissa * 2 ^ v.exponent / 10 ^ 16 := by
        rw [value] at hten
        gcongr ?_ / _
        linarith
    _ < (v.ends.2 - v.ends.1) * 2 ^ v.exponent := by
        rw [div_lt_iff₀ (by norm_num)]
        nlinarith

/-- **The shortest digits of a double round to it.** -/
theorem shortest_covers (hv : v.IsDouble) (tie : TieRule) :
    v.Covers (v.shortest tie).value := by
  obtain ⟨d, hd⟩ := exists_firstGrid_leadingExponent hv tie
  rw [shortest, hd, Option.getD_some, Digits.value_strip]
  exact firstGrid_covers hd

end Binary

end TablePipeline
