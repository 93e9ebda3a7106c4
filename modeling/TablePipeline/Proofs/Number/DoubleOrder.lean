import TablePipeline.Proofs.Number.Rounding
import TablePipeline.Value.Order

/-!
# The order of doubles

Doubles other than NaN lie on a line: the infinities at its ends, the zeros in its middle, and the
others by their exponents and, where these are equal, by their mantissas.  `place` gives the place
of a double on this line, so that two doubles compare as their places do.  NaN is on no place; it
compares as equal with everything.

A whole number that fits in 64 bits has a double, which is never NaN, and greater numbers have
doubles that are not less.  They may be equal: from `2 ^ 53` on neighbours share a double.

## Main definitions

* `place` — where a double lies

## Main statements

* `float_lt_iff` — doubles compare by their places
* `compareFloats_swap`, `compareFloats_trans` — the comparison of a sort
* `ofInt_cases`, `place_ofInt_mono` — the doubles of whole numbers
-/

namespace TablePipeline

open Float.Model (UnpackedFloat)
open Float.Model.UnpackedFloat (Sign)

/-- Where a double lies: its side and distance from zero, the distance as exponent and mantissa. -/
def place : UnpackedFloat → ℤ ×ₗ ℤ ×ₗ ℤ
  | .infinity .negative => toLex (-2, toLex (0, 0))
  | .finite .negative m e _ => toLex (-1, toLex (-e, -(m : ℤ)))
  | .zero _ | .notANumber => toLex (0, toLex (0, 0))
  | .finite .positive m e _ => toLex (1, toLex (e, (m : ℤ)))
  | .infinity .positive => toLex (2, toLex (0, 0))

theorem then_eq_lt_iff (e f : ℤ) (m n : ℕ) :
    (compare e f).then (compare m n) = .lt ↔ e < f ∨ e = f ∧ m < n := by
  rw [Ordering.then_eq_lt, compare_lt_iff_lt, compare_eq_iff_eq, compare_lt_iff_lt]

theorem then_eq_gt_iff (e f : ℤ) (m n : ℕ) :
    (compare e f).then (compare m n) = .gt ↔ f < e ∨ e = f ∧ n < m := by
  rw [Ordering.then_eq_gt, compare_gt_iff_gt, compare_eq_iff_eq, compare_gt_iff_gt]

/-- One double is below another if neither is NaN and its place comes first. -/
theorem unpackedFloat_lt_iff {u v : UnpackedFloat} :
    u.lt v = true ↔ u.isNaN = false ∧ v.isNaN = false ∧ place u < place v := by
  have hsign : compare Sign.negative Sign.positive = .lt := rfl
  rw [UnpackedFloat.lt, beq_iff_eq]
  rcases u with (_ | _) | _ | _ | ⟨_ | _, m, e, hm⟩ <;>
    rcases v with (_ | _) | _ | _ | ⟨_ | _, n, f, hn⟩ <;>
    simp [UnpackedFloat.compare, UnpackedFloat.isNaN, place, Prod.Lex.toLex_lt_toLex,
      then_eq_lt_iff, then_eq_gt_iff, hsign]

section Comparison

variable {x y z : Float}

/-- **Doubles compare by their places.** -/
theorem float_lt_iff :
    x < y ↔ x.isNaN = false ∧ y.isNaN = false ∧
      place x.toModel.unpack < place y.toModel.unpack := by
  have hlt : x < y ↔ x.toModel.unpack.lt y.toModel.unpack = true := by
    show decide (x.toModel < y.toModel) = true ↔ _
    rw [decide_eq_true_iff]
    rfl
  rw [hlt, unpackedFloat_lt_iff]
  rfl

theorem float_lt_asymm (h : x < y) : ¬y < x := by
  rw [float_lt_iff] at h ⊢
  exact fun h' => lt_asymm h.2.2 h'.2.2

/-- Not being greater goes on across a double that has a place. -/
theorem float_not_lt_trans (hy : y.isNaN = false) (hxy : ¬y < x) (hyz : ¬z < y) : ¬z < x := by
  rw [float_lt_iff] at hxy hyz ⊢
  rintro ⟨hz, hx, hlt⟩
  have hxy' : place x.toModel.unpack ≤ place y.toModel.unpack :=
    not_lt.1 fun h => hxy ⟨hy, hx, h⟩
  have hyz' : place y.toModel.unpack ≤ place z.toModel.unpack :=
    not_lt.1 fun h => hyz ⟨hz, hy, h⟩
  exact absurd hlt (not_lt.2 (hxy'.trans hyz'))

/-- The comparison from the other side. -/
theorem compareFloats_swap (x y : Float) : compareFloats y x = (compareFloats x y).swap := by
  rw [compareFloats, compareFloats]
  by_cases hxy : x < y
  · rw [if_neg (float_lt_asymm hxy), if_pos hxy, if_pos hxy]
    rfl
  · rw [if_neg hxy, if_neg hxy]
    split_ifs <;> rfl

theorem compareFloats_ne_gt_iff : compareFloats x y ≠ .gt ↔ ¬y < x := by
  rw [compareFloats]
  by_cases hxy : x < y
  · simp [hxy, float_lt_asymm hxy]
  · by_cases hyx : y < x <;> simp [hxy, hyx]

/-- **The order of doubles** is transitive over a double that is a number. -/
theorem compareFloats_trans (hy : y.isNaN = false) (hxy : compareFloats x y ≠ .gt)
    (hyz : compareFloats y z ≠ .gt) : compareFloats x z ≠ .gt := by
  rw [compareFloats_ne_gt_iff] at *
  exact float_not_lt_trans hy hxy hyz

end Comparison

/-! ### Whole numbers on the line -/

section Wholes

variable {sign : Sign} {r s : ℤ} {u v : UnpackedFloat} {m n k : ℤ}

/-- The sign does not matter for being normal. -/
theorem Normal.neg (h : Normal .positive r u) : Normal .negative r u.neg := by
  obtain ⟨m, e, hm, rfl, hbounds⟩ := h
  exact ⟨m, e, hm, rfl, hbounds⟩

theorem Normal.isNaN (h : Normal sign r u) : u.isNaN = false := by
  obtain ⟨m, e, hm, rfl, -⟩ := h
  rfl

/-- A greater magnitude has the greater place. -/
theorem Normal.place_le_of_positive (hu : Normal .positive r u) (hv : Normal .positive s v)
    (h : r ≤ s) : place u ≤ place v := by
  obtain ⟨m, e, hm, rfl, hmlow, hmhigh, rfl⟩ := hu
  obtain ⟨n, f, hn, rfl, hnlow, hnhigh, rfl⟩ := hv
  simp only [place, Prod.Lex.toLex_le_toLex, lt_irrefl, false_or, true_and]
  omega

/-- Below zero a greater magnitude has the smaller place. -/
theorem Normal.place_le_of_negative (hu : Normal .negative r u) (hv : Normal .negative s v)
    (h : s ≤ r) : place u ≤ place v := by
  obtain ⟨m, e, hm, rfl, hmlow, hmhigh, rfl⟩ := hu
  obtain ⟨n, f, hn, rfl, hnlow, hnhigh, rfl⟩ := hv
  simp only [place, Prod.Lex.toLex_le_toLex, lt_irrefl, false_or, true_and]
  omega

/-- The doubles of whole numbers that fit in 64 bits. -/
theorem ofInt_cases (hlow : -2 ^ 63 ≤ k) (hhigh : k ≤ 2 ^ 63) :
    k < 0 ∧ Normal .negative (naturalRank k.natAbs) (Float.ofInt k).toModel.unpack ∨
      k = 0 ∧ (Float.ofInt k).toModel.unpack = .zero .positive ∨
        0 < k ∧ Normal .positive (naturalRank k.natAbs) (Float.ofInt k).toModel.unpack := by
  rcases k with n | n
  · rcases Nat.eq_zero_or_pos n with rfl | hpos
    · exact .inr (.inl ⟨rfl, rfl⟩)
    · exact .inr (.inr ⟨Int.natCast_pos.2 hpos, normal_ofNat hpos.ne' (by omega)⟩)
  · have hnormal := (normal_ofNat (Nat.succ_ne_zero n) (by omega)).neg
    obtain ⟨hranklow, hrankhigh⟩ := naturalRank_bounds (Nat.succ_ne_zero n) (by omega)
    refine .inl ⟨Int.negSucc_lt_zero n, ?_⟩
    show Normal _ _ (Float.Model.pack (Float.ofNat n.succ).toModel.unpack.neg).unpack
    rw [hnormal.unpack_pack hranklow hrankhigh]
    exact hnormal

theorem isNaN_ofInt (hlow : -2 ^ 63 ≤ k) (hhigh : k ≤ 2 ^ 63) :
    (Float.ofInt k).isNaN = false := by
  show (Float.ofInt k).toModel.unpack.isNaN = false
  rcases ofInt_cases hlow hhigh with ⟨-, h⟩ | ⟨-, h⟩ | ⟨-, h⟩
  · exact h.isNaN
  · rw [h]
    rfl
  · exact h.isNaN

/-- **Greater whole numbers have doubles that are not less.** -/
theorem place_ofInt_mono (h : m ≤ n) (hlow : -2 ^ 63 ≤ m) (hhigh : n ≤ 2 ^ 63) :
    place (Float.ofInt m).toModel.unpack ≤ place (Float.ofInt n).toModel.unpack := by
  have hnegative : ∀ {r u}, Normal .negative r u → place u ≤ place (.zero .positive) := by
    rintro r u ⟨m, e, hm, rfl, -⟩
    simp [place, Prod.Lex.toLex_le_toLex]
  have hpositive : ∀ {r u}, Normal .positive r u → place (.zero .positive) ≤ place u := by
    rintro r u ⟨m, e, hm, rfl, -⟩
    simp [place, Prod.Lex.toLex_le_toLex]
  rcases ofInt_cases hlow (h.trans hhigh) with ⟨hm, hu⟩ | ⟨hm, hu⟩ | ⟨hm, hu⟩ <;>
    rcases ofInt_cases (hlow.trans h) hhigh with ⟨hn, hv⟩ | ⟨hn, hv⟩ | ⟨hn, hv⟩
  · exact hu.place_le_of_negative hv (naturalRank_mono (by omega) (by omega))
  · exact (hnegative hu).trans_eq (by rw [hv])
  · exact (hnegative hu).trans (hpositive hv)
  · omega
  · rw [hu, hv]
  · exact (congrArg place hu).trans_le (hpositive hv)
  · omega
  · omega
  · exact hu.place_le_of_positive hv (naturalRank_mono (by omega) (by omega))

end Wholes

end TablePipeline
