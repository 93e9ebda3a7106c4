import Mathlib

/-!
# Whole numbers as doubles

The double of a whole number is the number itself up to `2 ^ 53`; beyond that its last binary digits
are dropped and what is left is rounded, a tie going to the even neighbour.  The library of doubles
does both with one procedure, which shifts a mantissa to the right digit by digit and keeps two more
bits: the digit that was dropped last, and whether any digit before it was one.  `Shifted` says what
these bits stand for, so that the procedure becomes a division (`Shifted.roundedMantissa`).

A mantissa that is rounded up to `2 ^ 53` does not fit and is halved.  Counting the doubles instead
of looking at their parts makes this case disappear: `exponent * 2 ^ 52 + mantissa` is the same
before and after.  This count is the `rank` in `Normal`, and `naturalRank` is the one of a whole
number.

## Main definitions

* `roundEven` — a quotient by a power of two, rounded
* `Shifted` — what the bits of a shifted mantissa stand for
* `Normal` — a double with a full mantissa, by its count
* `naturalRank` — the count of the double of a whole number

## Main statements

* `normal_roundWithAccuracy` — the procedure, on any mantissa of more than 52 digits
* `Normal.unpack_pack` — a double keeps its parts when it is stored
* `normal_ofNat` — the double of a whole number
* `naturalRank_mono` — greater numbers have greater doubles
-/

namespace TablePipeline

open Float.Model (UnpackedFloat totalExponent)
open Float.Model.UnpackedFloat (Sign ExtendedMantissa Accuracy)

/-- The format of doubles. -/
abbrev doubleFormat : Float.Model.Format := Float.Model.Format.binary64

/-! ### Dropping binary digits -/

/-- The quotient of a number by a power of two, rounded to the nearest number and in the middle to
the even one. -/
def roundEven (m s : ℕ) : ℕ :=
  if 2 * (m % 2 ^ s) < 2 ^ s then m / 2 ^ s
  else if 2 * (m % 2 ^ s) = 2 ^ s then m / 2 ^ s + m / 2 ^ s % 2
  else m / 2 ^ s + 1

/-- The mantissa without its last `s` digits.  One bit says whether these come to at least one half,
the other whether they are anything but nothing and one half. -/
structure Shifted (m s : ℕ) (em : ExtendedMantissa) : Prop where
  mantissa : em.mantissa = m / 2 ^ s
  round : em.roundBit = true ↔ 2 ^ s ≤ 2 * (m % 2 ^ s)
  sticky : em.stickyBit = true ↔ 2 * (m % 2 ^ s) ≠ 0 ∧ 2 * (m % 2 ^ s) ≠ 2 ^ s

section Shifts

variable {m n s : ℕ} {em : ExtendedMantissa}

theorem mod_two_pow_succ (m s : ℕ) :
    m % 2 ^ (s + 1) = 2 ^ s * (m / 2 ^ s % 2) + m % 2 ^ s := by
  rw [pow_succ, Nat.mod_mul, Nat.add_comm]

theorem Shifted.shiftRightOne (h : Shifted m s em) : Shifted m (s + 1) em.shiftRightOne := by
  obtain ⟨hmantissa, hround, hsticky⟩ := h
  have hmod := mod_two_pow_succ m s
  have hlt : m % 2 ^ s < 2 ^ s := Nat.mod_lt _ (Nat.two_pow_pos s)
  have hdigit : m / 2 ^ s % 2 = 0 ∨ m / 2 ^ s % 2 = 1 := Nat.mod_two_eq_zero_or_one _
  refine ⟨?_, ?_, ?_⟩
  · show em.mantissa / 2 = _
    rw [hmantissa, Nat.div_div_eq_div_mul, pow_succ]
  · show (em.mantissa % 2 != 0) = true ↔ _
    rw [hmod, hmantissa, bne_iff_ne, pow_succ]
    rcases hdigit with hdigit | hdigit <;> rw [hdigit] <;> omega
  · show (em.roundBit || em.stickyBit) = true ↔ _
    rw [Bool.or_eq_true, hround, hsticky, hmod, pow_succ]
    rcases hdigit with hdigit | hdigit <;> rw [hdigit] <;> omega

theorem shifted_shiftRight (m s : ℕ) :
    Shifted m s (ExtendedMantissa.ofMantissaAndAccuracy m .exact >>> s) := by
  show Shifted m s (s.repeat ExtendedMantissa.shiftRightOne ⟨m, false, false⟩)
  induction s with
  | zero => constructor <;> simp [Nat.repeat, Nat.mod_one]
  | succ s ih => exact ih.shiftRightOne

/-- The two bits are all that has to be known of the digits that were dropped. -/
theorem Shifted.roundedMantissa (h : Shifted m s em) : em.roundedMantissa = roundEven m s := by
  obtain ⟨hmantissa, hround, hsticky⟩ := h
  have hlt : m % 2 ^ s < 2 ^ s := Nat.mod_lt _ (Nat.two_pow_pos s)
  obtain ⟨mantissa, round, sticky⟩ := em
  simp only at hmantissa hround hsticky
  subst hmantissa
  rw [roundEven]
  cases round <;> cases sticky <;> simp at hround hsticky <;>
    simp only [ExtendedMantissa.roundedMantissa, ExtendedMantissa.accuracy,
      Accuracy.roundToNearestEven] <;> grind

theorem roundEven_zero (m : ℕ) : roundEven m 0 = m := by
  simp [roundEven, Nat.mod_one]

theorem roundEven_mul (m s k : ℕ) : roundEven (m * 2 ^ k) (s + k) = roundEven m s := by
  have hpos := Nat.two_pow_pos k
  rw [roundEven, roundEven, pow_add, Nat.mul_mod_mul_right, Nat.mul_div_mul_right _ _ hpos,
    ← Nat.mul_assoc, if_congr (Nat.mul_lt_mul_right hpos) rfl rfl]
  exact if_congr Iff.rfl rfl (if_congr (Nat.mul_left_inj hpos.ne') rfl rfl)

theorem roundEven_mono (h : m ≤ n) : roundEven m s ≤ roundEven n s := by
  have hm := Nat.div_add_mod m (2 ^ s)
  have hn := Nat.div_add_mod n (2 ^ s)
  have hquotient : m / 2 ^ s ≤ n / 2 ^ s := Nat.div_le_div_right h
  rw [roundEven, roundEven]
  rcases hquotient.eq_or_lt with heq | hlt
  · rw [heq] at hm ⊢
    have hmod : m % 2 ^ s ≤ n % 2 ^ s := by omega
    split_ifs <;> omega
  · split_ifs <;> omega

theorem log2_mul_two_pow (hn : n ≠ 0) (k : ℕ) : (n * 2 ^ k).log2 = n.log2 + k := by
  obtain ⟨hlow, hhigh⟩ := (Nat.log2_eq_iff hn).1 rfl
  have hpos := Nat.two_pow_pos k
  rw [Nat.log2_eq_iff (Nat.mul_ne_zero hn hpos.ne'), pow_add, Nat.add_right_comm, pow_add]
  exact ⟨Nat.mul_le_mul_right _ hlow, Nat.mul_lt_mul_of_pos_right hhigh hpos⟩

/-- All but the first 53 digits are dropped.  What is left has 53 digits, or is the least number
of 54. -/
theorem roundEven_bounds (hm : m ≠ 0) (hlog : m.log2 = s + 52) :
    2 ^ 52 ≤ roundEven m s ∧ roundEven m s ≤ 2 ^ 53 := by
  obtain ⟨hlow, hhigh⟩ := (Nat.log2_eq_iff hm).1 hlog
  have hpos := Nat.two_pow_pos s
  have hquotient : 2 ^ 52 ≤ m / 2 ^ s ∧ m / 2 ^ s < 2 ^ 53 := by
    rw [Nat.le_div_iff_mul_le hpos, Nat.div_lt_iff_lt_mul hpos]
    constructor
    · calc 2 ^ 52 * 2 ^ s = 2 ^ (s + 52) := by rw [pow_add, Nat.mul_comm]
        _ ≤ m := hlow
    · calc m < 2 ^ (s + 52 + 1) := hhigh
        _ = 2 ^ 53 * 2 ^ s := by rw [Nat.add_assoc, pow_add, Nat.mul_comm]
  rw [roundEven]
  split_ifs <;> omega

end Shifts

/-! ### Doubles by their count -/

/-- A double with a mantissa of 53 digits, the first of which is one. -/
def Normal (sign : Sign) (rank : ℤ) (u : UnpackedFloat) : Prop :=
  ∃ m e hm, u = .finite sign m e hm ∧ 2 ^ 52 ≤ m ∧ m < 2 ^ 53 ∧ e * 2 ^ 52 + m = rank

section Normal

variable {sign : Sign} {rank e : ℤ} {m s : ℕ} {u : UnpackedFloat}

/-- The count determines the exponent and the mantissa. -/
theorem Normal.eq_finite (h : Normal sign rank u) (hm : 0 < m) (hlow : 2 ^ 52 ≤ m)
    (hhigh : m < 2 ^ 53) (hrank : rank = e * 2 ^ 52 + m) : u = .finite sign m e hm := by
  obtain ⟨m', e', hm', rfl, hlow', hhigh', hrank'⟩ := h
  obtain rfl : e' = e := by omega
  obtain rfl : m' = m := by omega
  rfl

theorem targetExponent_eq (h : -1074 ≤ (m.log2 : ℤ) - 52 + e) :
    doubleFormat.targetExponent (totalExponent m e) = (m.log2 : ℤ) - 52 + e := by
  have hmin : doubleFormat.minExponent = -1074 := by decide
  rw [Float.Model.Format.targetExponent, totalExponent, hmin]
  show max ((m.log2 : ℤ) + 1 + e - (53 : ℕ)) (-1074) = _
  omega

theorem shiftToTargetExponent_eq (hlog : m.log2 = s + 52) (he : -1074 ≤ s + e) :
    UnpackedFloat.shiftToTargetExponent doubleFormat m e .exact =
      (ExtendedMantissa.ofMantissaAndAccuracy m .exact >>> s, e + s) := by
  have htarget := targetExponent_eq (m := m) (e := e) (by omega)
  have hshift : ((m.log2 : ℤ) - 52 + e - e).toNat = s := by omega
  rw [UnpackedFloat.shiftToTargetExponent, htarget, UnpackedFloat.shiftToExponent]
  simp only [hshift]

/-- A mantissa that has been shifted, as a double. -/
def ofShifted (sign : Sign) (p : ExtendedMantissa × ℤ) : UnpackedFloat :=
  if h : p.1.mantissa = 0 then .zero sign
  else .finite sign p.1.mantissa p.2 (Nat.pos_of_ne_zero h)

theorem roundWithAccuracy_eq (sign : Sign) (m : ℕ) (e : ℤ) (a : Accuracy) :
    UnpackedFloat.roundWithAccuracy doubleFormat sign m e a =
      ofShifted sign (UnpackedFloat.shiftToTargetExponent doubleFormat
        (UnpackedFloat.shiftToTargetExponent doubleFormat m e a).1.roundedMantissa
        (UnpackedFloat.shiftToTargetExponent doubleFormat m e a).2 .exact) :=
  rfl

/-- Rounding a mantissa of 53 or more digits. -/
theorem normal_roundWithAccuracy (sign : Sign) (hm : m ≠ 0) (hlog : m.log2 = s + 52)
    (he : -1074 ≤ s + e) :
    Normal sign ((e + s) * 2 ^ 52 + roundEven m s)
      (UnpackedFloat.roundWithAccuracy doubleFormat sign m e .exact) := by
  obtain ⟨hlow, hhigh⟩ := roundEven_bounds hm hlog
  rw [roundWithAccuracy_eq, shiftToTargetExponent_eq hlog he]
  simp only [(shifted_shiftRight m s).roundedMantissa]
  rcases hhigh.lt_or_eq with hlt | heq
  · have hlog' : (roundEven m s).log2 = 0 + 52 := (Nat.log2_eq_iff (by omega)).2 ⟨hlow, hlt⟩
    rw [shiftToTargetExponent_eq hlog' (by omega)]
    refine ⟨roundEven m s, e + s + (0 : ℕ), by omega, ?_, hlow, hlt, by simp⟩
    exact dif_neg (show roundEven m s ≠ 0 by omega)
  -- the mantissa has been rounded up to one digit too many, the last of which is zero
  · have hlog' : (2 ^ 53).log2 = 1 + 52 := by decide
    rw [heq, shiftToTargetExponent_eq hlog' (by omega)]
    exact ⟨2 ^ 52, e + s + 1, by decide, rfl, le_rfl, by decide, by push_cast; ring⟩

end Normal

/-! ### Storing doubles -/

section Storing

variable {sign : Sign} {rank e : ℤ} {m : ℕ} {u : UnpackedFloat}

theorem exponentBias_eq : (doubleFormat.exponentBias : ℤ) = 1023 := by
  decide

/-- The first digit of the mantissa is one and is not stored. -/
theorem toNat_append_mantissa (hlow : 2 ^ 52 ≤ m) (hhigh : m < 2 ^ 53) :
    (1#1 ++ BitVec.ofNat 52 m).toNat = m := by
  rw [BitVec.toNat_append, BitVec.toNat_ofNat, BitVec.toNat_ofNat,
    ← Nat.shiftLeft_add_eq_or_of_lt (Nat.mod_lt _ (by decide)), Nat.shiftLeft_eq]
  omega

theorem pack_finite {b : ℕ} (hm : 0 < m) (hlow : 2 ^ 52 ≤ m) (hhigh : m < 2 ^ 53)
    (he : e = (b : ℤ) - 1075) (hb : b + 1 < 2 ^ 11) :
    UnpackedFloat.pack doubleFormat (.finite sign m e hm) =
      UnpackedFloat.packComponents doubleFormat sign (BitVec.ofNat 11 b) (BitVec.ofNat 52 m) := by
  have hlog : m.log2 = 52 := (Nat.log2_eq_iff (by omega)).2 ⟨hlow, hhigh⟩
  have hbiased : (e + (doubleFormat.exponentBias : ℤ) +
      (doubleFormat.mantissaBitsWithoutImplicit : ℤ)).toNat = b := by
    rw [exponentBias_eq]
    show (e + 1023 + (52 : ℕ)).toNat = b
    omega
  simp only [UnpackedFloat.pack]
  rw [hbiased, hlog, if_neg (show ¬2 ^ 11 ≤ b + 1 by omega), if_pos (by decide)]

/-- A double that is neither too great nor too small to have a full mantissa is stored with all its
parts. -/
theorem unpack_pack_finite (hm : 0 < m) (hlow : 2 ^ 52 ≤ m) (hhigh : m < 2 ^ 53)
    (helow : -1074 ≤ e) (hehigh : e ≤ 971) :
    UnpackedFloat.unpack doubleFormat (UnpackedFloat.pack doubleFormat (.finite sign m e hm)) =
      .finite sign m e hm := by
  obtain ⟨b, hb⟩ : ∃ b : ℕ, e = (b : ℤ) - 1075 := ⟨(e + 1075).toNat, by omega⟩
  have hfield : (BitVec.ofNat 11 b).toNat = b := by
    rw [BitVec.toNat_ofNat]
    omega
  -- the field of the exponent is none of those that are kept for other values
  have hne : ∀ v : BitVec 11, v.toNat = 0 ∨ v.toNat = 2047 → BitVec.ofNat 11 b ≠ v := by
    rintro v hv rfl
    omega
  rw [pack_finite hm hlow hhigh hb (by omega)]
  simp only [UnpackedFloat.unpack, UnpackedFloat.unpackMantissa_packComponents,
    UnpackedFloat.unpackExponent_packComponents, UnpackedFloat.unpackSign_packComponents,
    Sign.ofBitVec_toBitVec]
  rw [if_neg (hne _ (Or.inr rfl)), if_neg (hne _ (Or.inl rfl))]
  simp only [hfield, toNat_append_mantissa hlow hhigh, exponentBias_eq]
  congr 1
  show (b : ℤ) - (1023 + (52 : ℕ)) = e
  omega

theorem Normal.unpack_pack (h : Normal sign rank u) (hlow : -1073 * 2 ^ 52 ≤ rank)
    (hhigh : rank < 972 * 2 ^ 52) : (Float.Model.pack u).unpack = u := by
  obtain ⟨m, e, hm, rfl, hml, hmh, hrank⟩ := h
  exact unpack_pack_finite hm hml hmh (by omega) (by omega)

end Storing

/-! ### Whole numbers -/

/-- The count of the double of a positive whole number: so many doubles lie below it. -/
def naturalRank (n : ℕ) : ℤ :=
  ((n.log2 : ℤ) - 52) * 2 ^ 52 + roundEven (n * 2 ^ 53) (n.log2 + 1)

section Naturals

variable {m n k s : ℕ} {e : ℤ}

theorem roundEven_natural_bounds (hn : n ≠ 0) :
    2 ^ 52 ≤ roundEven (n * 2 ^ 53) (n.log2 + 1) ∧
      roundEven (n * 2 ^ 53) (n.log2 + 1) ≤ 2 ^ 53 :=
  roundEven_bounds (by positivity) (by rw [log2_mul_two_pow hn])

/-- Greater numbers have greater doubles, or the same. -/
theorem naturalRank_mono (hm : m ≠ 0) (h : m ≤ n) : naturalRank m ≤ naturalRank n := by
  have hn : n ≠ 0 := by omega
  have hlog : m.log2 ≤ n.log2 := (Nat.le_log2 hn).2 ((Nat.log2_self_le hm).trans h)
  have hmbounds := roundEven_natural_bounds hm
  have hnbounds := roundEven_natural_bounds hn
  have hround := roundEven_mono (s := n.log2 + 1) (Nat.mul_le_mul_right (2 ^ 53) h)
  rw [naturalRank, naturalRank]
  rcases hlog.eq_or_lt with heq | hlt
  · rw [heq]
    omega
  · omega

theorem naturalRank_bounds (hn : n ≠ 0) (h : n ≤ 2 ^ 63) :
    -1073 * 2 ^ 52 ≤ naturalRank n ∧ naturalRank n < 972 * 2 ^ 52 := by
  have hlog : n.log2 < 64 := (Nat.log2_lt hn).2 (by omega)
  have hbounds := roundEven_natural_bounds hn
  rw [naturalRank]
  omega

/-- Up to `2 ^ 53` nothing is dropped. -/
theorem naturalRank_of_lt (hn : n ≠ 0) (h : n < 2 ^ 53) :
    naturalRank n = ((n.log2 : ℤ) - 52) * 2 ^ 52 + (n * 2 ^ (52 - n.log2) : ℕ) := by
  have hlog : n.log2 < 53 := (Nat.log2_lt hn).2 h
  have hexact := roundEven_mul (n * 2 ^ (52 - n.log2)) 0 (n.log2 + 1)
  rw [Nat.mul_assoc, ← pow_add, show 52 - n.log2 + (n.log2 + 1) = 53 by omega, Nat.zero_add,
    roundEven_zero] at hexact
  rw [naturalRank, hexact]

/-- A whole number may be scaled before it is rounded. -/
theorem normal_roundWithAccuracy_mul (hn : n ≠ 0) (hk : n.log2 + k = s + 52) (he : e = -(k : ℤ)) :
    Normal .positive (naturalRank n)
      (UnpackedFloat.roundWithAccuracy doubleFormat .positive (n * 2 ^ k) e .exact) := by
  have hlog := log2_mul_two_pow hn k
  have hrank : naturalRank n = (e + s) * 2 ^ 52 + roundEven (n * 2 ^ k) s := by
    have hleft := roundEven_mul (n * 2 ^ 53) (n.log2 + 1) k
    have hright := roundEven_mul (n * 2 ^ k) s 53
    have hexponent : (n.log2 : ℤ) - 52 = e + s := by omega
    rw [naturalRank, ← hleft, ← hright, Nat.mul_right_comm,
      show n.log2 + 1 + k = s + 53 by omega, hexponent]
  rw [hk] at hlog
  rw [hrank]
  exact normal_roundWithAccuracy .positive (by positivity) hlog (by omega)

/-- The double of a machine word. -/
theorem normal_unpackedOfNat (hn : n ≠ 0) (h : n < 2 ^ 53) :
    Normal .positive (naturalRank n) (UnpackedFloat.ofNat doubleFormat n) := by
  have hlog : n.log2 < 53 := (Nat.log2_lt hn).2 h
  have hsign : compare (n : ℤ) 0 = .gt := compare_gt_iff_gt.2 (by omega)
  have htarget := targetExponent_eq (m := n) (e := 0) (by omega)
  have hshift : (0 - ((n.log2 : ℤ) - 52 + 0)).toNat = 52 - n.log2 := by omega
  rw [UnpackedFloat.ofNat, UnpackedFloat.ofInt, UnpackedFloat.normalize, hsign]
  show Normal _ _ (UnpackedFloat.round _ _ _ _)
  rw [UnpackedFloat.round, UnpackedFloat.decreaseExponent, Int.toNat_natCast, htarget]
  simp only [hshift, Nat.shiftLeft_eq]
  exact normal_roundWithAccuracy_mul (s := 0) hn (by omega) (by omega)

/-- Below `2 ^ 53` a number is read as a word, and then multiplied by one. -/
theorem normal_mul_one (hn : n ≠ 0) (h : n < 2 ^ 53) :
    Normal .positive (naturalRank n)
      (UnpackedFloat.mul doubleFormat (UnpackedFloat.ofNat doubleFormat n)
        (.finite .positive (2 ^ 52) (-52) (by decide))) := by
  have hlog : n.log2 < 53 := (Nat.log2_lt hn).2 h
  have hbounds := roundEven_bounds (m := n * 2 ^ (52 - n.log2)) (s := 0) (by positivity)
    (by rw [log2_mul_two_pow hn]; omega)
  have hhigh : n * 2 ^ (52 - n.log2) < 2 ^ 53 := by
    calc n * 2 ^ (52 - n.log2) < 2 ^ (n.log2 + 1) * 2 ^ (52 - n.log2) :=
          Nat.mul_lt_mul_of_pos_right Nat.lt_log2_self (by positivity)
      _ = 2 ^ 53 := by rw [← pow_add, show n.log2 + 1 + (52 - n.log2) = 53 by omega]
  rw [roundEven_zero] at hbounds
  rw [(normal_unpackedOfNat hn h).eq_finite (by positivity) hbounds.1 hhigh
    (naturalRank_of_lt hn h)]
  show Normal _ _ (UnpackedFloat.roundWithAccuracy doubleFormat .positive
    (n * 2 ^ (52 - n.log2) * 2 ^ 52) ((n.log2 : ℤ) - 52 + -52) .exact)
  rw [Nat.mul_assoc, ← pow_add]
  exact normal_roundWithAccuracy_mul (s := 52) hn (by omega) (by omega)

/-- From `2 ^ 53` on a number is scaled by `2 ^ 53` and rounded. -/
theorem ofScientific_eq (hn : n ≠ 0) :
    UnpackedFloat.ofScientific doubleFormat n 0 =
      UnpackedFloat.roundWithAccuracy doubleFormat .positive (n * 2 ^ 53) (-53) .exact := by
  have hlow : ¬(0 : ℤ) < -((2 ^ doubleFormat.exponentBits : ℤ) + n.log2) := by
    have hpos : (0 : ℤ) < 2 ^ doubleFormat.exponentBits := by positivity
    omega
  rw [UnpackedFloat.ofScientific, dif_neg hn, if_neg (by decide), if_neg hlow, if_pos le_rfl]
  show UnpackedFloat.roundWithAccuracy doubleFormat .positive (n <<< 53 * 1) (-53 + 0) .exact = _
  rw [Nat.shiftLeft_eq, Nat.mul_one, Int.add_zero]

/-- **The double of a whole number.** -/
theorem normal_ofNat (hn : n ≠ 0) (h : n ≤ 2 ^ 63) :
    Normal .positive (naturalRank n) (Float.ofNat n).toModel.unpack := by
  obtain ⟨hlow, hhigh⟩ := naturalRank_bounds hn h
  show Normal _ _ (Float.ofScientific n false 0).toModel.unpack
  rw [Float.ofScientific]
  by_cases hsmall : n < 2 ^ 53
  · have hword : n.toUInt64.toNat = n := by
      rw [Nat.toUInt64, UInt64.toNat_ofNat']
      exact Nat.mod_eq_of_lt (by omega)
    have hone : (Float.ofBits 0x3FF0000000000000).toModel.unpack =
        .finite .positive (2 ^ 52) (-52) (by decide) := rfl
    have hproduct := normal_mul_one hn hsmall
    rw [dif_pos ⟨hsmall, by decide⟩, if_neg (by decide)]
    show Normal _ _ (Float.Model.pack (UnpackedFloat.mul doubleFormat
      (Float.Model.pack (UnpackedFloat.ofNat doubleFormat n.toUInt64.toNat)).unpack
      (Float.ofBits 0x3FF0000000000000).toModel.unpack)).unpack
    rw [hword, (normal_unpackedOfNat hn hsmall).unpack_pack hlow hhigh, hone,
      hproduct.unpack_pack hlow hhigh]
    exact hproduct
  · have hscaled := normal_roundWithAccuracy_mul (k := 53) (s := n.log2 + 1) (e := -53) hn
      (by omega) rfl
    rw [dif_neg (by omega)]
    show Normal _ _
      (Float.Model.pack (UnpackedFloat.ofScientific doubleFormat n 0)).unpack
    rw [ofScientific_eq hn, hscaled.unpack_pack hlow hhigh]
    exact hscaled

end Naturals

end TablePipeline
