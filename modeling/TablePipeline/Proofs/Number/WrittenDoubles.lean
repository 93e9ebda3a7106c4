import TablePipeline.Number.FloatText
import TablePipeline.Number.Real
import TablePipeline.Proofs.Number.DoubleOrder
import TablePipeline.Proofs.Number.ShortestDigits

/-!
# Written doubles are told apart

The two zeros are written with different signs, and so are a double and its negative.  Of two other
doubles the written digits are different numbers, since each of them rounds to its double.  What is
left to see is that the notation loses nothing: with or without a point, with or without an
exponent, the text reads as the number that the digits stand for (`FloatStyle.readsAs_write`).  None
of this depends on the choices of a style.

Different bits are different doubles, and the bits are a sign, an exponent and a mantissa.  So a
double is known by its sign and its magnitude (`eq_of_ofFloat_eq`).

## Main definitions

* `Numeral.value` — the number that a numeral stands for
* `ReadsAs` — the number that a text stands for
* `Binary.StandsFor` — the numbers that stand for a magnitude

## Main statements

* `FloatStyle.readsAs_write` — what a written double reads as
* `FloatStyle.write_inj` — doubles are told apart by their texts
* `exists_infinity` — infinite doubles, which are not written so
-/

namespace TablePipeline

/-! ### Numerals -/

namespace Numeral

/-- The number that the numeral stands for. -/
def value (n : Numeral) : ℚ :=
  Nat.ofDigitChars 10 (n.whole ++ n.fraction) 0 * 10 ^ (n.exponent - n.fraction.length)

section Reading

variable {whole fraction tail : List Char} {e : ℤ}

/-- The point may stand anywhere, provided that the exponent makes up for it. -/
theorem value_eq {d : Digits}
    (hdigits : Nat.ofDigitChars 10 (whole ++ fraction) 0 = d.coefficient)
    (hexponent : e = d.exponent + fraction.length) : value ⟨whole, fraction, e⟩ = d.value := by
  simp only [value, Digits.value, hdigits, hexponent, add_sub_cancel_right]

/-- What may stand behind the digits of a number: nothing, or the letter of an exponent. -/
def Tail (tail : List Char) : Prop :=
  ∀ c ∈ tail.head?, c.isDigit = false ∧ c ≠ '.'

/-- Digits are read up to the tail. -/
theorem Tail.takeWhile_append (h : Tail tail) {digits : List Char}
    (hdigits : ∀ c ∈ digits, c.isDigit = true) :
    (digits ++ tail).takeWhile Char.isDigit = digits ∧
      (digits ++ tail).dropWhile Char.isDigit = tail := by
  rw [List.takeWhile_append_of_pos hdigits, List.dropWhile_append_of_pos hdigits]
  cases tail with
  | nil => simp
  | cons c tail =>
    have hc := (h c rfl).1
    simp [hc]

/-- A number without a point. -/
theorem read?_whole (hne : whole ≠ []) (hwhole : ∀ c ∈ whole, c.isDigit = true)
    (htail : Tail tail) (hexponent : readTail? tail = some e) :
    read? (whole ++ tail) = some ⟨whole, [], e⟩ := by
  obtain ⟨htake, hdrop⟩ := htail.takeWhile_append hwhole
  rw [read?, htake, hdrop]
  split
  rename_i digits rest hrest
  split at hrest
  · exact absurd rfl (htail '.' rfl).2
  · cases hrest
    simp [hne, hexponent]

/-- A number with a point. -/
theorem read?_point (hne : whole ≠ []) (hwhole : ∀ c ∈ whole, c.isDigit = true)
    (hfraction : ∀ c ∈ fraction, c.isDigit = true) (htail : Tail tail)
    (hexponent : readTail? tail = some e) :
    read? (whole ++ '.' :: (fraction ++ tail)) = some ⟨whole, fraction, e⟩ := by
  obtain ⟨htake, hdrop⟩ := htail.takeWhile_append hfraction
  have htake' : (whole ++ '.' :: (fraction ++ tail)).takeWhile Char.isDigit = whole := by
    rw [List.takeWhile_append_of_pos hwhole]
    simp
  have hdrop' : (whole ++ '.' :: (fraction ++ tail)).dropWhile Char.isDigit =
      '.' :: (fraction ++ tail) := by
    rw [List.dropWhile_append_of_pos hwhole]
    simp
  rw [read?, htake', hdrop']
  simp [htake, hdrop, hne, hexponent]

end Reading

end Numeral

/-- The text reads as the number. -/
def ReadsAs (cs : List Char) (q : ℚ) : Prop :=
  ∃ n, Numeral.read? cs = some n ∧ n.value = q

/-- A text reads as one number. -/
theorem ReadsAs.unique {cs : List Char} {q r : ℚ} (hq : ReadsAs cs q) (hr : ReadsAs cs r) :
    q = r := by
  obtain ⟨m, hm, rfl⟩ := hq
  obtain ⟨n, hn, rfl⟩ := hr
  rw [Option.some_inj.1 (hm.symm.trans hn)]

/-- A sign is no part of what is read. -/
theorem not_readsAs_minus (cs : List Char) (q : ℚ) : ¬ReadsAs ('-' :: cs) q := by
  rintro ⟨n, hn, -⟩
  simp [Numeral.read?] at hn

/-! ### Notations -/

theorem ofDigitChars_naturalText (n : ℕ) : Nat.ofDigitChars 10 (naturalText n) 0 = n :=
  Nat.ofDigitChars_ten_toDigits

theorem isDigit_of_mem_replicate {k : ℕ} {c : Char} (h : c ∈ List.replicate k '0') :
    c.isDigit = true := by
  rw [List.eq_of_mem_replicate h]
  rfl

namespace FloatStyle

variable {whole fraction : List Char}

/-- A fraction of zero does not change the number. -/
theorem readsAs_joinPoint (style : FloatStyle) (hne : whole ≠ [])
    (hwhole : ∀ c ∈ whole, c.isDigit = true) (hfraction : ∀ c ∈ fraction, c.isDigit = true) :
    ReadsAs (style.joinPoint whole fraction) (Numeral.value ⟨whole, fraction, 0⟩) := by
  have htail : Numeral.Tail [] := by simp [Numeral.Tail]
  cases fraction with
  | nil =>
    rw [joinPoint]
    split_ifs
    · refine ⟨⟨whole, ['0'], 0⟩, ?_, ?_⟩
      · exact Numeral.read?_point hne hwhole (show ∀ c ∈ ['0'], c.isDigit = true by simp) htail rfl
      · have hzero : Nat.ofDigitChars 10 (whole ++ ['0']) 0 = 10 * Nat.ofDigitChars 10 whole 0 := by
          rw [Nat.ofDigitChars_append, Nat.ofDigitChars_cons, Nat.ofDigitChars_nil]
          rfl
        simp only [Numeral.value, hzero, List.append_nil, List.length_cons, List.length_nil]
        push_cast
        norm_num
        ring
    · refine ⟨⟨whole, [], 0⟩, ?_, rfl⟩
      have hread := Numeral.read?_whole hne hwhole htail rfl
      rwa [List.append_nil] at hread
  | cons c fraction =>
    refine ⟨⟨whole, c :: fraction, 0⟩, ?_, rfl⟩
    have hread := Numeral.read?_point hne hwhole hfraction htail rfl
    rwa [List.append_nil] at hread

/-- The parts of a decimal without an exponent. -/
theorem positional_spec (d : Digits) :
    d.positional.1 ≠ [] ∧ (∀ c ∈ d.positional.1, c.isDigit = true) ∧
      (∀ c ∈ d.positional.2, c.isDigit = true) ∧
        Numeral.value ⟨d.positional.1, d.positional.2, 0⟩ = d.value := by
  have hdigits : ∀ c ∈ naturalText d.coefficient, c.isDigit = true :=
    fun c hc => isDigit_of_mem_naturalText hc
  rw [Digits.positional]
  simp only
  split_ifs with hwhole hinside
  -- zeros behind the digits
  · refine ⟨by simp [naturalText_ne_nil], ?_, by simp, ?_⟩
    · intro c hc
      rcases List.mem_append.1 hc with hc | hc
      · exact hdigits c hc
      · exact isDigit_of_mem_replicate hc
    · have hexponent : (10 : ℚ) ^ d.exponent = 10 ^ d.exponent.toNat := by
        rw [← zpow_natCast, Int.toNat_of_nonneg hwhole]
      simp only [Numeral.value, List.append_nil, Nat.ofDigitChars_append, ofDigitChars_naturalText,
        Nat.ofDigitChars_replicate_zero, Digits.value, List.length_nil, hexponent]
      push_cast
      ring
  -- the point between digits
  · refine ⟨?_, fun c hc => hdigits c (List.mem_of_mem_take hc),
      fun c hc => hdigits c (List.mem_of_mem_drop hc), ?_⟩
    · rw [Ne, List.take_eq_nil_iff]
      simp only [naturalText_ne_nil, or_false]
      omega
    · refine Numeral.value_eq ?_ ?_
      · rw [List.take_append_drop, ofDigitChars_naturalText]
      · rw [List.length_drop]
        omega
  -- zeros between the point and the digits
  · refine ⟨by simp, by simp, ?_, ?_⟩
    · intro c hc
      rcases List.mem_append.1 hc with hc | hc
      · exact isDigit_of_mem_replicate hc
      · exact hdigits c hc
    · refine Numeral.value_eq ?_ ?_
      · rw [← List.append_assoc, ← List.replicate_one, List.replicate_append_replicate,
          Nat.ofDigitChars_append, Nat.ofDigitChars_replicate_zero, Nat.mul_zero,
          ofDigitChars_naturalText]
      · rw [List.length_append, List.length_replicate]
        omega

/-- An integer behind the letter of an exponent. -/
theorem readTail?_exponent (style : FloatStyle) (z : ℤ) :
    Numeral.readTail? ('e' :: ((if style.exponentSign && 0 ≤ z then ['+'] else []) ++
      integerText z)) = some z := by
  rw [Numeral.readTail?, if_pos (.inl rfl), Numeral.readExponent?, integerText]
  by_cases hz : z < 0
  · have hsign : (style.exponentSign && decide (0 ≤ z)) = false := by simp [hz]
    have habs : -(z.natAbs : ℤ) = z := by omega
    rw [hsign, if_neg Bool.false_ne_true, if_pos hz, List.nil_append, splitSign]
    simp only [readNatural?_naturalText]
    exact congrArg some habs
  · have habs : (z.natAbs : ℤ) = z := by omega
    have hsplit : splitSign ((if style.exponentSign && 0 ≤ z then ['+'] else []) ++
        naturalText z.natAbs) = (false, naturalText z.natAbs) := by
      split_ifs
      · rfl
      · exact splitSign_naturalText _
    rw [if_neg hz, hsplit]
    simp only [readNatural?_naturalText]
    exact congrArg some habs

/-- A decimal with an exponent. -/
theorem readsAs_scientific (style : FloatStyle) (d : Digits) :
    ReadsAs (style.scientific d) d.value := by
  have htail : ∀ cs, Numeral.Tail ('e' :: cs) := by simp [Numeral.Tail]
  have hexponent := readTail?_exponent style d.leading
  have hnumber := ofDigitChars_naturalText d.coefficient
  have hdigits : ∀ c ∈ naturalText d.coefficient, c.isDigit = true :=
    fun c hc => isDigit_of_mem_naturalText hc
  have hleading : d.leading = d.exponent + ((naturalText d.coefficient).length : ℤ) - 1 := rfl
  simp only [scientific, List.append_assoc, List.cons_append]
  rcases hc : naturalText d.coefficient with _ | ⟨c, _ | ⟨c', rest⟩⟩
  · exact absurd hc (naturalText_ne_nil _)
  · rw [hc] at hdigits hnumber hleading
    refine ⟨⟨[c], [], d.leading⟩, ?_, Numeral.value_eq hnumber (by simpa using hleading)⟩
    exact Numeral.read?_whole (by simp) hdigits (htail _) hexponent
  · rw [hc] at hdigits hnumber hleading
    refine ⟨⟨[c], c' :: rest, d.leading⟩, ?_, Numeral.value_eq hnumber ?_⟩
    · rw [List.forall_mem_cons] at hdigits
      have hfirst : ∀ x ∈ [c], x.isDigit = true := by simpa using hdigits.1
      exact Numeral.read?_point (by simp) hfirst hdigits.2 (htail _) hexponent
    · simp only [List.length_cons] at hleading ⊢
      omega

end FloatStyle

/-! ### Doubles -/

/-- The number stands for the magnitude: zero for zero, and otherwise a number that rounds to it. -/
def Binary.StandsFor (v : Binary) (q : ℚ) : Prop :=
  if v.mantissa = 0 then q = 0 else v.Covers q

section Doubles

variable {x y : Float} {q : ℚ}

/-- The magnitude of a double other than zero is that of a positive double. -/
theorem isDouble_ofFloat (h : (Binary.ofFloat x).mantissa ≠ 0) : (Binary.ofFloat x).IsDouble := by
  have hfraction : x.toBits.toNat % twoTo 52 < 2 ^ 52 := Nat.mod_lt _ (twoTo_pos 52)
  rw [Binary.ofFloat] at h ⊢
  simp only [show twoTo 52 = 2 ^ 52 from rfl] at *
  split_ifs at h ⊢
  · constructor <;> simp only at h ⊢ <;> omega
  · constructor <;> simp only <;> omega

/-- Bits are a sign, an exponent and a mantissa. -/
theorem eq_of_ofFloat_eq (hsign : x.toBits.toNat < twoTo 63 ↔ y.toBits.toNat < twoTo 63)
    (h : Binary.ofFloat x = Binary.ofFloat y) : x = y := by
  have hx := x.toBits.toNat_lt
  have hy := y.toBits.toNat_lt
  have hbits : x.toBits.toNat = y.toBits.toNat := by
    simp only [Binary.ofFloat, show twoTo 63 = 2 ^ 63 from rfl, show twoTo 52 = 2 ^ 52 from rfl,
      show twoTo 11 = 2 ^ 11 from rfl] at h hsign
    split_ifs at h <;> simp only [Binary.mk.injEq] at h <;> omega
  exact Float.toBits_inj.1 (UInt64.toNat_inj.1 hbits)

/-- There is one magnitude of zero. -/
theorem ofFloat_eq_of_mantissa_eq_zero (h : (Binary.ofFloat x).mantissa = 0) :
    Binary.ofFloat x = ⟨0, -1074⟩ := by
  have hpos := twoTo_pos 52
  simp only [Binary.ofFloat] at h ⊢
  split_ifs at h ⊢ <;> simp only at h
  · rw [h]
  · omega

/-- A number stands for one magnitude of a double. -/
theorem ofFloat_eq_of_standsFor (hx : (Binary.ofFloat x).StandsFor q)
    (hy : (Binary.ofFloat y).StandsFor q) : Binary.ofFloat x = Binary.ofFloat y := by
  rw [Binary.StandsFor] at hx hy
  split_ifs at hx hy with hzero hzero' hzero'
  · rw [ofFloat_eq_of_mantissa_eq_zero hzero, ofFloat_eq_of_mantissa_eq_zero hzero']
  · exact absurd hx (hy.pos (isDouble_ofFloat hzero')).ne'
  · exact absurd hy (hx.pos (isDouble_ofFloat hzero)).ne'
  · exact hx.unique hy (isDouble_ofFloat hzero) (isDouble_ofFloat hzero')

end Doubles

namespace FloatStyle

variable {x y : Float}

/-- **A written double** is a sign and a number that stands for its magnitude. -/
theorem readsAs_write (style : FloatStyle) (x : Float) :
    ∃ cs q, style.write x = (if x.toBits.toNat < twoTo 63 then [] else ['-']) ++ cs ∧
      ReadsAs cs q ∧ (Binary.ofFloat x).StandsFor q := by
  rw [write]
  simp only
  by_cases hzero : (Binary.ofFloat x).mantissa = 0
  · rw [if_pos hzero]
    refine ⟨_, _, rfl, readsAs_joinPoint style (by simp) (by simp) (by simp), ?_⟩
    have hvalue : Numeral.value ⟨['0'], [], 0⟩ = 0 := by
      rw [Numeral.value, show Nat.ofDigitChars 10 (['0'] ++ []) 0 = 0 from rfl, Nat.cast_zero,
        zero_mul]
    rwa [Binary.StandsFor, if_pos hzero]
  · have hcovers := Binary.shortest_covers (isDouble_ofFloat hzero) style.tie
    have hstands : (Binary.ofFloat x).StandsFor ((Binary.ofFloat x).shortest style.tie).value := by
      rwa [Binary.StandsFor, if_neg hzero]
    obtain ⟨hne, hwhole, hfraction, hvalue⟩ :=
      positional_spec ((Binary.ofFloat x).shortest style.tie)
    rw [if_neg hzero]
    by_cases hrange : style.least ≤ ((Binary.ofFloat x).shortest style.tie).leading ∧
        ((Binary.ofFloat x).shortest style.tie).leading ≤ style.greatest
    · rw [if_pos hrange]
      exact ⟨_, _, rfl, hvalue ▸ readsAs_joinPoint style hne hwhole hfraction, hstands⟩
    · rw [if_neg hrange]
      exact ⟨_, _, rfl, readsAs_scientific style _, hstands⟩

/-- Numbers behind signs. -/
theorem sign_append_inj {p p' : Prop} [Decidable p] [Decidable p'] {cs cs' : List Char} {q q' : ℚ}
    (hcs : ReadsAs cs q) (hcs' : ReadsAs cs' q')
    (h : (if p then [] else ['-']) ++ cs = (if p' then [] else ['-']) ++ cs') :
    (p ↔ p') ∧ cs = cs' := by
  split_ifs at h with hp hp' hp'
  · exact ⟨iff_of_true hp hp', h⟩
  · obtain rfl : cs = '-' :: cs' := h
    exact absurd hcs (not_readsAs_minus _ _)
  · obtain rfl : '-' :: cs = cs' := h
    exact absurd hcs' (not_readsAs_minus _ _)
  · exact ⟨iff_of_false hp hp', List.append_cancel_left h⟩

/-- No written double is a word, with or without a sign. -/
theorem write_ne_word (style : FloatStyle) (x : Float) {sign word : List Char}
    (hsign : sign = [] ∨ sign = ['-']) (hminus : word.head? ≠ some '-')
    (hword : Numeral.read? word = none) : style.write x ≠ sign ++ word := by
  intro h
  obtain ⟨cs, q, hx, hcs, -⟩ := style.readsAs_write x
  have hread : ¬ReadsAs word q := by
    rintro ⟨n, hn, -⟩
    rw [hword] at hn
    cases hn
  rw [hx] at h
  split_ifs at h <;> rcases hsign with rfl | rfl
  · obtain rfl : cs = word := h
    exact hread hcs
  · obtain rfl : cs = '-' :: word := h
    exact not_readsAs_minus _ _ hcs
  · obtain rfl : '-' :: cs = word := h
    exact hminus rfl
  · obtain rfl : cs = word := List.append_cancel_left h
    exact hread hcs

/-- **Doubles are told apart by their texts**, in any style. -/
theorem write_inj (style : FloatStyle) : style.write x = style.write y ↔ x = y := by
  constructor
  · intro h
    obtain ⟨cs, q, hx, hcs, hq⟩ := style.readsAs_write x
    obtain ⟨cs', q', hy, hcs', hq'⟩ := style.readsAs_write y
    rw [hx, hy] at h
    obtain ⟨hsign, rfl⟩ := sign_append_inj hcs hcs' h
    obtain rfl := hcs.unique hcs'
    exact eq_of_ofFloat_eq hsign (ofFloat_eq_of_standsFor hq hq')
  · rintro rfl
    rfl

end FloatStyle

/-! ### Infinite doubles -/

open Float.Model (UnpackedFloat)

/-- Stored doubles are told apart by their parts. -/
theorem eq_of_unpack_eq {x y : Float} (h : x.toModel.unpack = y.toModel.unpack) : x = y := by
  have hbits := (UnpackedFloat.unpack_inj_of_valid x.toModel.valid y.toModel.valid).1 h
  exact Float.toBits_inj.1 (UInt64.toBitVec_inj.1 hbits)

/-- The sign of an infinite double. -/
theorem exists_infinity {x : Float} (hnan : x.isNaN = false) (hfinite : x.isFinite = false) :
    ∃ sign, x.toModel.unpack = .infinity sign ∧ (x < 0 ↔ sign = .negative) := by
  have hzero : (0 : Float).toModel.unpack = .zero .positive := rfl
  have hnan' : x.toModel.unpack.isNaN = false := hnan
  have hfinite' : x.toModel.unpack.isFinite = false := hfinite
  have hnumber : x.isNaN = false ∧ (0 : Float).isNaN = false := ⟨hnan, rfl⟩
  rw [float_lt_iff, ← and_assoc, and_iff_right hnumber, hzero]
  rcases hx : x.toModel.unpack with sign | _ | _ | _ <;> rw [hx] at hnan' hfinite'
  · refine ⟨sign, rfl, ?_⟩
    cases sign <;> simp [place, Prod.Lex.toLex_lt_toLex]
  · cases hnan'
  · cases hfinite'
  · cases hfinite'

end TablePipeline
