/-!
# Bounded integers and their text

Integers of cells and literals have 64 bits and a sign.  Arithmetic on them is done without bound
and the result is then narrowed, so that a result outside the range is seen and never wraps.  Counts
have 64 bits and no sign.

## Main definitions

* `narrow?` — the bounded integer of that value, if it is in range
* `readNatural?`, `readInteger?`, `readCount?` — reading decimal digits
* `integerText` — the decimal text of an integer
-/

namespace TablePipeline

/-- The least integer a cell can hold. -/
def leastInteger : Int := -9223372036854775808

/-- The greatest integer a cell can hold. -/
def greatestInteger : Int := 9223372036854775807

/-- Whether the integer fits a cell. -/
abbrev Fits (z : Int) : Prop := leastInteger ≤ z ∧ z ≤ greatestInteger

/-- The cell integer with the given value, if there is one. -/
def narrow? (z : Int) : Option Int64 :=
  if Fits z then some (Int64.ofInt z) else none

theorem toInt_ofInt_of_fits {z : Int} (h : Fits z) : (Int64.ofInt z).toInt = z := by
  obtain ⟨hl, hg⟩ := h
  simp only [leastInteger, greatestInteger] at hl hg
  exact Int64.toInt_ofInt_of_le (by omega) (by omega)

/-- Every cell integer is in range. -/
theorem fits_toInt (n : Int64) : Fits n.toInt := by
  have hl := Int64.le_toInt n
  have hg := Int64.toInt_lt n
  simp only [Fits, leastInteger, greatestInteger]
  omega

theorem narrow?_toInt (n : Int64) : narrow? n.toInt = some n := by
  rw [narrow?, if_pos (fits_toInt n), Int64.ofInt_toInt]

/-- Narrowing keeps the value, and succeeds exactly on the values in range. -/
theorem narrow?_eq_some_iff {z : Int} {n : Int64} : narrow? z = some n ↔ n.toInt = z := by
  constructor
  · intro h
    unfold narrow? at h
    split at h
    · rename_i hz
      rw [← Option.some.inj h, toInt_ofInt_of_fits hz]
    · simp at h
  · rintro rfl
    exact narrow?_toInt n

/-! ## Decimal text -/

/-- The value of a non-empty run of ASCII digits. -/
def readNatural? (cs : List Char) : Option Nat :=
  if !cs.isEmpty && cs.all Char.isDigit then some (Nat.ofDigitChars 10 cs 0) else none

/-- The greatest count. -/
def greatestCount : Nat := 18446744073709551615

/-- The count written with ASCII digits, if it is in range. -/
def readCount? (cs : List Char) : Option Nat :=
  (readNatural? cs).bind fun n => if n ≤ greatestCount then some n else none

/-- The sign in front of a number, and what follows it. -/
def splitSign : List Char → Bool × List Char
  | '-' :: rest => (true, rest)
  | '+' :: rest => (false, rest)
  | cs => (false, cs)

/-- The integer written with an optional sign and ASCII digits, if it is in range. -/
def readInteger? (cs : List Char) : Option Int64 :=
  let (negative, digits) := splitSign cs
  (readNatural? digits).bind fun n => narrow? (if negative then -(n : Int) else n)

/-- The decimal digits of a natural number, without leading zeros. -/
def naturalText (n : Nat) : List Char :=
  Nat.toDigits 10 n

/-- The decimal digits of a natural number, as they stand in a message. -/
def countText (n : Nat) : String :=
  String.ofList (naturalText n)

/-- The decimal text of an integer. -/
def integerText (z : Int) : List Char :=
  if z < 0 then '-' :: naturalText z.natAbs else naturalText z.natAbs

theorem readNatural?_naturalText (n : Nat) : readNatural? (naturalText n) = some n := by
  have hdigits : (naturalText n).all Char.isDigit = true := by
    simp only [List.all_eq_true]
    intro c hc
    exact Nat.isDigit_of_mem_toDigits (by decide) (by decide) hc
  have hne : (naturalText n).isEmpty = false := by
    simp [naturalText, List.isEmpty_eq_false_iff, Nat.toDigits_ne_nil]
  rw [readNatural?, hdigits, hne]
  simp only [naturalText, Bool.not_false, Bool.and_self, if_true]
  rw [Nat.ofDigitChars_toDigits (by decide) (by decide)]

theorem readCount?_naturalText {n : Nat} (h : n ≤ greatestCount) :
    readCount? (naturalText n) = some n := by
  rw [readCount?, readNatural?_naturalText, Option.bind_some, if_pos h]

theorem splitSign_naturalText (n : Nat) : splitSign (naturalText n) = (false, naturalText n) := by
  have hd : ∀ c ∈ naturalText n, c.isDigit = true := fun c hc =>
    Nat.isDigit_of_mem_toDigits (by decide) (by decide) hc
  match h : naturalText n with
  | [] => rfl
  | c :: rest =>
    have hc : c.isDigit = true := hd c (by simp [h])
    unfold splitSign
    split
    · rename_i heq; cases heq; simp at hc
    · rename_i heq; cases heq; simp at hc
    · rfl

/-- An integer in range reads back from its own text. -/
theorem readInteger?_integerText (n : Int64) : readInteger? (integerText n.toInt) = some n := by
  unfold integerText
  split
  · rename_i hneg
    have hval : -((n.toInt.natAbs : Nat) : Int) = n.toInt := by omega
    simp only [readInteger?, splitSign, readNatural?_naturalText, Option.bind_some, if_true, hval,
      narrow?_toInt]
  · rename_i hpos
    have hval : ((n.toInt.natAbs : Nat) : Int) = n.toInt := by omega
    simp only [readInteger?, splitSign_naturalText, readNatural?_naturalText, Option.bind_some,
      Bool.false_eq_true, if_false, hval, narrow?_toInt]

end TablePipeline
