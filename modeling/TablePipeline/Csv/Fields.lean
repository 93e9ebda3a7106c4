/-!
# Comma-separated records

The records of a text whose fields are separated by commas.  A record ends at a line feed or a
carriage return; empty lines are no records, so that the two together end one record only.  A field
whose very first character is a quote runs to the closing quote, commas and line ends included, and
a quote inside it is written twice; what follows the closing quote up to the next comma or line end
is taken as it stands.  A quote anywhere else is an ordinary character.

All marks are ASCII, so the text is split as bytes, before anything is known about its encoding.

## Main definitions

* `takeField`, `takeRecord` — one field and one record, with what follows
* `splitRecords` — all records of a text
-/

namespace TablePipeline

/-- The byte of the comma. -/
def commaByte : UInt8 := 0x2C

/-- The byte of the quote. -/
def quoteByte : UInt8 := 0x22

/-- Whether the byte ends a line. -/
def isLineEnd (b : UInt8) : Bool :=
  b == 0x0A || b == 0x0D

/-- Whether the byte ends a field that is not quoted. -/
def isFieldEnd (b : UInt8) : Bool :=
  b == commaByte || isLineEnd b

/-- Takes the bytes up to the next comma or line end. -/
def takeBare (bytes : List UInt8) : List UInt8 × List UInt8 :=
  (bytes.takeWhile fun b => !isFieldEnd b, bytes.dropWhile fun b => !isFieldEnd b)

/-- Takes a field behind its opening quote.  Without a closing quote it runs to the end. -/
def takeQuoted : List UInt8 → List UInt8 × List UInt8
  | [] => ([], [])
  | [b] => if b = quoteByte then ([], []) else ([b], [])
  | b :: c :: rest =>
    if b = quoteByte then
      if c = quoteByte then
        let (field, after) := takeQuoted rest
        (quoteByte :: field, after)
      else takeBare (c :: rest)
    else
      let (field, after) := takeQuoted (c :: rest)
      (b :: field, after)

/-- Takes a field. -/
def takeField (bytes : List UInt8) : List UInt8 × List UInt8 :=
  match bytes with
  | [] => ([], [])
  | b :: rest => if b = quoteByte then takeQuoted rest else takeBare (b :: rest)

theorem length_takeBare_snd (bytes : List UInt8) :
    (takeBare bytes).2.length ≤ bytes.length :=
  (List.dropWhile_sublist _).length_le

theorem length_takeQuoted_snd (bytes : List UInt8) :
    (takeQuoted bytes).2.length ≤ bytes.length := by
  fun_induction takeQuoted bytes with
  | case1 => exact Nat.le_refl _
  | case2 => exact Nat.zero_le _
  | case3 => exact Nat.zero_le _
  | case4 rest field after h ih =>
    rw [h] at ih
    exact Nat.le_trans ih (Nat.le_trans (Nat.le_succ _) (Nat.le_succ _))
  | case5 => exact Nat.le_trans (length_takeBare_snd _) (Nat.le_succ _)
  | case6 b c rest _ field after h ih =>
    rw [h] at ih
    exact Nat.le_trans ih (Nat.le_succ _)

theorem length_takeField_snd (bytes : List UInt8) :
    (takeField bytes).2.length ≤ bytes.length := by
  unfold takeField
  split
  · exact Nat.le_refl _
  · split
    · exact Nat.le_trans (length_takeQuoted_snd _) (Nat.le_succ _)
    · exact length_takeBare_snd _

/-- Takes the fields of a record and the byte that ends it. -/
def takeRecord (bytes : List UInt8) : List (List UInt8) × List UInt8 :=
  match _h : takeField bytes with
  | (field, []) => ([field], [])
  | (field, b :: rest) =>
    if b = commaByte then
      let (fields, after) := takeRecord rest
      (field :: fields, after)
    else ([field], rest)
termination_by bytes.length
decreasing_by
  have hle := length_takeField_snd bytes
  rw [_h] at hle
  exact hle

/-- A record leaves less than there was, unless nothing was there. -/
theorem length_takeRecord_snd {bytes : List UInt8} (hne : bytes ≠ []) :
    (takeRecord bytes).2.length < bytes.length := by
  have hpos : 0 < bytes.length := List.length_pos_iff.2 hne
  have hle := length_takeField_snd bytes
  induction hn : bytes.length using Nat.strongRecOn generalizing bytes with
  | _ n ih =>
    unfold takeRecord
    split
    · rename_i field h
      exact hn ▸ hpos
    · rename_i field b rest h
      rw [h] at hle
      simp only [List.length_cons] at hle
      split
      · cases rest with
        | nil => simpa [takeRecord, takeField] using hn ▸ hpos
        | cons c rest =>
          have hlt := ih (c :: rest).length (by omega) (List.cons_ne_nil _ _)
            (Nat.succ_pos _) (length_takeField_snd _) rfl
          simp only [List.length_cons] at hle hlt ⊢
          omega
      · simp only
        omega

/-- The fields of all records. -/
def splitRecords (bytes : List UInt8) : List (List (List UInt8)) :=
  match _h : bytes.dropWhile isLineEnd with
  | [] => []
  | b :: rest => (takeRecord (b :: rest)).1 :: splitRecords (takeRecord (b :: rest)).2
termination_by bytes.length
decreasing_by
  have hdrop : (bytes.dropWhile isLineEnd).length ≤ bytes.length :=
    (List.dropWhile_sublist _).length_le
  have hlt := length_takeRecord_snd (List.cons_ne_nil b rest)
  rw [_h] at hdrop
  omega

end TablePipeline
