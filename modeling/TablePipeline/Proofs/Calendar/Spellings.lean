import Mathlib.Data.List.Basic
import TablePipeline.Proofs.Calendar.Reading

/-!
# Spelled dates

A date may be spelled out alone or with a time of day, and the time with a fraction and an offset.
All numbers have their full width, so each spelling of a date is one text, written down here piece
by piece and without a look at the layouts.  What stands behind a piece is left open.  A layout that
takes a piece goes on with what follows it (`Layout.readFields?_yearFirst`,
`Layout.readFields?_clock`, `skipFraction?_write`); one that expects the pieces of a date in another
order, or with another separator, refuses the text whatever follows.

A spelling begins and ends visibly, and so white space around it does not matter
(`DateSpelling.visible_ends`).

## Main definitions

* `Date.yearFirst`, `Date.monthFirst`, `ClockTime`, `Fraction`, `Offset` — the pieces
* `DateSpelling` — the ways to spell a date
* `Date.FourDigit` — the dates that can be spelled

## Main statements

* `Layout.readFields?_yearFirst`, `Layout.readFields?_yearFirst_of_ne` — year, month and day
* `readTimestamp?_yearFirst` — a date and a time with an offset
* `DateSpelling.visible_ends` — the ends of a spelling
-/

namespace TablePipeline

open Date (padded)

/-! ### The pieces -/

/-- The date as its year, month and day, in this order and with a separator between them. -/
def Date.yearFirst (separator : Char) (d : Date) : List Char :=
  padded 4 d.year.natAbs ++ separator :: (padded 2 d.month ++ separator :: padded 2 d.day)

/-- The date as its month, day and year with slashes. -/
def Date.monthFirst (d : Date) : List Char :=
  padded 2 d.month ++ '/' :: (padded 2 d.day ++ '/' :: padded 4 d.year.natAbs)

/-- A time of day.  A minute may have a sixty-first second. -/
structure ClockTime where
  hour : Nat
  minute : Nat
  second : Nat
  hour_le : hour ≤ 23
  minute_le : minute ≤ 59
  second_le : second ≤ 60

/-- The time as hours, minutes and seconds with colons. -/
def ClockTime.write (t : ClockTime) : List Char :=
  padded 2 t.hour ++ ':' :: (padded 2 t.minute ++ ':' :: padded 2 t.second)

theorem ClockTime.hour_lt (t : ClockTime) : t.hour < 10 ^ 2 :=
  Nat.lt_of_le_of_lt t.hour_le (by decide)

theorem ClockTime.minute_lt (t : ClockTime) : t.minute < 10 ^ 2 :=
  Nat.lt_of_le_of_lt t.minute_le (by decide)

theorem ClockTime.second_lt (t : ClockTime) : t.second < 10 ^ 2 :=
  Nat.lt_of_le_of_lt t.second_le (by decide)

/-- The digits of a fraction of a second; there are none where there is no fraction. -/
structure Fraction where
  digits : List Char
  isDigit : ∀ c ∈ digits, c.isDigit = true

/-- The digits behind a point, if there are any. -/
def Fraction.write (x : Fraction) : List Char :=
  if x.digits = [] then [] else '.' :: x.digits

/-- The direction of an offset. -/
inductive OffsetSign
  | plus
  | minus

def OffsetSign.symbol : OffsetSign → Char
  | .plus => '+'
  | .minus => '-'

/-- An offset from universal time of less than a day. -/
inductive Offset
  | utc
  | shifted (sign : OffsetSign) (hours minutes : Nat) (hours_le : hours ≤ 23)
      (minutes_le : minutes ≤ 59)

/-- The letter of universal time, or hours and minutes behind a sign. -/
def Offset.write : Offset → List Char
  | .utc => ['Z']
  | .shifted sign hours minutes _ _ => sign.symbol :: (padded 2 hours ++ ':' :: padded 2 minutes)

/-- The ways to spell a date. -/
inductive DateSpelling
  | hyphens
  | dateTime (time : ClockTime) (fraction : Fraction)
  | timestamp (time : ClockTime) (fraction : Fraction) (offset : Offset)
  | spacedDateTime (time : ClockTime)
  | monthFirst
  | slashes

/-- The date in a spelling. -/
def DateSpelling.write (d : Date) : DateSpelling → List Char
  | .hyphens => d.yearFirst '-'
  | .dateTime time fraction => d.yearFirst '-' ++ 'T' :: (time.write ++ fraction.write)
  | .timestamp time fraction offset =>
    d.yearFirst '-' ++ 'T' :: (time.write ++ (fraction.write ++ offset.write))
  | .spacedDateTime time => d.yearFirst '-' ++ ' ' :: time.write
  | .monthFirst => d.monthFirst
  | .slashes => d.yearFirst '/'

/-! ### Dates of four digits -/

/-- A day of the calendar whose year is written with four digits and no sign. -/
structure Date.FourDigit (d : Date) : Prop where
  valid : Date.Valid d.year d.month d.day
  nonneg : 0 ≤ d.year
  le : d.year ≤ 9999

theorem daysInMonth_le (year : Int) (month : Nat) : daysInMonth year month ≤ 31 := by
  unfold daysInMonth
  split
  case h_12 => split <;> omega
  all_goals omega

theorem month_le_of_daysInMonth_pos {year : Int} {month : Nat} (h : 0 < daysInMonth year month) :
    month ≤ 12 := by
  unfold daysInMonth at h
  split at h <;> omega

namespace Date.FourDigit

variable {d : Date} (hd : d.FourDigit)
include hd

theorem natAbs_year : ((d.year.natAbs : Nat) : Int) = d.year :=
  Int.natAbs_of_nonneg hd.nonneg

theorem year_lt : d.year.natAbs < 10 ^ 4 := by
  have hyear := hd.natAbs_year
  have hle := hd.le
  omega

theorem month_lt : d.month < 10 ^ 2 := by
  obtain ⟨-, -, hpos, hday⟩ := hd.valid
  have hmonth := month_le_of_daysInMonth_pos (Nat.lt_of_lt_of_le hpos hday)
  omega

theorem day_lt : d.day < 10 ^ 2 := by
  obtain ⟨-, -, -, hday⟩ := hd.valid
  have hdays := daysInMonth_le d.year d.month
  omega

end Date.FourDigit

/-- The fields with year, month and day of a date. -/
def DateFields.withDate (f : DateFields) (d : Date) : DateFields :=
  { f with year := d.year, month := d.month, day := d.day }

/-- The fields with hour, minute and second of a time. -/
def DateFields.withTime (f : DateFields) (t : ClockTime) : DateFields :=
  { f with hour := t.hour, minute := t.minute, second := t.second }

theorem Date.FourDigit.date?_withTime {d : Date} (hd : d.FourDigit) (t : ClockTime) :
    ((({} : DateFields).withDate d).withTime t).date? = some d := by
  have htime : t.hour ≤ 23 ∧ t.minute ≤ 59 ∧ t.second ≤ 60 :=
    ⟨t.hour_le, t.minute_le, t.second_le⟩
  exact (if_pos htime).trans (if_pos hd.valid)

theorem Date.FourDigit.date?_withDate {d : Date} (hd : d.FourDigit) :
    (({} : DateFields).withDate d).date? = some d :=
  hd.date?_withTime ⟨0, 0, 0, by decide, by decide, by decide⟩

/-! ### Layouts on the pieces -/

namespace Layout

variable {d : Date} {t : ClockTime} {items : Layout} {f : DateFields} {c c' : Char}
  {cs : List Char}

/-- Year, month and day with a separator between them. -/
def yearFirst (separator : Char) : Layout :=
  [.number .year, .exactly separator, .number .month, .exactly separator, .number .day]

section Dates

variable (hd : d.FourDigit)
include hd

theorem readFields?_year :
    readFields? (.number .year :: items) f (padded 4 d.year.natAbs ++ cs) =
      readFields? items (f.set .year d.year) cs := by
  rw [readFields?_number (w := 4) rfl hd.year_lt, hd.natAbs_year]

theorem readFields?_month :
    readFields? (.number .month :: items) f (padded 2 d.month ++ cs) =
      readFields? items (f.set .month d.month) cs :=
  readFields?_number rfl hd.month_lt

theorem readFields?_day :
    readFields? (.number .day :: items) f (padded 2 d.day ++ cs) =
      readFields? items (f.set .day d.day) cs :=
  readFields?_number rfl hd.day_lt

theorem readFields?_yearFirst :
    readFields? (yearFirst c ++ items) f (d.yearFirst c ++ cs) =
      readFields? items (f.withDate d) cs := by
  simp only [yearFirst, Date.yearFirst, List.cons_append, List.nil_append, List.append_assoc]
  rw [readFields?_year hd, readFields?_exactly, readFields?_month hd, readFields?_exactly,
    readFields?_day hd]
  rfl

theorem readFields?_monthFirst :
    readFields? monthFirst f d.monthFirst = some (f.withDate d) := by
  rw [monthFirst, Date.monthFirst, ← List.append_nil (padded 4 _), readFields?_month hd,
    readFields?_exactly, readFields?_day hd, readFields?_exactly, readFields?_year hd]
  rfl

/-- The year is read, but behind it stands another separator. -/
theorem readFields?_yearFirst_of_ne (hne : c' ≠ c) (hdigit : c'.isDigit = false) :
    readFields? (yearFirst c ++ items) f (d.yearFirst c' ++ cs) = none := by
  simp only [yearFirst, Date.yearFirst, List.cons_append, List.nil_append, List.append_assoc]
  exact readFields?_other_separator (by decide) (by decide) hd.year_lt (by simpa [EndsNumber])
    (by simpa)

/-- The month is read for the year, but behind it stands another separator. -/
theorem readFields?_yearFirst_monthFirst (hne : '/' ≠ c) :
    readFields? (yearFirst c ++ items) f d.monthFirst = none := by
  simp only [yearFirst, Date.monthFirst, List.cons_append, List.nil_append]
  exact readFields?_other_separator (by decide) (by decide) hd.month_lt (by simp [EndsNumber])
    (by simpa)

/-- The year is too wide for a month. -/
theorem readFields?_monthFirst_yearFirst :
    readFields? monthFirst f (d.yearFirst c ++ cs) = none := by
  simp only [Date.yearFirst, List.append_assoc]
  refine readFields?_wide (by decide) hd.year_lt fun f rest hrest => ?_
  refine readFields?_exactly_of_head? fun hhead => hrest ?_
  simp [EndsNumber, hhead]

/-- With the same separator month and day are read for year and month, and then the year is too wide
for a day. -/
theorem readFields?_slashes_monthFirst : readFields? slashes f d.monthFirst = none := by
  have hmonth : readPart? .year d.monthFirst =
      some ((d.month : Int), '/' :: (padded 2 d.day ++ '/' :: padded 4 d.year.natAbs)) :=
    readPart?_padded (by decide) (by decide) hd.month_lt (Or.inr (by simp [EndsNumber]))
  have hday : readPart? .month (padded 2 d.day ++ '/' :: padded 4 d.year.natAbs) =
      some ((d.day : Int), '/' :: padded 4 d.year.natAbs) :=
    readPart?_padded (by decide) (by decide) hd.day_lt (Or.inl rfl)
  rw [slashes, readFields?_number_of_readPart? hmonth, readFields?_exactly,
    readFields?_number_of_readPart? hday, readFields?_exactly, ← List.append_nil (padded 4 _)]
  refine readFields?_wide (by decide) hd.year_lt fun f rest hrest => ?_
  cases rest with
  | nil => exact absurd (by simp [EndsNumber]) hrest
  | cons c rest => rfl

end Dates

theorem readFields?_clock :
    readFields? (clock ++ items) f (t.write ++ cs) = readFields? items (f.withTime t) cs := by
  simp only [clock, ClockTime.write, List.cons_append, List.nil_append, List.append_assoc]
  rw [readFields?_number (w := 2) rfl t.hour_lt, readFields?_exactly,
    readFields?_number (w := 2) rfl t.minute_lt, readFields?_exactly,
    readFields?_number (w := 2) rfl t.second_lt]
  rfl

theorem readFields?_blanks_clock :
    readFields? (.blanks :: clock) f (' ' :: t.write) = some (f.withTime t) := by
  have hdrop : dropBlanks (' ' :: t.write) = t.write :=
    dropBlanks_digits (fun _ => isDigit_of_mem_padded) (padded_ne_nil 2 t.hour)
  rw [readFields?, hdrop, ← List.append_nil clock, ← List.append_nil t.write, readFields?_clock,
    readFields?]

/-- A letter stands where the hour should. -/
theorem readFields?_blanks_letter : readFields? (.blanks :: clock) f ('T' :: cs) = none := by
  have hdrop : dropBlanks ('T' :: cs) = 'T' :: cs := rfl
  have hhour : readPart? .hour ('T' :: cs) = none :=
    readPart?_eq_none (by decide) (by simp [EndsNumber, hdrop])
  rw [readFields?, hdrop, clock, readFields?, hhour]
  rfl

end Layout

/-! ### Fractions and offsets -/

section Parts

variable {x : Fraction} {offset : Offset} {w n : Nat} {c : Char} {choices cs : List Char}

theorem skipFraction?_write (hend : EndsNumber cs) (hpoint : cs.head? ≠ some '.') :
    skipFraction? (x.write ++ cs) = some cs := by
  by_cases hdigits : x.digits = []
  · rw [Fraction.write, if_pos hdigits, List.nil_append]
    cases cs with
    | nil => rfl
    | cons c cs =>
      rw [skipFraction?.eq_2]
      rintro rest hrest
      cases hrest
      exact hpoint rfl
  · have hread : readAllDigits? (x.digits ++ cs) = some (Nat.ofDigitChars 10 x.digits 0, cs) :=
      readDigits?_append x.isDigit (List.length_pos_iff.2 hdigits) (by simp) (Or.inr hend)
    rw [Fraction.write, if_neg hdigits, List.cons_append, skipFraction?, hread]
    rfl

theorem skipFraction?_write_nil : skipFraction? x.write = some [] := by
  have hread : skipFraction? (x.write ++ []) = some [] :=
    skipFraction?_write (by simp [EndsNumber]) (by simp)
  rwa [List.append_nil] at hread

/-- An offset begins with a character that does not continue a fraction. -/
theorem exists_offset_eq_cons (offset : Offset) :
    ∃ c cs, offset.write = c :: cs ∧ c.isDigit = false ∧ c ≠ '.' := by
  cases offset with
  | utc => exact ⟨'Z', [], rfl, by decide, by decide⟩
  | shifted sign hours minutes hhours hminutes =>
    exact ⟨sign.symbol, _, rfl, by cases sign <;> decide, by cases sign <;> decide⟩

theorem skipFraction?_write_offset :
    skipFraction? (x.write ++ offset.write) = some offset.write := by
  obtain ⟨c, cs, hwrite, hdigit, hpoint⟩ := exists_offset_eq_cons offset
  exact skipFraction?_write (by simpa [EndsNumber, hwrite]) (by simpa [hwrite])

theorem readFixed?_padded (hw : 0 < w) (hn : n < 10 ^ w) :
    readFixed? w (padded w n ++ cs) = some (n, cs) :=
  readDigits?_padded hw hn (Nat.le_refl _) (Nat.le_refl _) (Or.inl rfl)

theorem skipOneOf?_cons (h : c ∈ choices) : skipOneOf? choices (c :: cs) = some cs :=
  if_pos h

theorem isOffset_write (offset : Offset) : isOffset offset.write = true := by
  cases offset with
  | utc => rfl
  | shifted sign hours minutes hhours hminutes =>
    have hread : readFixed? 2 (padded 2 hours ++ ':' :: padded 2 minutes) =
        some (hours, ':' :: padded 2 minutes) := readFixed?_padded (by decide) (by omega)
    have hread' : readFixed? 2 (padded 2 minutes ++ []) = some (minutes, []) :=
      readFixed?_padded (by decide) (by omega)
    rw [List.append_nil] at hread'
    cases sign <;> simp [Offset.write, OffsetSign.symbol, isOffset, hread, hread', hhours, hminutes]

end Parts

/-! ### Timestamps -/

section Timestamps

variable {d : Date} (hd : d.FourDigit) {t : ClockTime} {c : Char} {cs : List Char}
include hd

/-- Behind date and time a fraction may stand, and an offset has to. -/
theorem readTimestamp?_yearFirst (hc : c ∈ ['T', 't', ' ']) :
    readTimestamp? (d.yearFirst '-' ++ c :: (t.write ++ cs)) =
      (skipFraction? cs).bind fun rest => if isOffset rest then some d else none := by
  have hdate :
      DateFields.date? ⟨(d.year.natAbs : Nat), d.month, d.day, t.hour, t.minute, t.second⟩ =
        some d := by
    rw [hd.natAbs_year]
    exact hd.date?_withTime t
  simp only [readTimestamp?, Date.yearFirst, ClockTime.write, List.append_assoc, List.cons_append,
    Option.bind_eq_bind, Option.bind_some, readFixed?_padded (w := 4) (by decide) hd.year_lt,
    readFixed?_padded (w := 2) (by decide) hd.month_lt,
    readFixed?_padded (w := 2) (by decide) hd.day_lt,
    readFixed?_padded (w := 2) (by decide) t.hour_lt,
    readFixed?_padded (w := 2) (by decide) t.minute_lt,
    readFixed?_padded (w := 2) (by decide) t.second_lt,
    skipOneOf?_cons hc, skipOneOf?_cons List.mem_cons_self, hdate]

theorem readTimestamp?_yearFirst_nil : readTimestamp? (d.yearFirst '-') = none := by
  rw [← List.append_nil (d.yearFirst '-')]
  simp only [readTimestamp?, Date.yearFirst, List.append_assoc, List.cons_append,
    Option.bind_eq_bind, Option.bind_some, readFixed?_padded (w := 4) (by decide) hd.year_lt,
    readFixed?_padded (w := 2) (by decide) hd.month_lt,
    readFixed?_padded (w := 2) (by decide) hd.day_lt, skipOneOf?_cons List.mem_cons_self]
  rfl

theorem readTimestamp?_slashes : readTimestamp? (d.yearFirst '/') = none := by
  simp only [readTimestamp?, Date.yearFirst, readFixed?_padded (w := 4) (by decide) hd.year_lt]
  rfl

/-- The month is too short for a year of fixed width. -/
theorem readTimestamp?_monthFirst : readTimestamp? d.monthFirst = none := by
  have hyear : readFixed? 4 d.monthFirst = none := by
    have hlength : (padded 2 d.month).length = 2 := length_padded (by decide) hd.month_lt
    exact readDigits?_append_of_short (fun _ => isDigit_of_mem_padded) (by omega) (by omega)
      (by simp [EndsNumber])
  simp only [readTimestamp?, hyear]
  rfl

end Timestamps

/-! ### The ends of spellings -/

section Ends

variable {d : Date} {spelling : DateSpelling}

theorem visible_padded (w n : Nat) : ∀ c ∈ padded w n, isBlank c = false :=
  fun _ hc => isBlank_of_isDigit (isDigit_of_mem_padded hc)

theorem visible_yearFirst {separator : Char} (h : isBlank separator = false) :
    ∀ c ∈ d.yearFirst separator, isBlank c = false := by
  simp only [Date.yearFirst, List.forall_mem_append, List.forall_mem_cons]
  exact ⟨visible_padded _ _, h, visible_padded _ _, h, visible_padded _ _⟩

theorem visible_monthFirst : ∀ c ∈ d.monthFirst, isBlank c = false := by
  simp only [Date.monthFirst, List.forall_mem_append, List.forall_mem_cons]
  exact ⟨visible_padded _ _, by decide, visible_padded _ _, by decide, visible_padded _ _⟩

theorem ClockTime.visible_write (t : ClockTime) : ∀ c ∈ t.write, isBlank c = false := by
  simp only [ClockTime.write, List.forall_mem_append, List.forall_mem_cons]
  exact ⟨visible_padded _ _, by decide, visible_padded _ _, by decide, visible_padded _ _⟩

theorem Fraction.visible_write (x : Fraction) : ∀ c ∈ x.write, isBlank c = false := by
  rw [Fraction.write]
  split
  · simp
  · simp only [List.forall_mem_cons]
    exact ⟨by decide, fun c hc => isBlank_of_isDigit (x.isDigit c hc)⟩

theorem Offset.visible_write (offset : Offset) : ∀ c ∈ offset.write, isBlank c = false := by
  cases offset with
  | utc => exact List.forall_mem_singleton.2 (by decide)
  | shifted sign hours minutes hhours hminutes =>
    simp only [Offset.write, List.forall_mem_append, List.forall_mem_cons]
    exact ⟨by cases sign <;> decide, visible_padded _ _, by decide, visible_padded _ _⟩

/-- There is white space in a spelling only in front of a time that a blank separates. -/
theorem DateSpelling.visible_write (h : ∀ time, spelling ≠ .spacedDateTime time) :
    ∀ c ∈ spelling.write d, isBlank c = false := by
  have hdate : ∀ c ∈ d.yearFirst '-', isBlank c = false := visible_yearFirst (by decide)
  have hletter : isBlank 'T' = false := by decide
  cases spelling with
  | hyphens => exact hdate
  | dateTime time fraction =>
    simp only [DateSpelling.write, List.forall_mem_append, List.forall_mem_cons]
    exact ⟨hdate, hletter, time.visible_write, fraction.visible_write⟩
  | timestamp time fraction offset =>
    simp only [DateSpelling.write, List.forall_mem_append, List.forall_mem_cons]
    exact ⟨hdate, hletter, time.visible_write, fraction.visible_write, offset.visible_write⟩
  | spacedDateTime time => exact absurd rfl (h time)
  | monthFirst => exact visible_monthFirst
  | slashes => exact visible_yearFirst (by decide)

/-- A spelling begins and ends with characters that are no white space. -/
theorem DateSpelling.visible_ends (spelling : DateSpelling) (d : Date) :
    (∀ c ∈ (spelling.write d).head?, isBlank c = false) ∧
      ∀ c ∈ (spelling.write d).getLast?, isBlank c = false := by
  by_cases h : ∃ time, spelling = .spacedDateTime time
  · obtain ⟨time, rfl⟩ := h
    have hdate : d.yearFirst '-' ≠ [] := by simp [Date.yearFirst]
    have htime : time.write ≠ [] := by simp [ClockTime.write]
    rw [DateSpelling.write, List.head?_append_of_ne_nil _ hdate, List.append_cons,
      List.getLast?_append_of_ne_nil _ htime]
    exact ⟨fun c hc => visible_yearFirst (by decide) c (List.mem_of_mem_head? hc),
      fun c hc => time.visible_write c (List.mem_of_mem_getLast? hc)⟩
  · have hall : ∀ c ∈ spelling.write d, isBlank c = false :=
      DateSpelling.visible_write fun time heq => h ⟨time, heq⟩
    exact ⟨fun c hc => hall c (List.mem_of_mem_head? hc),
      fun c hc => hall c (List.mem_of_mem_getLast? hc)⟩

theorem DateSpelling.write_ne_nil (spelling : DateSpelling) (d : Date) :
    spelling.write d ≠ [] := by
  cases spelling <;> simp [DateSpelling.write, Date.yearFirst, Date.monthFirst]

end Ends

end TablePipeline
