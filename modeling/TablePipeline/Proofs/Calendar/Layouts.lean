import Mathlib.Data.List.Basic
import TablePipeline.Proofs.Calendar.Spellings

/-!
# Layouts do not shadow one another

A date is read in the first of six layouts that fits, and the numbers in a layout may be narrower
than they are usually written, so that a layout could claim what is spelled in one behind it and
find another date there.  It does not: of the texts in which dates are spelled with the full width
of their numbers each layout reads its own and refuses all others (`DateLayout.read?_write`), and so
the order in which the layouts are tried does not matter for these texts.

Three layouts begin with the date in hyphens, and so do four spellings; what decides between them is
what stands behind the date (`Layout.read?_yearFirst`).  The other two layouts have slashes.  In the
one with the month in front a year is too wide for the month; in the other a text with the month in
front is read as a year, a month and the first half of a day.

## Main definitions

* `DateLayout` — the layouts by name, and the order in which they are tried
* `DateSpelling.layout` — the layout of a spelling

## Main statements

* `DateLayout.read?_write` — every layout on every spelling
* `readDate?_spelled` — all layouts together
-/

namespace TablePipeline

/-! ### The layouts by name -/

/-- The layouts in which dates are read. -/
inductive DateLayout
  | hyphens
  | dateTime
  | timestamp
  | spacedDateTime
  | monthFirst
  | slashes
  deriving DecidableEq

namespace DateLayout

/-- The layouts in the order in which they are tried. -/
def all : List DateLayout :=
  [hyphens, dateTime, timestamp, spacedDateTime, monthFirst, slashes]

/-- The date of a text in one layout. -/
def read? : DateLayout → List Char → Option Date
  | hyphens => Layout.hyphens.read?
  | dateTime => Layout.dateTime.read?
  | timestamp => readTimestamp?
  | spacedDateTime => Layout.spacedDateTime.read?
  | monthFirst => Layout.monthFirst.read?
  | slashes => Layout.slashes.read?

theorem mem_all (layout : DateLayout) : layout ∈ all := by
  cases layout <;> decide

end DateLayout

/-- A date is that of the first layout that fits. -/
theorem readDate?_eq_findSome? (s : String) :
    readDate? s = DateLayout.all.findSome? (·.read? (trimBlanks s.toList)) := by
  have hcons : ∀ (layout : DateLayout) (layouts : List DateLayout) (cs : List Char),
      (layout :: layouts).findSome? (·.read? cs) =
        (layout.read? cs).or (layouts.findSome? (·.read? cs)) := by
    intro layout layouts cs
    cases h : layout.read? cs <;> simp [h]
  simp only [readDate?, DateLayout.all, hcons, List.findSome?_nil, Option.or_none, Option.or_assoc]
  rfl

/-- The layout of a spelling. -/
def DateSpelling.layout : DateSpelling → DateLayout
  | .hyphens => .hyphens
  | .dateTime _ _ => .dateTime
  | .timestamp _ _ _ => .timestamp
  | .spacedDateTime _ => .spacedDateTime
  | .monthFirst => .monthFirst
  | .slashes => .slashes

/-! ### Layouts that begin with the date in hyphens -/

/-- What stands behind the date in hyphens; nothing where a spelling does not begin with it. -/
def DateSpelling.rest? : DateSpelling → Option (List Char)
  | .hyphens => some []
  | .dateTime time fraction => some ('T' :: (time.write ++ fraction.write))
  | .timestamp time fraction offset =>
    some ('T' :: (time.write ++ (fraction.write ++ offset.write)))
  | .spacedDateTime time => some (' ' :: time.write)
  | .monthFirst => none
  | .slashes => none

theorem DateSpelling.write_eq_of_rest? {d : Date} {spelling : DateSpelling} {cs : List Char}
    (h : spelling.rest? = some cs) : spelling.write d = d.yearFirst '-' ++ cs := by
  cases spelling <;> cases h <;> simp [DateSpelling.write]

section Layouts

variable {d : Date} (hd : d.FourDigit)
include hd

/-- Such a layout reads what stands behind the date, and refuses the other spellings. -/
theorem Layout.read?_yearFirst (items : Layout) (spelling : DateSpelling) :
    (yearFirst '-' ++ items).read? (spelling.write d) =
      spelling.rest?.bind fun cs =>
        (items.readFields? (({} : DateFields).withDate d) cs).bind DateFields.date? := by
  cases h : spelling.rest? with
  | some cs =>
    rw [DateSpelling.write_eq_of_rest? h, Layout.read?, readFields?_yearFirst hd]
    rfl
  | none =>
    have hnone : (yearFirst '-' ++ items).readFields? {} (spelling.write d) = none := by
      cases spelling with
      | monthFirst => exact readFields?_yearFirst_monthFirst hd (by decide)
      | slashes =>
        rw [DateSpelling.write, ← List.append_nil (d.yearFirst '/')]
        exact readFields?_yearFirst_of_ne hd (by decide) (by decide)
      | hyphens | dateTime | timestamp | spacedDateTime => cases h
    rw [Layout.read?, hnone]
    rfl

/-- Only the date may stand there. -/
theorem Layout.read?_hyphens (spelling : DateSpelling) :
    hyphens.read? (spelling.write d) =
      if DateLayout.hyphens = spelling.layout then some d else none := by
  rw [show hyphens = yearFirst '-' ++ [] from rfl, read?_yearFirst hd]
  cases spelling with
  | hyphens => exact hd.date?_withDate
  | dateTime | timestamp | spacedDateTime | monthFirst | slashes => rfl

/-- Behind the date stand a letter, a time and perhaps a fraction, but no offset. -/
theorem Layout.read?_dateTime (spelling : DateSpelling) :
    dateTime.read? (spelling.write d) =
      if DateLayout.dateTime = spelling.layout then some d else none := by
  rw [show dateTime = yearFirst '-' ++ (.exactly 'T' :: (clock ++ [.fraction])) from rfl,
    read?_yearFirst hd]
  cases spelling with
  | dateTime time fraction =>
    rw [DateSpelling.rest?, Option.bind_some, readFields?_exactly, readFields?_clock,
      readFields?, skipFraction?_write_nil]
    exact hd.date?_withTime time
  | timestamp time fraction offset =>
    obtain ⟨c, cs, hwrite, -, -⟩ := exists_offset_eq_cons offset
    rw [DateSpelling.rest?, Option.bind_some, readFields?_exactly, readFields?_clock,
      readFields?, skipFraction?_write_offset, hwrite]
    rfl
  | hyphens | spacedDateTime | monthFirst | slashes => rfl

/-- Behind the date stands a time, with or without white space in front of it, but no letter. -/
theorem Layout.read?_spacedDateTime (spelling : DateSpelling) :
    spacedDateTime.read? (spelling.write d) =
      if DateLayout.spacedDateTime = spelling.layout then some d else none := by
  rw [show spacedDateTime = yearFirst '-' ++ (.blanks :: clock) from rfl, read?_yearFirst hd]
  cases spelling with
  | spacedDateTime time =>
    rw [DateSpelling.rest?, Option.bind_some, readFields?_blanks_clock]
    exact hd.date?_withTime time
  | dateTime | timestamp =>
    rw [DateSpelling.rest?, Option.bind_some, readFields?_blanks_letter]
    rfl
  | hyphens | monthFirst | slashes => rfl

/-! ### The other layouts -/

/-- An offset has to stand at the end. -/
theorem readTimestamp?_write (spelling : DateSpelling) :
    readTimestamp? (spelling.write d) =
      if DateLayout.timestamp = spelling.layout then some d else none := by
  cases spelling with
  | hyphens => exact readTimestamp?_yearFirst_nil hd
  | dateTime time fraction =>
    rw [DateSpelling.write, readTimestamp?_yearFirst hd (by decide), skipFraction?_write_nil]
    rfl
  | timestamp time fraction offset =>
    rw [DateSpelling.write, readTimestamp?_yearFirst hd (by decide), skipFraction?_write_offset,
      Option.bind_some, isOffset_write]
    rfl
  | spacedDateTime time =>
    rw [DateSpelling.write, ← List.append_nil time.write, readTimestamp?_yearFirst hd (by decide)]
    rfl
  | monthFirst => exact readTimestamp?_monthFirst hd
  | slashes => exact readTimestamp?_slashes hd

theorem Layout.read?_monthFirst (spelling : DateSpelling) :
    monthFirst.read? (spelling.write d) =
      if DateLayout.monthFirst = spelling.layout then some d else none := by
  have hyear : ∀ c cs, monthFirst.read? (d.yearFirst c ++ cs) = none := by
    intro c cs
    rw [Layout.read?, readFields?_monthFirst_yearFirst hd]
    rfl
  cases spelling with
  | hyphens | slashes =>
    rw [DateSpelling.write, ← List.append_nil (d.yearFirst _), hyear]
    rfl
  | dateTime | timestamp | spacedDateTime => exact hyear '-' _
  | monthFirst =>
    rw [DateSpelling.write, Layout.read?, readFields?_monthFirst hd]
    exact hd.date?_withDate

theorem Layout.read?_slashes (spelling : DateSpelling) :
    slashes.read? (spelling.write d) =
      if DateLayout.slashes = spelling.layout then some d else none := by
  have hslashes : slashes = yearFirst '/' ++ [] := rfl
  have hhyphens : ∀ cs, slashes.read? (d.yearFirst '-' ++ cs) = none := by
    intro cs
    rw [Layout.read?, hslashes, readFields?_yearFirst_of_ne hd (by decide) (by decide)]
    rfl
  cases spelling with
  | hyphens =>
    rw [DateSpelling.write, ← List.append_nil (d.yearFirst _), hhyphens]
    rfl
  | dateTime | timestamp | spacedDateTime => exact hhyphens _
  | monthFirst =>
    rw [DateSpelling.write, Layout.read?, readFields?_slashes_monthFirst hd]
    rfl
  | slashes =>
    rw [DateSpelling.write, Layout.read?, hslashes, ← List.append_nil (d.yearFirst _),
      readFields?_yearFirst hd]
    exact hd.date?_withDate

/-! ### All layouts -/

/-- Each layout reads the date from its own spellings and refuses the others. -/
theorem DateLayout.read?_write (layout : DateLayout) (spelling : DateSpelling) :
    layout.read? (spelling.write d) = if layout = spelling.layout then some d else none := by
  cases layout with
  | hyphens => exact Layout.read?_hyphens hd spelling
  | dateTime => exact Layout.read?_dateTime hd spelling
  | timestamp => exact readTimestamp?_write hd spelling
  | spacedDateTime => exact Layout.read?_spacedDateTime hd spelling
  | monthFirst => exact Layout.read?_monthFirst hd spelling
  | slashes => exact Layout.read?_slashes hd spelling

end Layouts

/-- Numbers that are narrower may fit two layouts. -/
example : Layout.monthFirst.read? ['1', '/', '2', '/', '3'] = some ⟨3, 1, 2⟩ ∧
    Layout.slashes.read? ['1', '/', '2', '/', '3'] = some ⟨1, 2, 3⟩ := by
  decide

/-- Where a single member answers, the first answer is that of this member. -/
theorem findSome?_eq_some_of_unique {α β : Type} [DecidableEq α] {f : α → Option β} {a : α} {b : β}
    {l : List α} (ha : a ∈ l) (h : ∀ x, f x = if x = a then some b else none) :
    l.findSome? f = some b := by
  induction l with
  | nil => cases ha
  | cons x l ih =>
    rw [List.findSome?_cons, h x]
    by_cases hx : x = a
    · rw [if_pos hx]
    · rw [if_neg hx]
      exact ih ((List.mem_cons.1 ha).resolve_left fun heq => hx heq.symm)

/-- **Layouts do not shadow one another.**  A day of the calendar with a year of four digits is read
from each of its spellings, whatever white space stands around it, and whatever time, fraction and
offset stand in it; and no layout but that of the spelling finds a date there. -/
theorem readDate?_spelled {d : Date} (hvalid : Date.Valid d.year d.month d.day)
    (hyear : 0 ≤ d.year ∧ d.year ≤ 9999) (spelling : DateSpelling) {before after : List Char}
    (hbefore : ∀ c ∈ before, isBlank c = true) (hafter : ∀ c ∈ after, isBlank c = true) :
    readDate? (String.ofList (before ++ (spelling.write d ++ after))) = some d ∧
      ∀ layout : DateLayout, layout.read? (spelling.write d) =
        if layout = spelling.layout then some d else none := by
  have hd : d.FourDigit := ⟨hvalid, hyear.1, hyear.2⟩
  have hread : ∀ layout : DateLayout, layout.read? (spelling.write d) =
      if layout = spelling.layout then some d else none :=
    fun layout => DateLayout.read?_write hd layout spelling
  obtain ⟨hfirst, hlast⟩ := spelling.visible_ends d
  refine ⟨?_, hread⟩
  rw [readDate?_eq_findSome?, String.toList_ofList,
    trimBlanks_append hbefore hafter (spelling.write_ne_nil d) hfirst hlast]
  exact findSome?_eq_some_of_unique (DateLayout.mem_all _) hread

/-- A leap day in a leap second, a day behind universal time but for a minute. -/
theorem readDate?_spelled_leapSecond :
    let spelling : DateSpelling :=
      .timestamp ⟨23, 59, 60, by decide, by decide, by decide⟩
        ⟨['1', '2', '3', '4', '5', '6', '7', '8', '9'], List.all_eq_true.1 (by decide)⟩
        (.shifted .minus 23 59 (by decide) (by decide))
    Date.Valid 2024 2 29 ∧ (0 ≤ (2024 : Int) ∧ (2024 : Int) ≤ 9999) ∧
      (∀ c ∈ ['\u3000', '\t'], isBlank c = true) ∧ (∀ c ∈ ['\n'], isBlank c = true) ∧
      readDate? "\u3000\t2024-02-29T23:59:60.123456789-23:59\n" = some ⟨2024, 2, 29⟩ ∧
      ∀ layout : DateLayout, layout.read? (spelling.write ⟨2024, 2, 29⟩) =
        if layout = .timestamp then some ⟨2024, 2, 29⟩ else none := by
  intro spelling
  have hdate : Date.Valid 2024 2 29 := by decide
  have hyear : 0 ≤ (2024 : Int) ∧ (2024 : Int) ≤ 9999 := by decide
  have hbefore : ∀ c ∈ ['\u3000', '\t'], isBlank c = true :=
    List.all_eq_true.1 (by decide)
  have hafter : ∀ c ∈ ['\n'], isBlank c = true := List.all_eq_true.1 (by decide)
  have htext : String.ofList (['\u3000', '\t'] ++ (spelling.write ⟨2024, 2, 29⟩ ++ ['\n'])) =
      "\u3000\t2024-02-29T23:59:60.123456789-23:59\n" := by
    rw [← String.toList_inj, String.toList_ofList]
    decide
  obtain ⟨hread, hlayouts⟩ :=
    readDate?_spelled (d := ⟨2024, 2, 29⟩) hdate hyear spelling hbefore hafter
  exact ⟨hdate, hyear, hbefore, hafter, htext ▸ hread, hlayouts⟩

end TablePipeline
