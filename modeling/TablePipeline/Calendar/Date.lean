import TablePipeline.Number.Integer

/-!
# Calendar dates

Dates of the Gregorian calendar, carried on before its introduction, with a year zero.

## Main definitions

* `Date` — year, month and day
* `isLeapYear`, `daysInMonth` — the lengths of months
* `Date.of?` — the date of three numbers, if there is one
* `Date.text` — the date as year, month and day with hyphens
-/

namespace TablePipeline

/-- A day of the calendar. -/
structure Date where
  year : Int
  month : Nat
  day : Nat
  deriving DecidableEq

/-- Every fourth year is a leap year, except the hundreds that four hundred does not divide. -/
def isLeapYear (year : Int) : Bool :=
  year % 4 == 0 && (year % 100 != 0 || year % 400 == 0)

/-- The number of days of a month; zero where there is no such month. -/
def daysInMonth (year : Int) (month : Nat) : Nat :=
  match month with
  | 1 | 3 | 5 | 7 | 8 | 10 | 12 => 31
  | 4 | 6 | 9 | 11 => 30
  | 2 => if isLeapYear year then 29 else 28
  | _ => 0

namespace Date

/-- The first year of the calendar. -/
def leastYear : Int := -262143

/-- The last year of the calendar. -/
def greatestYear : Int := 262142

/-- Whether year, month and day are a day of the calendar. -/
abbrev Valid (year : Int) (month day : Nat) : Prop :=
  leastYear ≤ year ∧ year ≤ greatestYear ∧ 1 ≤ day ∧ day ≤ daysInMonth year month

/-- The day of the given year, month and day of the month. -/
def of? (year : Int) (month day : Nat) : Option Date :=
  if Valid year month day then some ⟨year, month, day⟩ else none

/-- The digits of a number, with zeros in front of it up to the width. -/
def padded (width n : Nat) : List Char :=
  let digits := naturalText n
  List.replicate (width - digits.length) '0' ++ digits

/-- The date as text.  Years of more than four digits and years before zero have a sign. -/
def text (d : Date) : String :=
  let year :=
    if d.year < 0 then '-' :: padded 4 d.year.natAbs
    else if d.year ≤ 9999 then padded 4 d.year.natAbs
    else '+' :: padded 4 d.year.natAbs
  String.ofList (year ++ '-' :: padded 2 d.month ++ '-' :: padded 2 d.day)

end Date

end TablePipeline
