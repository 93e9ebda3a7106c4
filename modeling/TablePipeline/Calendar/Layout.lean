import TablePipeline.Calendar.Date
import TablePipeline.Text.Blank

/-!
# Reading dates

A date is written in one of several layouts; the first that fits the whole text is taken.  In a
plain layout every number may have white space in front of it and fewer digits than usual.  A
timestamp with an offset is stricter: its fields have a fixed width.  Either way the date is the
one that is written, whatever the offset.

## Main definitions

* `LayoutItem`, `Layout` — the pieces of a layout
* `Layout.read?` — the date that a text spells in a layout
* `readTimestamp?` — the date of a timestamp with offset
* `readDate?` — the date of a text in any of the layouts
-/

namespace TablePipeline

/-- The numbers of a date with a time of day. -/
structure DateFields where
  year : Int := 0
  month : Nat := 1
  day : Nat := 1
  hour : Nat := 0
  minute : Nat := 0
  second : Nat := 0

/-- The date of the fields, if date and time of day exist.  A minute may have a sixty-first
second. -/
def DateFields.date? (f : DateFields) : Option Date :=
  if f.hour ≤ 23 ∧ f.minute ≤ 59 ∧ f.second ≤ 60 then Date.of? f.year f.month f.day else none

/-- A numbered part of a date or a time. -/
inductive DatePart
  | year
  | month
  | day
  | hour
  | minute
  | second
  deriving DecidableEq

/-- The fields with one part set. -/
def DateFields.set (f : DateFields) (part : DatePart) (z : Int) : DateFields :=
  match part with
  | .year => { f with year := z }
  | .month => { f with month := z.toNat }
  | .day => { f with day := z.toNat }
  | .hour => { f with hour := z.toNat }
  | .minute => { f with minute := z.toNat }
  | .second => { f with second := z.toNat }

/-- Reads as many digits as there are, at least `least` and at most `most`. -/
def readDigits? (least most : Nat) (cs : List Char) : Option (Nat × List Char) :=
  let digits := (cs.take most).takeWhile Char.isDigit
  if digits.length < least then none
  else some (Nat.ofDigitChars 10 digits 0, cs.drop digits.length)

/-- Reads an unbounded, non-empty run of digits. -/
def readAllDigits? (cs : List Char) : Option (Nat × List Char) :=
  readDigits? 1 cs.length cs

/-- Reads a year: up to four digits, or a sign and any number of digits. -/
def readYear? (cs : List Char) : Option (Int × List Char) :=
  match cs with
  | '-' :: rest => (readAllDigits? rest).map fun (n, rest) => (-(n : Int), rest)
  | '+' :: rest => (readAllDigits? rest).map fun (n, rest) => ((n : Int), rest)
  | cs => (readDigits? 1 4 cs).map fun (n, rest) => ((n : Int), rest)

/-- Reads the number of a part, with white space in front of it. -/
def readPart? (part : DatePart) (cs : List Char) : Option (Int × List Char) :=
  match part with
  | .year => readYear? (dropBlanks cs)
  | _ => (readDigits? 1 2 (dropBlanks cs)).map fun (n, rest) => ((n : Int), rest)

/-- Skips a fraction of a second: nothing, or a point and at least one digit. -/
def skipFraction? (cs : List Char) : Option (List Char) :=
  match cs with
  | '.' :: rest => (readAllDigits? rest).map (·.2)
  | cs => some cs

/-- A piece of a layout. -/
inductive LayoutItem
  | number (part : DatePart)
  | exactly (c : Char)
  | blanks
  | fraction
  deriving DecidableEq

/-- A layout of dates. -/
abbrev Layout := List LayoutItem

namespace Layout

/-- Reads the fields of a text that the layout spells completely. -/
def readFields? : Layout → DateFields → List Char → Option DateFields
  | [], f, [] => some f
  | [], _, _ :: _ => none
  | .number part :: items, f, cs =>
    (readPart? part cs).bind fun (z, rest) => readFields? items (f.set part z) rest
  | .exactly c :: items, f, cs =>
    match cs with
    | [] => none
    | d :: rest => if d = c then readFields? items f rest else none
  | .blanks :: items, f, cs => readFields? items f (dropBlanks cs)
  | .fraction :: items, f, cs => (skipFraction? cs).bind (readFields? items f ·)

/-- The date that a text spells in the layout. -/
def read? (layout : Layout) (cs : List Char) : Option Date :=
  (layout.readFields? {} cs).bind DateFields.date?

/-- Year, month and day with hyphens. -/
def hyphens : Layout :=
  [.number .year, .exactly '-', .number .month, .exactly '-', .number .day]

/-- Hours, minutes and seconds with colons. -/
def clock : Layout :=
  [.number .hour, .exactly ':', .number .minute, .exactly ':', .number .second]

/-- A date and a time with the letter `T` between them and an optional fraction. -/
def dateTime : Layout :=
  hyphens ++ [.exactly 'T'] ++ clock ++ [.fraction]

/-- A date and a time with white space between them. -/
def spacedDateTime : Layout :=
  hyphens ++ [.blanks] ++ clock

/-- Month, day and year with slashes. -/
def monthFirst : Layout :=
  [.number .month, .exactly '/', .number .day, .exactly '/', .number .year]

/-- Year, month and day with slashes. -/
def slashes : Layout :=
  [.number .year, .exactly '/', .number .month, .exactly '/', .number .day]

end Layout

/-! ## Timestamps with an offset -/

/-- Reads exactly `width` digits. -/
def readFixed? (width : Nat) (cs : List Char) : Option (Nat × List Char) :=
  readDigits? width width cs

/-- Skips a character that has to be one of `choices`. -/
def skipOneOf? (choices : List Char) : List Char → Option (List Char)
  | [] => none
  | c :: rest => if c ∈ choices then some rest else none

/-- Whether the text is an offset: `Z`, or a sign, hours and minutes of less than a day.  The sign
may be a typographic minus. -/
def isOffset (cs : List Char) : Bool :=
  match cs with
  | ['Z'] | ['z'] => true
  | c :: rest =>
    (c ∈ ['+', '-', '−']) &&
      (match readFixed? 2 rest with
        | some (hours, ':' :: rest) =>
          (match readFixed? 2 rest with
            | some (minutes, []) => hours ≤ 23 && minutes ≤ 59
            | _ => false)
        | _ => false)
  | [] => false

/-- The date of a timestamp: every field in full width, then the offset. -/
def readTimestamp? (cs : List Char) : Option Date := do
  let (year, cs) ← readFixed? 4 cs
  let cs ← skipOneOf? ['-'] cs
  let (month, cs) ← readFixed? 2 cs
  let cs ← skipOneOf? ['-'] cs
  let (day, cs) ← readFixed? 2 cs
  let cs ← skipOneOf? ['T', 't', ' '] cs
  let (hour, cs) ← readFixed? 2 cs
  let cs ← skipOneOf? [':'] cs
  let (minute, cs) ← readFixed? 2 cs
  let cs ← skipOneOf? [':'] cs
  let (second, cs) ← readFixed? 2 cs
  let cs ← skipFraction? cs
  if isOffset cs then
    DateFields.date? ⟨year, month, day, hour, minute, second⟩
  else none

/-! ## Any layout -/

/-- The date of a text, with white space around it: the first layout that fits is taken. -/
def readDate? (s : String) : Option Date :=
  let cs := trimBlanks s.toList
  (Layout.hyphens.read? cs)
    |>.or (Layout.dateTime.read? cs)
    |>.or (readTimestamp? cs)
    |>.or (Layout.spacedDateTime.read? cs)
    |>.or (Layout.monthFirst.read? cs)
    |>.or (Layout.slashes.read? cs)

end TablePipeline
