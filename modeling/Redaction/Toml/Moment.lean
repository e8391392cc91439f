/-
  Dates and times of a settings file.

  * `moment?` reads a date, a time, or both with or without the distance to the universal time;
  * `Date.isValid` holds of the days of the calendar, `daysOfMonth` counts them.
-/
import Redaction.Toml.Lexical
import Redaction.Value

namespace Redaction

/-! ## The calendar -/

/-- A year with a 29th of February. -/
def isLeapYear (year : Nat) : Bool := year % 4 = 0 && (year % 100 ≠ 0 || year % 400 = 0)

/-- How many days a month has. -/
def daysOfMonth (year month : Nat) : Nat :=
  if month = 2 then (if isLeapYear year then 29 else 28)
  else if month = 4 ∨ month = 6 ∨ month = 9 ∨ month = 11 then 30
  else 31

/-- Whether there is such a day. Years count from one. -/
def Date.isValid (d : Date) : Bool :=
  1 ≤ d.year && d.year ≤ 9999 && 1 ≤ d.month && d.month ≤ 12 && 1 ≤ d.day &&
    d.day ≤ daysOfMonth d.year d.month

namespace Toml

/-! ## Reading -/

/-- Reads a number of so many digits that is at most `most`. -/
def number? (width most : Nat) (t : Text) : Scan Nat :=
  let digits := t.take width
  if digits.length = width ∧ digits.all CodePoint.isAsciiDigit then
    let n := Text.digitsValue digits
    if n ≤ most then some (n, t.drop width) else none
  else none

/-- Passes over a sign. -/
def sign? (c : CodePoint) (t : Text) : Option Text :=
  if t.head? = some c then some (t.drop 1) else none

/-- The digits behind a point, if a point with digits comes first, as microseconds. Digits beyond
    the sixth do not count. -/
def microseconds (t : Text) : Nat × Text :=
  match sign? '.' t with
  | none => (0, t)
  | some rest =>
    match rest.span CodePoint.isAsciiDigit with
    | ([], _) => (0, t)
    | (digits, rest) =>
      let digits := digits.take 6
      (Text.digitsValue digits * tenTo (6 - digits.length), rest)

/-- Reads a time of the day. -/
def time? (t : Text) : Option (Time × Text) := do
  let (hour, t) ← number? 2 23 t
  let t ← sign? ':' t
  let (minute, t) ← number? 2 59 t
  let t ← sign? ':' t
  let (second, t) ← number? 2 59 t
  let (microsecond, t) := microseconds t
  some (⟨hour, minute, second, microsecond⟩, t)

/-- Reads a date. The day may be one that the month does not have. -/
def date? (t : Text) : Option (Date × Text) := do
  let (year, t) ← number? 4 9999 t
  let t ← sign? '-' t
  let (month, t) ← number? 2 12 t
  let t ← sign? '-' t
  let (day, t) ← number? 2 31 t
  if month = 0 ∨ day = 0 then none else some (⟨year, month, day⟩, t)

/-- Reads the distance to the universal time in minutes. -/
def offset? (t : Text) : Option (Int × Text) := do
  match t with
  | [] => none
  | c :: rest =>
    if c = 'Z' ∨ c = 'z' then some (0, rest)
    else if c = '+' ∨ c = '-' then
      let (hours, rest) ← number? 2 23 rest
      let rest ← sign? ':' rest
      let (minutes, rest) ← number? 2 59 rest
      let size : Int := hours * 60 + minutes
      some (if c = '-' then -size else size, rest)
    else none

/-- Reads the time behind a date, with the distance to the universal time if it follows. -/
def timeOfDate? (t : Text) : Option ((Time × Option Int) × Text) := do
  match t with
  | [] => none
  | c :: rest =>
    if c = 'T' ∨ c = 't' ∨ c = ' ' then
      let (time, rest) ← time? rest
      match offset? rest with
      | some (offset, rest) => some ((time, some offset), rest)
      | none => some ((time, none), rest)
    else none

/-- Reads a date and time. The outer result is there where the text starts like a date or a time,
    the inner one where the date is one of the calendar. -/
def moment? (t : Text) : Option (Scan Moment) :=
  match date? t with
  | some (date, rest) =>
    if ! date.isValid then some none
    else
      match timeOfDate? rest with
      | some ((time, offset), rest) => some (some (.dateTime date time offset, rest))
      | none => some (some (.date date, rest))
  | none =>
    match time? t with
    | some (time, rest) => some (some (.time time, rest))
    | none => none

end Toml

end Redaction
