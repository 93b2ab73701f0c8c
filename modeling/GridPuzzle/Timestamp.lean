import GridPuzzle.Text.Integer
import GridPuzzle.Text.Line

/-!
# Dates and moments

A date is a day of the calendar, and a moment is a date with a time of day, which may say by how
many minutes its clock is ahead of the universal one. Both have a literal form and a shown form.
Dates are ordered by the calendar. Moments are ordered if both of them or neither has an offset, and
then by what a universal clock shows.
-/

namespace GridPuzzle

/-- A natural number with zeros in front up to a width. -/
def padded (width n : Nat) : String :=
  let digits := Text.decimal n
  String.ofList (List.replicate (width - digits.length) '0' ++ digits)

structure Date where
  year : Nat
  month : Nat
  day : Nat
deriving DecidableEq, Inhabited

namespace Date

def isLeapYear (year : Nat) : Bool := year % 4 == 0 && (year % 100 != 0 || year % 400 == 0)

def daysIn (year month : Nat) : Nat :=
  if month == 2 then if isLeapYear year then 29 else 28
  else if [4, 6, 9, 11].contains month then 30
  else 31

/-- The day of a year of four digits, a month and a day, if there is one. -/
def of? (year month day : Nat) : Option Date :=
  if 1 ≤ year ∧ year ≤ 9999 ∧ 1 ≤ month ∧ month ≤ 12 ∧ 1 ≤ day ∧ day ≤ daysIn year month then
    some ⟨year, month, day⟩
  else none

/-- The number of days before a date since the first day of the first year. -/
def daysBefore (date : Date) : Nat :=
  let years := date.year - 1
  let months := (List.range (date.month - 1)).map fun month ↦ daysIn date.year (month + 1)
  365 * years + years / 4 - years / 100 + years / 400 + months.foldl (· + ·) 0 + (date.day - 1)

def literal (date : Date) : String :=
  "datetime.date(" ++ Text.join ", " ([date.year, date.month, date.day].map Text.natText) ++ ")"

def shown (date : Date) : String :=
  padded 4 date.year ++ "-" ++ padded 2 date.month ++ "-" ++ padded 2 date.day

end Date

/-- A date with a time of day. The offset is that of the clock in minutes. -/
structure Moment where
  date : Date
  hour : Nat
  minute : Nat
  second : Nat
  microsecond : Nat
  offset : Option Int
deriving DecidableEq, Inhabited

namespace Moment

/-- The moment of a date and a time of day, if there is one. An offset is less than a day. -/
def of? (date : Date) (hour minute second microsecond : Nat) (offset : Option Int) :
    Option Moment :=
  if hour < 24 ∧ minute < 60 ∧ second < 60 ∧ offset.all (·.natAbs < 24 * 60) then
    some ⟨date, hour, minute, second, microsecond, offset⟩
  else none

/-- The microseconds that a universal clock has counted since the first day of the first year. -/
def instant (t : Moment) : Int :=
  let minutes : Int := (t.date.daysBefore * 24 + t.hour) * 60 + t.minute - t.offset.getD 0
  (minutes * 60 + t.second) * 1000000 + t.microsecond

def isComparable (s t : Moment) : Bool := s.offset.isSome == t.offset.isSome

/-- The same instant, both with or both without an offset. -/
def same (s t : Moment) : Bool := s.isComparable t && s.instant == t.instant

/-- An offset in the literal form. -/
def offsetLiteral (offset : Int) : String :=
  let seconds := 60 * offset.natAbs
  if seconds == 0 then "datetime.timezone.utc"
  else
    let delta :=
      if offset < 0 then "days=-1, seconds=" ++ Text.natText (24 * 60 * 60 - seconds)
      else "seconds=" ++ Text.natText seconds
    "datetime.timezone(datetime.timedelta(" ++ delta ++ "))"

/-- The literal form, in which seconds and microseconds are left out from the end while they are
zero. -/
def literal (t : Moment) : String :=
  let behind :=
    if t.microsecond != 0 then [t.second, t.microsecond]
    else if t.second != 0 then [t.second]
    else []
  let parts := [t.date.year, t.date.month, t.date.day, t.hour, t.minute] ++ behind
  let offset :=
    match t.offset with
    | some minutes => ", tzinfo=" ++ offsetLiteral minutes
    | none => ""
  "datetime.datetime(" ++ Text.join ", " (parts.map Text.natText) ++ offset ++ ")"

def offsetShown (offset : Int) : String :=
  (if offset < 0 then "-" else "+") ++ padded 2 (offset.natAbs / 60) ++ ":"
    ++ padded 2 (offset.natAbs % 60)

def shown (t : Moment) : String :=
  let time := padded 2 t.hour ++ ":" ++ padded 2 t.minute ++ ":" ++ padded 2 t.second
  let fraction := if t.microsecond == 0 then "" else "." ++ padded 6 t.microsecond
  t.date.shown ++ " " ++ time ++ fraction ++ (t.offset.map offsetShown).getD ""

end Moment

end GridPuzzle
