import GridPuzzle.Timestamp

/-!
# Timestamps as written

A timestamp is a date, or a date and a time of day behind a letter or blanks. The time may have a
fraction of a second, and behind it an offset from the universal clock. Month, day, hour and the
hours of an offset have one or two digits; a date that stands alone and is not said to be one has to
have two for month and day.
-/

namespace GridPuzzle.Yaml

structure ClockTime where
  hour : Nat
  minute : Nat
  second : Nat
  fraction : List Char
  offset : Option Int

structure Stamp where
  year : Nat
  month : Nat
  day : Nat
  /-- Month and day have two digits each. -/
  isPadded : Bool
  time : Option ClockTime

namespace Stamp

def numberOf (digits : List Char) : Nat :=
  digits.foldl (fun n c ↦ 10 * n + (c.toNat - 0x30)) 0

/-- The digits at the start of a text, at most `most` of them and at least `least`, and the text
behind them. -/
def takeDigits? (least most : Nat) (s : List Char) : Option (List Char × List Char) :=
  let digits := (s.take most).takeWhile Char.isDigit
  if digits.length < least then none else some (digits, s.drop digits.length)

def digitsBehind? (mark : Char) (least most : Nat) : List Char → Option (List Char × List Char)
  | [] => none
  | c :: rest => if c == mark then takeDigits? least most rest else none

def isBlank (c : Char) : Bool := c == ' ' || c == '\t'

/-- An offset in minutes, which ends a text: a letter for none, or a sign, hours and maybe
minutes. -/
def readOffset? (s : List Char) : Option Int :=
  match s with
  | ['Z'] => some 0
  | sign :: rest => do
    guard (sign == '+' || sign == '-')
    let (hours, rest) ← takeDigits? 1 2 rest
    let (minutes, rest) ← if rest.isEmpty then some ([], []) else digitsBehind? ':' 2 2 rest
    guard rest.isEmpty
    let offset : Nat := numberOf hours * 60 + numberOf minutes
    return if sign == '-' then -(offset : Int) else offset
  | [] => none

def readTime? (s : List Char) : Option ClockTime := do
  let (hour, s) ← takeDigits? 1 2 s
  let (minute, s) ← digitsBehind? ':' 2 2 s
  let (second, s) ← digitsBehind? ':' 2 2 s
  let (fraction, s) :=
    if s.head? == some '.' then
      ((s.drop 1).takeWhile Char.isDigit, (s.drop 1).dropWhile Char.isDigit)
    else ([], s)
  let offset ← if s.isEmpty then some none else (readOffset? (s.dropWhile isBlank)).map some
  return ⟨numberOf hour, numberOf minute, numberOf second, fraction, offset⟩

/-- What separates a time of day from its date, and the text behind it. -/
def behindSeparator? : List Char → Option (List Char)
  | [] => none
  | c :: rest =>
    if c == 'T' || c == 't' then some rest
    else if isBlank c then some (rest.dropWhile isBlank)
    else none

def read? (s : List Char) : Option Stamp := do
  let (year, s) ← takeDigits? 4 4 s
  let (month, s) ← digitsBehind? '-' 1 2 s
  let (day, s) ← digitsBehind? '-' 1 2 s
  let time ← if s.isEmpty then some none else (behindSeparator? s).bind readTime? |>.map some
  return ⟨numberOf year, numberOf month, numberOf day, month.length == 2 && day.length == 2, time⟩

/-- The microseconds that a fraction of a second makes; digits beyond the sixth do not count. -/
def microseconds (fraction : List Char) : Nat :=
  let digits := fraction.take 6
  numberOf (digits ++ List.replicate (6 - digits.length) '0')

def date? (stamp : Stamp) : Option Date := Date.of? stamp.year stamp.month stamp.day

def moment? (date : Date) (time : ClockTime) : Option Moment :=
  Moment.of? date time.hour time.minute time.second (microseconds time.fraction) time.offset

end Stamp

/-- Whether a text is a timestamp without being said to be one. -/
def isStamp (s : List Char) : Bool :=
  match Stamp.read? s with
  | some stamp => stamp.isPadded || stamp.time.isSome
  | none => false

end GridPuzzle.Yaml
