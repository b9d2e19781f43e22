/-!
# Instants

Points of universal time, counted in microseconds from the start of the year 1 and kept
below the end of the year 9999. Adding a span of time fails when it leaves that range.

An instant is written as a date and a time of day in the proleptic Gregorian calendar,
with six digits of a second's fraction unless they are all zero; `ofText?` reads that
form back.
-/

namespace Passcode

def microsPerDay : Nat := 86400 * 1000000

/-- The number of days in the years 1 to 9999. -/
def calendarDays : Nat := 3652059

/-- A point of time in the years 1 to 9999. -/
structure Instant where
  micros : Nat
  inCalendar : micros < calendarDays * microsPerDay
deriving DecidableEq, Repr

namespace Instant

instance : LT Instant := ⟨fun s t => s.micros < t.micros⟩
instance : LE Instant := ⟨fun s t => s.micros ≤ t.micros⟩
instance (s t : Instant) : Decidable (s < t) := inferInstanceAs (Decidable (s.micros < t.micros))
instance (s t : Instant) : Decidable (s ≤ t) := inferInstanceAs (Decidable (s.micros ≤ t.micros))

/-- The instant so many microseconds after the start of the year 1. -/
def ofMicros? (n : Int) : Option Instant :=
  if h : 0 ≤ n ∧ n < calendarDays * microsPerDay then some ⟨n.toNat, by omega⟩ else none

/-- The instant so many microseconds later; earlier if the number is negative. -/
def addMicros? (t : Instant) (n : Int) : Option Instant := ofMicros? (t.micros + n)

theorem micros_of_addMicros? {s t : Instant} {n : Int} (h : s.addMicros? n = some t) :
    (t.micros : Int) = s.micros + n := by
  simp only [addMicros?, ofMicros?] at h
  split at h
  · next hn => simp only [Option.some.injEq] at h; subst h; exact Int.toNat_of_nonneg hn.1
  · cases h

/-! ## The calendar -/

def isLeap (year : Nat) : Bool := year % 4 == 0 && (year % 100 != 0 || year % 400 == 0)

def monthLengths (year : Nat) : List Nat :=
  [31, if isLeap year then 29 else 28, 31, 30, 31, 30, 31, 31, 30, 31, 30, 31]

def daysBeforeYear (year : Nat) : Nat :=
  let y := year - 1
  y * 365 + y / 4 - y / 100 + y / 400

/-- The month and the day of the month, both from 1, of a day of the year, from 0. -/
def monthAndDay (month : Nat) : List Nat → Nat → Nat × Nat
  | [], day => (month, day + 1)
  | length :: rest, day =>
    if day < length then (month, day + 1) else monthAndDay (month + 1) rest (day - length)

/-- A day of the calendar. -/
structure Date where
  year : Nat
  month : Nat
  day : Nat
deriving DecidableEq, Repr

/-- The date of a day counted from the first day of the year 1. Whole cycles of 400, 100,
4 and 1 years are taken off in turn; the last century and the last year of a cycle are
the longer ones. -/
def Date.ofDays (days : Nat) : Date :=
  let inCycle := days % 146097
  let century := min (inCycle / 36524) 3
  let inCentury := inCycle - century * 36524
  let inFour := inCentury % 1461
  let last := min (inFour / 365) 3
  let year := days / 146097 * 400 + century * 100 + inCentury / 1461 * 4 + last + 1
  let (month, day) := monthAndDay 1 (monthLengths year) (inFour - last * 365)
  ⟨year, month, day⟩

/-- The day of a date counted from the first day of the year 1. -/
def Date.toDays (d : Date) : Nat :=
  daysBeforeYear d.year + ((monthLengths d.year).take (d.month - 1)).foldl (· + ·) 0 + (d.day - 1)

example : Date.ofDays 0 = ⟨1, 1, 1⟩ ∧ Date.ofDays 3652058 = ⟨9999, 12, 31⟩ := by decide
example : Date.ofDays (Date.toDays ⟨2024, 2, 29⟩) = ⟨2024, 2, 29⟩ := by decide

/-! ## Text -/

/-- A number in at least so many decimal digits. -/
def padded (width n : Nat) : String :=
  let digits := Nat.repr n
  String.ofList (List.replicate (width - digits.length) '0') ++ digits

def date (t : Instant) : Date := Date.ofDays (t.micros / microsPerDay)

def secondOfDay (t : Instant) : Nat := t.micros % microsPerDay / 1000000

/-- The time of day in hours, minutes and seconds. -/
def clockText (t : Instant) : String :=
  let s := t.secondOfDay
  padded 2 (s / 3600) ++ ":" ++ padded 2 (s / 60 % 60) ++ ":" ++ padded 2 (s % 60)

def monthDayText (d : Date) : String := "-" ++ padded 2 d.month ++ "-" ++ padded 2 d.day

/-- An instant in full, to the microsecond where that matters. -/
def text (t : Instant) : String :=
  let fraction := t.micros % 1000000
  padded 4 t.date.year ++ monthDayText t.date ++ "T" ++ t.clockText
    ++ (if fraction = 0 then "" else "." ++ padded 6 fraction) ++ "+00:00"

/-- An instant as it is told to a person: to the second, the year without padding. -/
def notice (t : Instant) : String :=
  Nat.repr t.date.year ++ monthDayText t.date ++ " " ++ t.clockText ++ " UTC"

/-- The number that so many ASCII digits at the front write, and what follows them. -/
def number? : Nat → Nat → List Char → Option (Nat × List Char)
  | 0, n, cs => some (n, cs)
  | _ + 1, _, [] => none
  | width + 1, n, c :: cs =>
    if c.isDigit then number? width (10 * n + (c.toNat - '0'.toNat)) cs else none

def after? (c : Char) : List Char → Option (List Char)
  | [] => none
  | d :: cs => if d = c then some cs else none

def ofText? (s : String) : Option Instant := do
  let (year, cs) ← number? 4 0 s.toList
  let (month, cs) ← number? 2 0 (← after? '-' cs)
  let (day, cs) ← number? 2 0 (← after? '-' cs)
  let (hour, cs) ← number? 2 0 (← after? 'T' cs)
  let (minute, cs) ← number? 2 0 (← after? ':' cs)
  let (second, cs) ← number? 2 0 (← after? ':' cs)
  let (micro, cs) ← match cs with
    | '.' :: cs => number? 6 0 cs
    | cs => some (0, cs)
  let length ← (monthLengths year)[month - 1]?
  guard (String.ofList cs = "+00:00" ∧ 1 ≤ year ∧ 1 ≤ month ∧ 1 ≤ day ∧ day ≤ length
    ∧ hour < 24 ∧ minute < 60 ∧ second < 60)
  let days := Date.toDays ⟨year, month, day⟩
  ofMicros? ((((days * 24 + hour) * 60 + minute) * 60 + second) * 1000000 + micro : Nat)

end Instant

end Passcode
