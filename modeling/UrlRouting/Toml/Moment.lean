import UrlRouting.Toml.Digit
import UrlRouting.Toml.Reader

/-! # Dates and times

Days of the Gregorian calendar and times of day, alone or together, the latter with an optional
offset from universal time. A time has hours, minutes, and seconds, with an optional fraction; it
can fall into a leap second. -/

namespace UrlRouting.Toml

open Reader

/-- A day of the calendar. -/
structure Date where
  year : Nat
  month : Nat
  day : Nat
  deriving DecidableEq

/-- A time of day. -/
structure Time where
  hour : Nat
  minute : Nat
  second : Nat
  /-- the digits of the fraction of the second -/
  fraction : List Char
  deriving DecidableEq

/-- A date, a time, or both. -/
inductive Moment where
  | date (date : Date)
  | time (time : Time)
  | dateTime (date : Date) (time : Time)
  /-- with the minutes that the clock is ahead of universal time -/
  | offsetDateTime (date : Date) (time : Time) (offset : Int)
  deriving DecidableEq

/-- Whether a year has a leap day. -/
def isLeapYear (year : Nat) : Bool := year % 4 == 0 && (year % 100 != 0 || year % 400 == 0)

/-- The number of days of a month. -/
def daysIn (year month : Nat) : Nat :=
  if month = 2 then if isLeapYear year then 29 else 28
  else if month = 4 ∨ month = 6 ∨ month = 9 ∨ month = 11 then 30
  else 31

/-- A number of `n` digits between two bounds. -/
def field (n low high : Nat) : Reader Nat := do
  let value := valueOf 10 (← times (satisfy (isDigitOf 10)) n)
  if low ≤ value ∧ value ≤ high then return value else failure

/-- A day, as `year-month-day`. -/
def date : Reader Date := do
  let year ← field 4 0 9999
  char '-'
  let month ← field 2 1 12
  char '-'
  let day ← field 2 1 (daysIn year month)
  return ⟨year, month, day⟩

/-- A time of day, as `hour:minute:second.fraction`. -/
def time : Reader Time := do
  let hour ← field 2 0 23
  char ':'
  let minute ← field 2 0 59
  char ':'
  let second ← field 2 0 60
  let fraction ← char '.' *> run (isDigitOf 10) <|> pure []
  return ⟨hour, minute, second, fraction⟩

/-- The minutes that a clock is ahead of universal time, as `±hour:minute`. -/
def offset : Reader Int :=
  satisfy (fun c => c == 'Z' || c == 'z') *> pure 0 <|> do
    let sign ← char '+' *> pure 1 <|> char '-' *> pure (-1)
    let hour ← field 2 0 23
    char ':'
    let minute ← field 2 0 59
    return sign * ((60 * hour + minute : Nat) : Int)

/-- A moment. -/
def moment : Reader Moment :=
  (do
    let day ← date
    let clock? ← optional do
      discard (satisfy fun c => c == 'T' || c == 't' || c == ' ')
      return (← time, ← optional offset)
    return match clock? with
      | none => .date day
      | some (clock, none) => .dateTime day clock
      | some (clock, some minutes) => .offsetDateTime day clock minutes) <|>
  .time <$> time

end UrlRouting.Toml
