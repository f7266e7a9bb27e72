/-!
# Timestamps

A date and a time of day to the microsecond, in the Gregorian calendar of the years 1 to 9999, with
or without an offset from UTC.

## Main definitions

* `Clock`: the fields of a timestamp, and `Clock.Valid`: those that name a moment;
* `Timestamp`: a valid clock reading;
* `Timestamp.same`: do two timestamps name the same moment?
-/

namespace Rulebook

/-! ### Calendar -/

/-- Is a year a leap year? -/
def isLeap (year : Nat) : Bool := year % 4 == 0 && (year % 100 != 0 || year % 400 == 0)

/-- The number of days in a month. -/
def daysInMonth (year month : Nat) : Nat :=
  if month = 2 then if isLeap year then 29 else 28
  else if month = 4 ∨ month = 6 ∨ month = 9 ∨ month = 11 then 30
  else 31

/-- The number of days in the years before a year. -/
def daysBeforeYear (year : Nat) : Nat :=
  let years := year - 1
  years * 365 + years / 4 - years / 100 + years / 400

/-- The number of days in the months of a year before a month. -/
def daysBeforeMonth (year month : Nat) : Nat :=
  (List.range (month - 1)).foldl (fun days m => days + daysInMonth year (m + 1)) 0

/-- The number of a day, counted from 1 for the first day of year 1, a Monday. -/
def dayNumber (year month day : Nat) : Nat :=
  daysBeforeYear year + daysBeforeMonth year month + day

/-- The weekday of a numbered day, from 0 for Monday. -/
def weekday (number : Nat) : Nat := (number + 6) % 7

/-- The month and day of the day with a given place among the days from a month on, counted from 0;
`left` months follow that month. -/
def monthAndDay (year place month : Nat) : Nat → Nat × Nat
  | 0 => (month, place + 1)
  | left + 1 =>
    let days := daysInMonth year month
    if place < days then (month, place + 1)
    else monthAndDay year (place - days) (month + 1) left

/-- The year, month and day of a numbered day that lies in a year or next to it. -/
def dateNear (year number : Nat) : Nat × Nat × Nat :=
  let year :=
    if number ≤ daysBeforeYear year then year - 1
    else if daysBeforeYear (year + 1) < number then year + 1
    else year
  let (month, day) := monthAndDay year (number - daysBeforeYear year - 1) 1 11
  (year, month, day)

/-- The number of the Monday that starts week 1 of a year: the week with the year's first
Thursday. -/
def firstMonday (year : Nat) : Nat :=
  let first := dayNumber year 1 1
  let before := weekday first
  if 3 < before then first + 7 - before else first - before

/-- How many weeks a year has. -/
def weeksInYear (year : Nat) : Nat :=
  let start := weekday (dayNumber year 1 1)
  if start = 3 ∨ (start = 2 ∧ isLeap year) then 53 else 52

/-! ### Timestamps -/

/-- The fields of a timestamp. -/
structure Clock where
  year : Nat
  month : Nat
  day : Nat
  hour : Nat
  minute : Nat
  second : Nat
  microsecond : Nat
  /-- Microseconds east of UTC; a timestamp without an offset is local to an unknown place. -/
  offset : Option Int
deriving DecidableEq

/-- Microseconds in a second. -/
def perSecond : Int := 1000000

/-- The fields name a moment: each is in its range, and the offset is under a day. -/
def Clock.Valid (c : Clock) : Prop :=
  1 ≤ c.year ∧ c.year ≤ 9999 ∧ 1 ≤ c.month ∧ c.month ≤ 12 ∧
  1 ≤ c.day ∧ c.day ≤ daysInMonth c.year c.month ∧
  c.hour < 24 ∧ c.minute < 60 ∧ c.second < 60 ∧ c.microsecond < 1000000 ∧
  (∀ offset ∈ c.offset, -(86400 * perSecond) < offset ∧ offset < 86400 * perSecond)

instance (c : Clock) : Decidable c.Valid := by
  rw [Clock.Valid]
  cases c.offset with
  | none => exact decidable_of_iff (1 ≤ c.year ∧ c.year ≤ 9999 ∧ 1 ≤ c.month ∧ c.month ≤ 12 ∧
      1 ≤ c.day ∧ c.day ≤ daysInMonth c.year c.month ∧
      c.hour < 24 ∧ c.minute < 60 ∧ c.second < 60 ∧ c.microsecond < 1000000) (by simp)
  | some offset => exact decidable_of_iff (1 ≤ c.year ∧ c.year ≤ 9999 ∧ 1 ≤ c.month ∧
      c.month ≤ 12 ∧ 1 ≤ c.day ∧ c.day ≤ daysInMonth c.year c.month ∧
      c.hour < 24 ∧ c.minute < 60 ∧ c.second < 60 ∧ c.microsecond < 1000000 ∧
      -(86400 * perSecond) < offset ∧ offset < 86400 * perSecond) (by simp)

/-- A date and time of day. -/
structure Timestamp extends Clock where
  valid : toClock.Valid
deriving DecidableEq

namespace Timestamp

/-- The timestamp with the given fields, when they name a moment. -/
def ofClock? (c : Clock) : Option Timestamp := if h : c.Valid then some ⟨c, h⟩ else none

/-- The start of the year 1970 in UTC. -/
def epoch : Timestamp := ⟨⟨1970, 1, 1, 0, 0, 0, 0, some 0⟩, by decide⟩

/-- Microseconds since the start of year 1, less the offset. -/
def instant (t : Timestamp) : Int :=
  let seconds : Nat :=
    ((dayNumber t.year t.month t.day * 24 + t.hour) * 60 + t.minute) * 60 + t.second
  seconds * perSecond + t.microsecond - t.offset.getD 0

/-- Do two timestamps name the same moment? One with an offset and one without never do. -/
def same (t u : Timestamp) : Bool :=
  t.offset.isSome == u.offset.isSome && decide (t.instant = u.instant)

end Timestamp

end Rulebook
