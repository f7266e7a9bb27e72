import Rulebook.Timestamp

/-!
# Reading timestamps

Timestamps are read from the ISO 8601 forms, with or without separators:

* a date `YYYY-MM-DD` or `YYYYMMDD`, or a week date `YYYY-Www`, `YYYY-Www-D`, `YYYYWww`, `YYYYWwwD`;
* any one character, then a time `HH`, `HH:MM`, `HH:MM:SS` or `HHMMSS`, with a fraction of a second
  of which six digits count;
* an offset `Z`, or a sign and a time.

A reader of a part takes a list of characters and gives what it read and the rest.

## Main definitions

* `Timestamp.read?`: the timestamp a text writes.
-/

namespace Rulebook

namespace Timestamp

/-- The value of an ASCII digit. -/
def digitValue? (c : Char) : Option Nat :=
  if '0' ≤ c ∧ c ≤ '9' then some (c.toNat - 48) else none

/-- The number of exactly `count` ASCII digits, after the digits read so far, and the rest. -/
def readDigits? (value : Nat) : Nat → List Char → Option (Nat × List Char)
  | 0, cs => some (value, cs)
  | _ + 1, [] => none
  | count + 1, c :: cs =>
    match digitValue? c with
    | some d => readDigits? (10 * value + d) count cs
    | none => none

/-! ### The date -/

/-- Is the character at a place an ASCII digit? -/
def digitAt (cs : List Char) (place : Nat) : Bool :=
  ((cs[place]?).bind digitValue?).isSome

/-- How many characters the date takes. The forms are told apart by the characters after the year.
A week date whose day could also be the hour of a time after a hyphen is read as the latter. -/
def dateLength (cs : List Char) : Nat :=
  if cs.length = 7 then 7
  else if cs[4]? = some '-' then
    if cs[5]? = some 'W' then
      if cs[8]? = some '-' ∧ !digitAt cs 10 then 10 else 8
    else 10
  else if cs[4]? = some 'W' then
    let last := 7 + ((cs.drop 7).takeWhile fun c => (digitValue? c).isSome).length
    if last < 9 then last else if last % 2 = 0 then 7 else 8
  else 8

/-- The calendar date of a week date. -/
def weekDate? (year week day : Nat) : Option (Nat × Nat × Nat) :=
  if 1 ≤ year ∧ 1 ≤ week ∧ week ≤ weeksInYear year ∧ 1 ≤ day ∧ day ≤ 7 then
    some (dateNear year (firstMonday year + (week - 1) * 7 + (day - 1)))
  else none

/-- Passes over a hyphen, where the form has hyphens. -/
def passHyphen? (hyphens : Bool) (cs : List Char) : Option (List Char) :=
  if hyphens then
    match cs with
    | '-' :: rest => some rest
    | _ => none
  else some cs

/-- The year, month and day that the whole of a text writes. -/
def readDate? (cs : List Char) : Option (Nat × Nat × Nat) := do
  let (year, cs) ← readDigits? 0 4 cs
  let hyphens := cs.head? = some '-'
  let cs ← passHyphen? hyphens cs
  match cs with
  | 'W' :: cs => do
    let (week, cs) ← readDigits? 0 2 cs
    if cs.isEmpty then weekDate? year week 1
    else do
      let cs ← passHyphen? hyphens cs
      let (day, _) ← readDigits? 0 1 cs
      weekDate? year week day
  | cs => do
    let (month, cs) ← readDigits? 0 2 cs
    let cs ← passHyphen? hyphens cs
    let (day, cs) ← readDigits? 0 2 cs
    if cs.isEmpty then some (year, month, day) else none

/-! ### The time -/

/-- A time of day as it is read. -/
structure TimeOfDay where
  hour : Nat := 0
  minute : Nat := 0
  second : Nat := 0
  microsecond : Nat := 0
  /-- Nothing unread stands after the time. -/
  complete : Bool := true

/-- The time with its next field set: the hour, the minute, then the second. -/
def TimeOfDay.set (t : TimeOfDay) : Nat → Nat → TimeOfDay
  | 0, n => { t with hour := n }
  | 1, n => { t with minute := n }
  | _, n => { t with second := n }

/-- Reads the fraction of a second that follows a time: up to six digits count, all further digits
are passed over. -/
def readFraction? (t : TimeOfDay) (cs : List Char) : Option TimeOfDay := do
  let places := min 6 cs.length
  let (fraction, rest) ← readDigits? 0 places cs
  let rest := rest.dropWhile fun c => (digitValue? c).isSome
  some { t with
    microsecond := fraction * Nat.pow 10 (6 - places)
    complete := rest.isEmpty || rest.head? = some '\x00' }

/-- Reads the fields of a time from field number `field` on, `left` fields at most. The character
after the hour settles whether fields are separated by colons. A single character after a field
is left unread. -/
def readFields? (t : TimeOfDay) (field : Nat) (colons : Bool) :
    Nat → List Char → Option TimeOfDay
  | 0, cs => readFraction? t cs
  | left + 1, cs => do
    let (n, cs) ← readDigits? 0 2 cs
    let t := t.set field n
    match cs with
    | [] => some t
    | c :: rest =>
      let colons := if field = 0 then c = ':' else colons
      if rest.isEmpty ∧ c.toNat < 0x80 then some { t with complete := c = '\x00' }
      else if colons ∧ c = ':' then readFields? t (field + 1) colons left rest
      else if c = '.' ∨ c = ',' then readFraction? t rest
      else if !colons then readFields? t (field + 1) colons left cs
      else none

/-- Reads a time of day without an offset. -/
def readTimeOfDay? (cs : List Char) : Option TimeOfDay := readFields? {} 0 true 3 cs

/-- Does a character start an offset? -/
def startsOffset (c : Char) : Bool := c == '+' || c == '-' || c == 'Z'

/-- The offset in microseconds of a time of day east or west of UTC; one under a second is none. -/
def offsetOf (west : Bool) (t : TimeOfDay) : Int :=
  let seconds : Int := (t.hour * 60 + t.minute) * 60 + t.second
  let size : Int := if seconds = 0 then 0 else seconds * perSecond + t.microsecond
  if west then -size else size

/-- Reads a time of day and its offset. Without an offset nothing may stand unread after the time;
before an offset that is not checked. -/
def readTime? (cs : List Char) : Option (TimeOfDay × Option Int) := do
  let t ← readTimeOfDay? (cs.takeWhile (!startsOffset ·))
  match cs.dropWhile (!startsOffset ·) with
  | [] => if t.complete then some (t, none) else none
  | 'Z' :: rest => if rest.isEmpty then some (t, some 0) else none
  | sign :: rest => do
    let offset ← readTimeOfDay? rest
    if offset.complete then some (t, some (offsetOf (sign = '-') offset)) else none

/-- The timestamp a text writes. -/
def read? (cs : List Char) : Option Timestamp := do
  let length := dateLength cs
  let (year, month, day) ← readDate? (cs.take length)
  let (t, offset) ←
    match cs.drop length with
    | [] => some ({}, none)
    | _ :: time => readTime? time
  ofClock? {
    year, month, day, hour := t.hour, minute := t.minute, second := t.second,
    microsecond := t.microsecond, offset }

end Timestamp

end Rulebook
