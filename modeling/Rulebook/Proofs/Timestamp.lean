import Mathlib.Algebra.Group.Nat.Even
import Rulebook.Timestamp.Reading
import Rulebook.Timestamp.Writing

/-!
# Timestamps Are Read as They Were Written

The ISO 8601 form of a timestamp has fields of fixed widths, so that each reader of a part stops
where the next part starts. What is written is read again, with one exception: an offset of less
than a second is read as none at all.

## Main definitions

* `Timestamp.IsRestorable`: the offset, if there is one, is none or at least a second.

## Main results

* `Timestamp.readDigits?_padded`: a number padded to a width is read from that many digits.
* `Timestamp.read?_isoText`: a restorable timestamp is read from its ISO 8601 form.
* `Timestamp.isRestorable_of_read?`: a timestamp that was read is restorable.
* `Timestamp.read?_isoText_iff`: no other timestamp is read from its ISO 8601 form.
-/

namespace Rulebook.Timestamp

/-! ### Digits -/

theorem digitValue?_digitChar {d : Nat} (h : d < 10) : digitValue? (Nat.digitChar d) = some d := by
  have hnat := Nat.toNat_digitChar_of_lt_ten h
  rw [digitValue?, if_pos, hnat]
  · congr 1
    omega
  · rw [Char.le_def, Char.le_def, UInt32.le_iff_toNat_le, UInt32.le_iff_toNat_le]
    change 48 ≤ (Nat.digitChar d).toNat ∧ (Nat.digitChar d).toNat ≤ 57
    omega

/-- A longer padding starts with the digits before the last one. -/
theorem padded_succ (w n : Nat) :
    padded (w + 2) n = padded (w + 1) (n / 10) ++ [Nat.digitChar (n % 10)] := by
  simp only [padded]
  by_cases hn : n < 10
  · have hdiv : n / 10 = 0 := Nat.div_eq_of_lt hn
    rw [hdiv, Nat.mod_eq_of_lt hn, Nat.toDigits_of_lt_base hn, Nat.toDigits_zero]
    simp [List.replicate_succ']
  · rw [Nat.toDigits_of_base_le (by decide) (Nat.le_of_not_lt hn), List.length_append,
      ← List.append_assoc]
    simp

theorem padded_one {n : Nat} (h : n < 10) : padded 1 n = [Nat.digitChar n] := by
  simp only [padded]
  rw [Nat.toDigits_of_lt_base h]
  rfl

/-- A padding of a number that fits has just its width. -/
theorem length_padded {w n : Nat} (h : n < 10 ^ (w + 1)) : (padded (w + 1) n).length = w + 1 := by
  induction w generalizing n with
  | zero =>
      rw [padded_one (by simpa using h)]
      rfl
  | succ w ih =>
      have hdiv : n / 10 < 10 ^ (w + 1) := by
        rw [Nat.div_lt_iff_lt_mul (by decide)]
        exact h
      rw [padded_succ, List.length_append, ih hdiv]
      rfl

/-- A character that writes a digit. -/
def WritesDigit (c : Char) : Prop := ∃ d < 10, c = Nat.digitChar d

/-- A padding is made of digits. -/
theorem digit_of_mem_padded {w n : Nat} (h : n < 10 ^ (w + 1)) {c : Char}
    (hc : c ∈ padded (w + 1) n) : WritesDigit c := by
  induction w generalizing n with
  | zero =>
      have hn : n < 10 := by simpa using h
      rw [padded_one hn] at hc
      exact ⟨n, hn, List.mem_singleton.mp hc⟩
  | succ w ih =>
      have hdiv : n / 10 < 10 ^ (w + 1) := by
        rw [Nat.div_lt_iff_lt_mul (by decide)]
        exact h
      rw [padded_succ] at hc
      rcases List.mem_append.mp hc with hc | hc
      · exact ih hdiv hc
      · exact ⟨n % 10, Nat.mod_lt n (by decide), List.mem_singleton.mp hc⟩

/-- One more digit is read after the others. -/
theorem readDigits?_succ (value count : Nat) (cs : List Char) :
    readDigits? value (count + 1) cs =
      (readDigits? value count cs).bind fun read => readDigits? read.1 1 read.2 := by
  induction count generalizing value cs with
  | zero => rfl
  | succ count ih =>
      cases cs with
      | nil => rfl
      | cons c cs =>
          rw [readDigits?, readDigits?]
          cases digitValue? c with
          | none => rfl
          | some d => exact ih _ _

/-- **A number padded to a width is read from that many digits.** -/
theorem readDigits?_padded {w n : Nat} (h : n < 10 ^ (w + 1)) (rest : List Char) :
    readDigits? 0 (w + 1) (padded (w + 1) n ++ rest) = some (n, rest) := by
  induction w generalizing n rest with
  | zero =>
      have hn : n < 10 := by simpa using h
      rw [padded_one hn, List.singleton_append, readDigits?, digitValue?_digitChar hn]
      simp [readDigits?]
  | succ w ih =>
      have hdiv : n / 10 < 10 ^ (w + 1) := by
        rw [Nat.div_lt_iff_lt_mul (by decide)]
        exact h
      have hmod : n % 10 < 10 := Nat.mod_lt n (by decide)
      rw [readDigits?_succ, padded_succ, List.append_assoc, ih hdiv, Option.bind_some,
        List.singleton_append, readDigits?, digitValue?_digitChar hmod]
      simp only [readDigits?, Option.some.injEq, Prod.mk.injEq, and_true]
      omega

/-- A digit is no other character. -/
theorem digitChar_ne {d : Nat} (h : d < 10) {c : Char} (hc : c.isDigit = false) :
    Nat.digitChar d ≠ c := by
  rintro rfl
  rw [Nat.isDigit_digitChar, decide_eq_false_iff_not] at hc
  exact hc h

theorem WritesDigit.ne {b c : Char} (h : WritesDigit b) (hc : c.isDigit = false) : b ≠ c := by
  obtain ⟨d, hd, rfl⟩ := h
  exact digitChar_ne hd hc

/-- A padding starts with a digit. -/
theorem padded_eq_cons {w n : Nat} (h : n < 10 ^ (w + 1)) :
    ∃ d rest, d < 10 ∧ padded (w + 1) n = Nat.digitChar d :: rest := by
  cases hpadded : padded (w + 1) n with
  | nil =>
      have hlength := length_padded h
      rw [hpadded] at hlength
      cases hlength
  | cons c rest =>
      obtain ⟨d, hd, rfl⟩ := digit_of_mem_padded h (hpadded ▸ List.mem_cons_self)
      exact ⟨d, rest, hd, rfl⟩

theorem padded_ne_nil {w n : Nat} (h : n < 10 ^ (w + 1)) : padded (w + 1) n ≠ [] := by
  obtain ⟨d, rest, -, hpadded⟩ := padded_eq_cons h
  rw [hpadded]
  exact List.cons_ne_nil _ _

/-! ### The date -/

/-- The date of a timestamp, as it is written. -/
def dateText (year month day : Nat) : List Char :=
  padded 4 year ++ '-' :: (padded 2 month ++ '-' :: padded 2 day)

theorem length_dateText {year month day : Nat} (hyear : year < 10000) (hmonth : month < 100)
    (hday : day < 100) : (dateText year month day).length = 10 := by
  simp [dateText, length_padded (w := 3) hyear, length_padded (w := 1) hmonth,
    length_padded (w := 1) hday]

/-- A date is told by the hyphen after the year and the digit after it. -/
theorem dateLength_dateText {year month day : Nat} (hyear : year < 10000) (hmonth : month < 100)
    (hday : day < 100) (rest : List Char) : dateLength (dateText year month day ++ rest) = 10 := by
  have hlength := length_dateText hyear hmonth hday
  obtain ⟨d, tail, hd, hpadded⟩ := padded_eq_cons (w := 1) hmonth
  have hyearLength : (padded 4 year).length = 4 := length_padded hyear
  have hhyphen : (dateText year month day ++ rest)[4]? = some '-' := by
    rw [dateText, List.append_assoc, List.getElem?_append_right (by omega), hyearLength]
    rfl
  have hdigit : (dateText year month day ++ rest)[5]? = some (Nat.digitChar d) := by
    rw [dateText, List.append_assoc, List.getElem?_append_right (by omega), hyearLength, hpadded]
    rfl
  have hlong : (dateText year month day ++ rest).length ≠ 7 := by
    rw [List.length_append, hlength]
    omega
  have hnoWeek : some (Nat.digitChar d) ≠ some 'W' := fun h =>
    digitChar_ne hd (by decide) (Option.some.inj h)
  rw [dateLength, if_neg hlong, if_pos hhyphen, hdigit, if_neg hnoWeek]

/-- **A date is read from its text.** -/
theorem readDate?_dateText {year month day : Nat} (hyear : year < 10000) (hmonth : month < 100)
    (hday : day < 100) : readDate? (dateText year month day) = some (year, month, day) := by
  obtain ⟨d, tail, hd, hpadded⟩ := padded_eq_cons (w := 1) hmonth
  have hreadMonth := readDigits?_padded (w := 1) hmonth ('-' :: padded 2 day)
  have hreadDay := readDigits?_padded (w := 1) hday []
  rw [List.append_nil] at hreadDay
  rw [readDate?, dateText, readDigits?_padded (w := 3) hyear]
  simp only [Option.bind_eq_bind, Option.bind_some, List.head?_cons, decide_true, passHyphen?,
    if_true]
  split
  · -- What comes after the hyphen is a digit.
    rename_i hweek
    rw [hpadded] at hweek
    exact absurd (List.cons.inj hweek).1 (digitChar_ne hd (by decide))
  · rw [hreadMonth]
    simp [hreadDay]

/-! ### The time of day -/

/-- A fraction of a second is written with a point, which is where a time of day goes on. -/
theorem readFraction?_padded {microsecond : Nat} (h : microsecond < 1000000) (t : TimeOfDay) :
    readFraction? t (padded 6 microsecond) = some { t with microsecond, complete := true } := by
  have hlength : (padded 6 microsecond).length = 6 := length_padded h
  have hread := readDigits?_padded (w := 5) h []
  rw [List.append_nil] at hread
  rw [readFraction?, hlength]
  simp [hread]

/-- The colon after the hour settles that fields are separated by colons. -/
theorem readFields?_hour {hour : Nat} (h : hour < 100) {rest : List Char}
    (hrest : rest ≠ []) :
    readFields? {} 0 true 3 (padded 2 hour ++ ':' :: rest) =
      readFields? { hour } 1 true 2 rest := by
  rw [readFields?, readDigits?_padded (w := 1) h]
  simp [TimeOfDay.set, hrest]

theorem readFields?_minute {minute : Nat} (h : minute < 100) (t : TimeOfDay) {rest : List Char}
    (hrest : rest ≠ []) :
    readFields? t 1 true 2 (padded 2 minute ++ ':' :: rest) =
      readFields? { t with minute } 2 true 1 rest := by
  rw [readFields?, readDigits?_padded (w := 1) h]
  simp [TimeOfDay.set, hrest]

theorem readFields?_second {hour minute second microsecond : Nat} (h : second < 100)
    (hmicrosecond : microsecond < 1000000) :
    readFields? { hour, minute } 2 true 1 (padded 2 second ++ fraction microsecond) =
      some { hour, minute, second, microsecond } := by
  rw [readFields?, readDigits?_padded (w := 1) h, fraction]
  by_cases hzero : microsecond = 0
  · simp [hzero, TimeOfDay.set]
  · have hfraction : padded 6 microsecond ≠ [] := padded_ne_nil hmicrosecond
    simp [hzero, TimeOfDay.set, hfraction, readFraction?_padded hmicrosecond]

/-- The hour and the minute of a time, as they are written. -/
def shortText (hour minute : Nat) : List Char := padded 2 hour ++ ':' :: padded 2 minute

/-- A time of day, as it is written. -/
def timeText (hour minute second microsecond : Nat) : List Char :=
  padded 2 hour ++ ':' :: (padded 2 minute ++ ':' :: (padded 2 second ++ fraction microsecond))

theorem readTimeOfDay?_shortText {hour minute : Nat} (hhour : hour < 100) (hminute : minute < 100) :
    readTimeOfDay? (shortText hour minute) = some { hour, minute } := by
  have hread := readDigits?_padded (w := 1) hminute []
  rw [List.append_nil] at hread
  rw [readTimeOfDay?, shortText]
  rw [readFields?_hour hhour (padded_ne_nil (w := 1) hminute), readFields?, hread]
  rfl

/-- **A time of day is read from its text.** -/
theorem readTimeOfDay?_timeText {hour minute second microsecond : Nat} (hhour : hour < 100)
    (hminute : minute < 100) (hsecond : second < 100) (hmicrosecond : microsecond < 1000000) :
    readTimeOfDay? (timeText hour minute second microsecond) =
      some { hour, minute, second, microsecond } := by
  rw [readTimeOfDay?, timeText]
  rw [readFields?_hour hhour (List.append_ne_nil_of_left_ne_nil (padded_ne_nil (w := 1) hminute) _),
    readFields?_minute hminute _
      (List.append_ne_nil_of_left_ne_nil (padded_ne_nil (w := 1) hsecond) _),
    readFields?_second hsecond hmicrosecond]

/-! ### The offset -/

/-- The offset of a timestamp is none, or at least a second: then it is read as it is written. -/
def IsRestorable (t : Timestamp) : Prop :=
  ∀ offset ∈ t.offset, offset = 0 ∨ 1000000 ≤ offset.natAbs

/-- The time of day that the size of an offset is written as. -/
def clockOf (size : Nat) : TimeOfDay where
  hour := size / 1000000 / 3600
  minute := size / 1000000 / 60 % 60
  second := size / 1000000 % 60
  microsecond := size % 1000000

theorem clockOf_complete (size : Nat) : (clockOf size).complete = true := rfl

/-- The size of an offset is read from the time of day it is written as. -/
theorem offsetOf_clockOf {size : Nat} (h : size = 0 ∨ 1000000 ≤ size) (west : Bool) :
    offsetOf west (clockOf size) = if west then -(size : Int) else size := by
  have hseconds : (((size / 1000000 / 3600 : Nat) : Int) * 60 + (size / 1000000 / 60 % 60 : Nat)) *
      60 + (size / 1000000 % 60 : Nat) = (size / 1000000 : Nat) := by
    omega
  have hsize : (if ((size / 1000000 : Nat) : Int) = 0 then (0 : Int)
      else (size / 1000000 : Nat) * 1000000 + (size % 1000000 : Nat)) = size := by
    split <;> omega
  rw [offsetOf, clockOf, perSecond]
  dsimp only
  rw [hseconds, hsize]

/-- The time of day that the size of an offset is written as; zero seconds are left out. -/
def clockText (size : Nat) : List Char :=
  let t := clockOf size
  if size % 60000000 = 0 then shortText t.hour t.minute
  else timeText t.hour t.minute t.second t.microsecond

/-- An offset, as it is written: its sign and the time of day of its size. -/
theorem offsetText_eq (offset : Int) :
    offsetText offset = (if offset < 0 then '-' else '+') :: clockText offset.natAbs := by
  rw [offsetText, clockText, shortText, timeText, clockOf]
  dsimp only
  by_cases hshort : offset.natAbs % 60000000 = 0
  · rw [if_pos hshort, if_pos hshort, List.append_nil]
  · rw [if_neg hshort, if_neg hshort]

/-- The fields of the size of an offset that is less than a day fit their widths. -/
theorem clockOf_lt {size : Nat} (h : size < 86400000000) :
    (clockOf size).hour < 100 ∧ (clockOf size).minute < 100 ∧ (clockOf size).second < 100 ∧
      (clockOf size).microsecond < 1000000 := by
  rw [clockOf]
  dsimp only
  omega

/-- The size of an offset is read as it is written. -/
theorem readTimeOfDay?_clockText {size : Nat} (h : size < 86400000000) :
    readTimeOfDay? (clockText size) = some (clockOf size) := by
  obtain ⟨hhour, hminute, hsecond, hmicrosecond⟩ := clockOf_lt h
  simp only [clockText]
  split
  · have hsecondZero : size / 1000000 % 60 = 0 := by omega
    have hmicrosecondZero : size % 1000000 = 0 := by omega
    rw [readTimeOfDay?_shortText hhour hminute]
    simp [clockOf, hsecondZero, hmicrosecondZero]
  · exact readTimeOfDay?_timeText hhour hminute hsecond hmicrosecond

/-! ### Timestamps -/

section Characters

variable {year month day hour minute second microsecond : Nat} {c : Char}

theorem of_mem_dateText (hyear : year < 10000) (hmonth : month < 100) (hday : day < 100)
    (hc : c ∈ dateText year month day) : WritesDigit c ∨ c = '-' := by
  simp only [dateText, List.mem_append, List.mem_cons] at hc
  rcases hc with hc | hc | hc | hc | hc
  · exact .inl (digit_of_mem_padded hyear hc)
  · exact .inr hc
  · exact .inl (digit_of_mem_padded hmonth hc)
  · exact .inr hc
  · exact .inl (digit_of_mem_padded hday hc)

theorem of_mem_fraction (hmicrosecond : microsecond < 1000000) (hc : c ∈ fraction microsecond) :
    WritesDigit c ∨ c = '.' := by
  rw [fraction] at hc
  split at hc
  · cases hc
  · rcases List.mem_cons.mp hc with hc | hc
    · exact .inr hc
    · exact .inl (digit_of_mem_padded hmicrosecond hc)

theorem of_mem_timeText (hhour : hour < 100) (hminute : minute < 100) (hsecond : second < 100)
    (hmicrosecond : microsecond < 1000000) (hc : c ∈ timeText hour minute second microsecond) :
    WritesDigit c ∨ c = ':' ∨ c = '.' := by
  simp only [timeText, List.mem_append, List.mem_cons] at hc
  rcases hc with hc | hc | hc | hc | hc | hc
  · exact .inl (digit_of_mem_padded hhour hc)
  · exact .inr (.inl hc)
  · exact .inl (digit_of_mem_padded hminute hc)
  · exact .inr (.inl hc)
  · exact .inl (digit_of_mem_padded hsecond hc)
  · rcases of_mem_fraction hmicrosecond hc with hc | hc
    · exact .inl hc
    · exact .inr (.inr hc)

theorem of_mem_shortText (hhour : hour < 100) (hminute : minute < 100)
    (hc : c ∈ shortText hour minute) : WritesDigit c ∨ c = ':' := by
  simp only [shortText, List.mem_append, List.mem_cons] at hc
  rcases hc with hc | hc | hc
  · exact .inl (digit_of_mem_padded hhour hc)
  · exact .inr hc
  · exact .inl (digit_of_mem_padded hminute hc)

theorem of_mem_clockText {size : Nat} (h : size < 86400000000) (hc : c ∈ clockText size) :
    WritesDigit c ∨ c = ':' ∨ c = '.' := by
  obtain ⟨hhour, hminute, hsecond, hmicrosecond⟩ := clockOf_lt h
  simp only [clockText] at hc
  split at hc
  · rcases of_mem_shortText hhour hminute hc with hc | hc
    · exact .inl hc
    · exact .inr (.inl hc)
  · exact of_mem_timeText hhour hminute hsecond hmicrosecond hc

/-- No character of a time of day starts an offset. -/
theorem startsOffset_of_mem_timeText (hhour : hour < 100) (hminute : minute < 100)
    (hsecond : second < 100) (hmicrosecond : microsecond < 1000000)
    (hc : c ∈ timeText hour minute second microsecond) : startsOffset c = false := by
  rcases of_mem_timeText hhour hminute hsecond hmicrosecond hc with h | rfl | rfl
  · simp [startsOffset, h.ne]
  · decide
  · decide

end Characters

/-- The text of the offset of a timestamp. -/
def zoneText (offset : Option Int) : List Char := (offset.map offsetText).getD []

theorem ne_of_mem_zoneText {offset : Option Int} (h : ∀ o ∈ offset, o.natAbs < 86400000000)
    {c : Char} (hc : c ∈ zoneText offset) : c ≠ 'Z' := by
  cases offset with
  | none => cases hc
  | some o =>
      have hzone : zoneText (some o) = (if o < 0 then '-' else '+') :: clockText o.natAbs :=
        offsetText_eq o
      rw [hzone] at hc
      rcases List.mem_cons.mp hc with rfl | hc
      · split <;> decide
      · rcases of_mem_clockText (h o rfl) hc with hc | rfl | rfl
        · exact hc.ne (by decide)
        · decide
        · decide

section Times

variable {hour minute second microsecond : Nat}

/-- What stands before the offset is the time of day. -/
theorem split_timeText_append (hhour : hour < 100) (hminute : minute < 100)
    (hsecond : second < 100) (hmicrosecond : microsecond < 1000000) (zone : List Char) :
    (timeText hour minute second microsecond ++ zone).takeWhile (!startsOffset ·) =
        timeText hour minute second microsecond ++ zone.takeWhile (!startsOffset ·) ∧
      (timeText hour minute second microsecond ++ zone).dropWhile (!startsOffset ·) =
        zone.dropWhile (!startsOffset ·) := by
  have htime : ∀ c ∈ timeText hour minute second microsecond, (!startsOffset c) = true := by
    intro c hc
    rw [startsOffset_of_mem_timeText hhour hminute hsecond hmicrosecond hc]
    rfl
  exact ⟨List.takeWhile_append_of_pos htime, List.dropWhile_append_of_pos htime⟩

/-- A sign after a time of day starts its offset. -/
theorem readTime?_signed (hhour : hour < 100) (hminute : minute < 100) (hsecond : second < 100)
    (hmicrosecond : microsecond < 1000000) {sign : Char} (hsign : sign = '-' ∨ sign = '+')
    {rest : List Char} {size : Nat} (hzone : readTimeOfDay? rest = some (clockOf size)) :
    readTime? (timeText hour minute second microsecond ++ sign :: rest) =
      some ({ hour, minute, second, microsecond }, some (offsetOf (sign = '-') (clockOf size))) := by
  obtain ⟨hbefore, hafter⟩ :=
    split_timeText_append hhour hminute hsecond hmicrosecond (sign :: rest)
  have hstarts : ¬(!startsOffset sign) = true := by
    rcases hsign with rfl | rfl <;> decide
  have hnothing : (sign :: rest).takeWhile (!startsOffset ·) = [] :=
    List.takeWhile_cons_of_neg hstarts
  have hall : (sign :: rest).dropWhile (!startsOffset ·) = sign :: rest :=
    List.dropWhile_cons_of_neg hstarts
  rw [readTime?, hbefore, hafter, hnothing, hall, List.append_nil,
    readTimeOfDay?_timeText hhour hminute hsecond hmicrosecond]
  rcases hsign with rfl | rfl <;> simp [hzone, clockOf_complete]

/-- **A time and its offset are read from their text.** -/
theorem readTime?_text {offset : Option Int} (hhour : hour < 100) (hminute : minute < 100)
    (hsecond : second < 100) (hmicrosecond : microsecond < 1000000)
    (hoffset : ∀ o ∈ offset, o.natAbs < 86400000000)
    (hwhole : ∀ o ∈ offset, o = 0 ∨ 1000000 ≤ o.natAbs) :
    readTime? (timeText hour minute second microsecond ++ zoneText offset) =
      some ({ hour, minute, second, microsecond }, offset) := by
  cases offset with
  | none =>
      have hnothing : zoneText none = [] := rfl
      obtain ⟨hbefore, hafter⟩ := split_timeText_append hhour hminute hsecond hmicrosecond []
      rw [readTime?, hnothing, hbefore, hafter, List.takeWhile_nil, List.append_nil,
        readTimeOfDay?_timeText hhour hminute hsecond hmicrosecond]
      rfl
  | some o =>
      have hzone : zoneText (some o) = (if o < 0 then '-' else '+') :: clockText o.natAbs :=
        offsetText_eq o
      have hsize : o.natAbs = 0 ∨ 1000000 ≤ o.natAbs := by
        rw [Int.natAbs_eq_zero]
        exact hwhole o rfl
      have hclock := readTimeOfDay?_clockText (hoffset o rfl)
      rw [hzone]
      split
      · have hvalue : offsetOf true (clockOf o.natAbs) = o := by
          rw [offsetOf_clockOf hsize, if_pos rfl]
          omega
        rw [readTime?_signed hhour hminute hsecond hmicrosecond (.inl rfl) hclock]
        simp [hvalue]
      · have hvalue : offsetOf false (clockOf o.natAbs) = o := by
          rw [offsetOf_clockOf hsize, if_neg Bool.false_ne_true]
          omega
        rw [readTime?_signed hhour hminute hsecond hmicrosecond (.inr rfl) hclock]
        simp [hvalue]

end Times

/-- The ISO 8601 form, part by part. -/
theorem toList_isoText (t : Timestamp) :
    (t.isoText 'T').toList = dateText t.year t.month t.day ++
      'T' :: (timeText t.hour t.minute t.second t.microsecond ++ zoneText t.offset) := by
  simp [isoText, dateText, timeText, zoneText]

/-- The fields of a timestamp fit the widths that they are written with. -/
theorem fields_lt (t : Timestamp) :
    t.year < 10000 ∧ t.month < 100 ∧ t.day < 100 ∧ t.hour < 100 ∧ t.minute < 100 ∧
      t.second < 100 ∧ t.microsecond < 1000000 ∧ ∀ o ∈ t.offset, o.natAbs < 86400000000 := by
  obtain ⟨hyear, hyear', hmonth, hmonth', hday, hday', hhour, hminute, hsecond, hmicrosecond,
    hoffset⟩ := t.valid
  have hlimit : daysInMonth t.year t.month ≤ 31 := by
    rw [daysInMonth]
    split
    · split <;> omega
    · split <;> omega
  refine ⟨by omega, by omega, by omega, by omega, by omega, by omega, hmicrosecond, ?_⟩
  intro o ho
  have hbounds := hoffset o ho
  rw [perSecond] at hbounds
  omega

/-- **A restorable timestamp is read from its ISO 8601 form.** -/
theorem read?_isoText {t : Timestamp} (h : t.IsRestorable) :
    read? (t.isoText 'T').toList = some t := by
  obtain ⟨hyear, hmonth, hday, hhour, hminute, hsecond, hmicrosecond, hoffset⟩ := t.fields_lt
  have hlength := length_dateText hyear hmonth hday
  rw [toList_isoText]
  rw [read?, dateLength_dateText hyear hmonth hday]
  dsimp only
  rw [List.take_left' hlength, List.drop_left' hlength, readDate?_dateText hyear hmonth hday]
  dsimp only [Option.bind_eq_bind, Option.bind_some]
  rw [readTime?_text hhour hminute hsecond hmicrosecond hoffset h]
  dsimp only [Option.bind_some]
  exact dif_pos t.valid

/-- The letter for a zero offset does not occur in the ISO 8601 form. -/
theorem ne_of_mem_isoText {t : Timestamp} {c : Char} (hc : c ∈ (t.isoText 'T').toList) :
    c ≠ 'Z' := by
  obtain ⟨hyear, hmonth, hday, hhour, hminute, hsecond, hmicrosecond, hoffset⟩ := t.fields_lt
  rw [toList_isoText] at hc
  rcases List.mem_append.mp hc with hc | hc
  · rcases of_mem_dateText hyear hmonth hday hc with hc | rfl
    · exact hc.ne (by decide)
    · decide
  · rcases List.mem_cons.mp hc with rfl | hc
    · decide
    · rcases List.mem_append.mp hc with hc | hc
      · rcases of_mem_timeText hhour hminute hsecond hmicrosecond hc with hc | rfl | rfl
        · exact hc.ne (by decide)
        · decide
        · decide
      · exact ne_of_mem_zoneText hoffset hc

/-! ### Timestamps that were read -/

theorem offsetOf_eq_zero_or (west : Bool) (t : TimeOfDay) :
    offsetOf west t = 0 ∨ 1000000 ≤ (offsetOf west t).natAbs := by
  simp only [offsetOf, perSecond]
  by_cases hzero : (((t.hour : Int) * 60 + t.minute) * 60 + t.second) = 0
  · rw [if_pos hzero]
    left
    split <;> rfl
  · rw [if_neg hzero]
    right
    split <;> omega

theorem eq_zero_or_of_readTime? {cs : List Char} {t : TimeOfDay} {offset : Option Int}
    (h : readTime? cs = some (t, offset)) : ∀ o ∈ offset, o = 0 ∨ 1000000 ≤ o.natAbs := by
  intro o ho
  obtain rfl : offset = some o := ho
  obtain ⟨time, -, hrest⟩ := Option.bind_eq_some_iff.mp h
  split at hrest
  · split at hrest
    · cases hrest
    · cases hrest
  · split at hrest
    · cases hrest
      exact .inl rfl
    · cases hrest
  · obtain ⟨zone, -, hzone⟩ := Option.bind_eq_some_iff.mp hrest
    split at hzone
    · cases hzone
      exact offsetOf_eq_zero_or _ zone
    · cases hzone

theorem offset_of_ofClock? {c : Clock} {t : Timestamp} (h : ofClock? c = some t) :
    t.offset = c.offset := by
  rw [ofClock?] at h
  split at h
  · obtain rfl := Option.some.inj h
    rfl
  · cases h

/-- **A timestamp that was read is restorable.** -/
theorem isRestorable_of_read? {cs : List Char} {t : Timestamp} (h : read? cs = some t) :
    t.IsRestorable := by
  rw [IsRestorable]
  obtain ⟨date, -, htime⟩ := Option.bind_eq_some_iff.mp h
  dsimp only at htime
  split at htime
  · have hoffset := offset_of_ofClock? htime
    rw [hoffset]
    intro o ho
    cases ho
  · obtain ⟨⟨time, offset⟩, hread, hclock⟩ := Option.bind_eq_some_iff.mp htime
    have hoffset := offset_of_ofClock? hclock
    rw [hoffset]
    exact eq_zero_or_of_readTime? hread

/-- **A timestamp is read from its ISO 8601 form exactly when it is restorable.** -/
theorem read?_isoText_iff {t : Timestamp} :
    read? (t.isoText 'T').toList = some t ↔ t.IsRestorable :=
  ⟨isRestorable_of_read?, read?_isoText⟩

end Rulebook.Timestamp
