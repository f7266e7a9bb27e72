import Rulebook.Timestamp

/-!
# Writing timestamps

Two spellings of a timestamp: the ISO 8601 form, and the **constructor form** that shows a timestamp
inside other values, `datetime.datetime(2024, 1, 31, 9, 5)`.
-/

namespace Rulebook

namespace Timestamp

/-- A number with at least `width` decimal digits. -/
def padded (width n : Nat) : List Char :=
  let digits := Nat.toDigits 10 n
  List.replicate (width - digits.length) '0' ++ digits

/-- A count of microseconds as a fraction, when there are any. -/
def fraction (microseconds : Nat) : List Char :=
  if microseconds = 0 then [] else '.' :: padded 6 microseconds

/-- An offset: a sign, hours and minutes, then seconds and their fraction when there are any. -/
def offsetText (offset : Int) : List Char :=
  let size := offset.natAbs
  let seconds := size / 1000000
  let rest := if size % 60000000 = 0 then []
    else ':' :: (padded 2 (seconds % 60) ++ fraction (size % 1000000))
  (if offset < 0 then '-' else '+') ::
    (padded 2 (seconds / 3600) ++ ':' :: (padded 2 (seconds / 60 % 60) ++ rest))

/-- The ISO 8601 form, with a separator between the date and the time. -/
def isoText (separator : Char) (t : Timestamp) : String :=
  String.ofList <|
    padded 4 t.year ++ '-' :: padded 2 t.month ++ '-' :: padded 2 t.day ++
    separator :: padded 2 t.hour ++ ':' :: padded 2 t.minute ++ ':' :: padded 2 t.second ++
    fraction t.microsecond ++ (t.offset.map offsetText).getD []

/-- The named fields of a duration that are not zero. -/
def durationText (microseconds : Int) : String :=
  let seconds := microseconds.fdiv perSecond
  let field := fun (name : String) (n : Int) => if n = 0 then [] else [name ++ "=" ++ toString n]
  "datetime.timedelta(" ++ ", ".intercalate
    (field "days" (seconds.fdiv 86400) ++ field "seconds" (seconds.fmod 86400) ++
      field "microseconds" (microseconds.fmod perSecond)) ++ ")"

/-- The constructor form: trailing zero seconds and microseconds are left out. -/
def constructorText (t : Timestamp) : String :=
  let seconds :=
    if t.microsecond ≠ 0 then [t.second, t.microsecond]
    else if t.second ≠ 0 then [t.second]
    else []
  let fields := ([t.year, t.month, t.day, t.hour, t.minute] ++ seconds).map toString
  let zone :=
    match t.offset with
    | none => []
    | some 0 => ["tzinfo=datetime.timezone.utc"]
    | some offset => ["tzinfo=datetime.timezone(" ++ durationText offset ++ ")"]
  "datetime.datetime(" ++ ", ".intercalate (fields ++ zone) ++ ")"

end Timestamp

end Rulebook
