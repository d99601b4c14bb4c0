import EventTasks.Fault

/-!
Times of day and dates in universal time, from whole seconds since the start of 1970. Seconds are
counted with 64 bits, and years since 1900 and from the first one with 32 bits each.
-/
namespace EventTasks.Log

structure Moment where
  year : Int
  month : Int
  day : Int
  hour : Int
  minute : Int
  second : Int

/-- The year, month and day of a day number. Years are counted from March, so that a leap day is the
last of its year; `era` is a cycle of four hundred years. -/
def civilDate (days : Int) : Int × Int × Int :=
  let z := days + 719468
  let era := z / 146097
  let dayOfEra := z % 146097
  let yearOfEra :=
    (dayOfEra - dayOfEra / 1460 + dayOfEra / 36524 - dayOfEra / 146096) / 365
  let dayOfYear := dayOfEra - (365 * yearOfEra + yearOfEra / 4 - yearOfEra / 100)
  let shifted := (5 * dayOfYear + 2) / 153
  let day := dayOfYear - (153 * shifted + 2) / 5 + 1
  let month := if shifted < 10 then shifted + 3 else shifted - 9
  let year := yearOfEra + era * 400
  (if month ≤ 2 then year + 1 else year, month, day)

namespace Moment

def ofSeconds (seconds : Int) : Moment :=
  let date := civilDate (seconds / 86400)
  let rest := seconds % 86400
  ⟨date.1, date.2.1, date.2.2, rest / 3600, rest % 3600 / 60, rest % 60⟩

def fits (bits : Nat) (i : Int) : Bool :=
  decide (-Int.pow 2 (bits - 1) ≤ i) && decide (i < Int.pow 2 (bits - 1))

def ofSeconds? (seconds : Int) : Except Fault Moment :=
  if !fits 64 seconds then .error .timeOutOfRange
  else
    let m := ofSeconds seconds
    if !fits 32 (m.year - 1900) then .error .timeTooGreat
    else if !fits 32 m.year then .error .yearTooGreat
    else .ok m

def twoDigits (n : Int) : String :=
  String.ofList [Nat.digitChar (n.toNat / 10 % 10), Nat.digitChar (n.toNat % 10)]

/-- The time of a record as `%y-%m-%d %H:%M:%S`. -/
def stamp (m : Moment) : String :=
  twoDigits (m.year % 100) ++ "-" ++ twoDigits m.month ++ "-" ++ twoDigits m.day ++ " " ++
    twoDigits m.hour ++ ":" ++ twoDigits m.minute ++ ":" ++ twoDigits m.second

end Moment

end EventTasks.Log
