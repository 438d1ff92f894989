import ClusterManifest.Text.Blank
import ClusterManifest.Text.Digit

/-! Calendar dates and moments of the day, in the Gregorian calendar carried back to
year 1. A moment may say how far its clock is ahead of universal time; two that do are the
same when they name the same instant. -/

namespace ClusterManifest

structure Date where
  year : Nat
  month : Nat
  day : Nat
  deriving DecidableEq, Repr

structure Moment where
  date : Date
  hour : Nat
  minute : Nat
  second : Nat
  microsecond : Nat
  /-- How many seconds the clock is ahead of universal time, when that is known. -/
  offset : Option Int
  deriving DecidableEq, Repr

namespace Calendar

/-- Why numbers are no date, no moment or no offset. -/
inductive Fault
  | noSuchYear (number : Nat)
  | noSuchMonth
  | noSuchDay
  | noSuchHour
  | noSuchMinute
  | noSuchSecond
  | offsetTooLarge (seconds : Int)
  deriving DecidableEq, Repr

def isLeapYear (year : Nat) : Bool :=
  year % 4 == 0 && (year % 100 != 0 || year % 400 == 0)

def daysInMonth (year month : Nat) : Nat :=
  if month = 2 then (if isLeapYear year then 29 else 28)
  else if month = 4 ∨ month = 6 ∨ month = 9 ∨ month = 11 then 30
  else 31

def daySeconds : Int := 86400

def date (year month day : Nat) : Except Fault Date :=
  if year < 1 ∨ 9999 < year then .error (.noSuchYear year)
  else if month < 1 ∨ 12 < month then .error .noSuchMonth
  else if day < 1 ∨ daysInMonth year month < day then .error .noSuchDay
  else .ok ⟨year, month, day⟩

def offset (seconds : Int) : Except Fault Int :=
  if -daySeconds < seconds ∧ seconds < daySeconds then .ok seconds
  else .error (.offsetTooLarge seconds)

def moment (date : Date) (hour minute second microsecond : Nat) (offset : Option Int) :
    Except Fault Moment :=
  if 23 < hour then .error .noSuchHour
  else if 59 < minute then .error .noSuchMinute
  else if 59 < second then .error .noSuchSecond
  else .ok ⟨date, hour, minute, second, microsecond, offset⟩

/-- A length of time as the days and seconds that it is written with: the days rounded
down, so that the seconds are not negative. -/
def durationText (seconds : Int) : List Char :=
  let days := Int.fdiv seconds daySeconds
  let rest := Int.fmod seconds daySeconds
  let dayPart := "days=".toList ++ Text.decimalInt days
  let secondPart := "seconds=".toList ++ Text.decimalInt rest
  let parts :=
    if days = 0 then (if rest = 0 then "0".toList else secondPart)
    else if rest = 0 then dayPart
    else dayPart ++ ", ".toList ++ secondPart
  "datetime.timedelta(".toList ++ parts ++ ")".toList

def Fault.message : Fault → String
  | .noSuchYear number => "year " ++ toString number ++ " is out of range"
  | .noSuchMonth => "month must be in 1..12"
  | .noSuchDay => "day is out of range for month"
  | .noSuchHour => "hour must be in 0..23"
  | .noSuchMinute => "minute must be in 0..59"
  | .noSuchSecond => "second must be in 0..59"
  | .offsetTooLarge seconds =>
    "offset must be a timedelta strictly between -timedelta(hours=24) and " ++
      "timedelta(hours=24), not " ++ String.ofList (durationText seconds) ++ "."

def daysBeforeYear (year : Nat) : Nat :=
  let y := year - 1
  365 * y + y / 4 - y / 100 + y / 400

def daysBeforeMonth (year month : Nat) : Nat :=
  (List.range (month - 1)).foldl (fun days k => days + daysInMonth year (k + 1)) 0

end Calendar

namespace Date

def dayNumber (d : Date) : Nat :=
  Calendar.daysBeforeYear d.year + Calendar.daysBeforeMonth d.year d.month + d.day

def text (d : Date) : List Char :=
  Text.decimalPadded 4 d.year ++ '-' :: Text.decimalPadded 2 d.month ++
    '-' :: Text.decimalPadded 2 d.day

def record (d : Date) : List Char :=
  "datetime.date(".toList ++ Text.decimal d.year ++ ", ".toList ++ Text.decimal d.month ++
    ", ".toList ++ Text.decimal d.day ++ ")".toList

end Date

namespace Moment

def instant (m : Moment) : Int :=
  let seconds : Int := m.date.dayNumber * 86400 + m.hour * 3600 + m.minute * 60 + m.second
  (seconds - m.offset.getD 0) * 1000000 + m.microsecond

/-- The same moment: both clocks tell their offset, or neither does, and the instants are
equal. -/
def same (a b : Moment) : Bool :=
  a.offset.isSome == b.offset.isSome && a.instant == b.instant

def offsetText (seconds : Int) : List Char :=
  let minutes := seconds.natAbs / 60
  (if seconds < 0 then '-' else '+') :: Text.decimalPadded 2 (minutes / 60) ++
    ':' :: Text.decimalPadded 2 (minutes % 60)

/-- A moment as date and time with a space between, then the offset if it is known. -/
def text (m : Moment) : List Char :=
  m.date.text ++ ' ' :: Text.decimalPadded 2 m.hour ++ ':' :: Text.decimalPadded 2 m.minute ++
    ':' :: Text.decimalPadded 2 m.second ++
    (if m.microsecond = 0 then [] else '.' :: Text.decimalPadded 6 m.microsecond) ++
    (match m.offset with
      | none => []
      | some seconds => offsetText seconds)

/-- A moment as a record of its numbers; seconds and microseconds are left out when they
and all after them are zero. -/
def record (m : Moment) : List Char :=
  let tail :=
    if m.microsecond = 0 then (if m.second = 0 then [] else [m.second])
    else [m.second, m.microsecond]
  let numbers := [m.date.year, m.date.month, m.date.day, m.hour, m.minute] ++ tail
  let zone :=
    match m.offset with
    | none => []
    | some seconds =>
      ", tzinfo=".toList ++
        (if seconds = 0 then "datetime.timezone.utc".toList
        else "datetime.timezone(".toList ++ Calendar.durationText seconds ++ ")".toList)
  "datetime.datetime(".toList ++ Text.joinWith ", ".toList (numbers.map Text.decimal) ++
    zone ++ ")".toList

end Moment

end ClusterManifest
