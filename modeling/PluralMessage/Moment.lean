import PluralMessage.Decimal

/-!
Dates and times of day, as settings files hold them. A moment is made from its parts only if the
calendar has it. It is written as an expression that shows the parts; the seconds are left out when
nothing from them on differs from zero.
-/
namespace PluralMessage

structure Date where
  year : Nat
  month : Nat
  day : Nat
deriving DecidableEq, Repr

structure TimeOfDay where
  hour : Nat
  minute : Nat
  second : Nat
  microsecond : Nat
deriving DecidableEq, Repr

/-- A date, a time of day or both. The offset from universal time is in minutes. -/
inductive Moment
  | date (date : Date)
  | time (time : TimeOfDay)
  | both (date : Date) (time : TimeOfDay) (offset : Option Int)
deriving DecidableEq, Repr

namespace Moment

inductive Missing
  | year (year : Nat)
  | month
  | day
  | hour
  | minute
  | second
  | offset (minutes : Int)
deriving DecidableEq, Repr

def isLeap (year : Nat) : Bool :=
  year % 4 == 0 && (year % 100 != 0 || year % 400 == 0)

def daysIn (year month : Nat) : Nat :=
  if month = 2 then (if isLeap year then 29 else 28)
  else if [4, 6, 9, 11].contains month then 30
  else 31

def checkDate (date : Date) : Except Missing Unit :=
  if date.year = 0 then .error (.year date.year)
  else if date.month = 0 || 12 < date.month then .error .month
  else if date.day = 0 || daysIn date.year date.month < date.day then .error .day
  else .ok ()

def checkTime (time : TimeOfDay) : Except Missing Unit :=
  if 24 ≤ time.hour then .error .hour
  else if 60 ≤ time.minute then .error .minute
  else if 60 ≤ time.second then .error .second
  else .ok ()

/-- An offset is less than a day. -/
def checkOffset (offset : Option Int) : Except Missing Unit :=
  match offset with
  | some minutes => if 1440 ≤ minutes.natAbs then .error (.offset minutes) else .ok ()
  | none => .ok ()

def ofDate (d : Date) : Except Missing Moment := do
  checkDate d
  pure (date d)

/-- A date with a time; the offset is looked at first. -/
def ofBoth (d : Date) (t : TimeOfDay) (offset : Option Int) : Except Missing Moment := do
  checkOffset offset
  checkDate d
  checkTime t
  pure (both d t offset)

/-- The number of a day, counted from the first one of year 1. -/
def dayNumber (d : Date) : Nat :=
  let years := d.year - 1
  let beforeYear := 365 * years + years / 4 - years / 100 + years / 400
  (List.range (d.month - 1)).foldl (fun sum m => sum + daysIn d.year (m + 1)) beforeYear + d.day

/-- The microseconds of universal time up to a moment at an offset. -/
def instant (d : Date) (t : TimeOfDay) (offset : Int) : Int :=
  let minutes : Int := (dayNumber d * 24 + t.hour) * 60 + t.minute
  ((minutes - offset) * 60 + t.second) * 1000000 + t.microsecond

/-- Whether two moments are the same. At known offsets it is the time that counts. -/
def same : Moment → Moment → Bool
  | both d t (some offset), both d' t' (some offset') => instant d t offset == instant d' t' offset'
  | m, m' => m == m'

/-- Why two moments have no order: one has a time of day only, or an offset only. -/
inductive Unordered
  | day
  | offset
deriving DecidableEq, Repr

def unordered? : Moment → Moment → Option Unordered
  | date _, both .. | both .., date _ => some .day
  | both _ _ offset, both _ _ offset' =>
      if offset.isSome = offset'.isSome then none else some .offset
  | _, _ => none

def Unordered.message : Unordered → String
  | day => "can't compare datetime.datetime to datetime.date"
  | offset => "can't compare offset-naive and offset-aware datetimes"

def kind : Moment → String
  | date _ => "datetime.date"
  | time _ => "datetime.time"
  | both .. => "datetime.datetime"

def call (name : String) (arguments : List (List Char)) : List Char :=
  name.toList ++ '(' :: ", ".toList.intercalate arguments ++ [')']

def named (name : String) (value : List Char) : List Char :=
  name.toList ++ '=' :: value

def dateParts (d : Date) : List (List Char) :=
  [d.year, d.month, d.day].map Decimal.ofNat

def timeParts (t : TimeOfDay) : List (List Char) :=
  let parts :=
    if t.microsecond ≠ 0 then [t.hour, t.minute, t.second, t.microsecond]
    else if t.second ≠ 0 then [t.hour, t.minute, t.second]
    else [t.hour, t.minute]
  parts.map Decimal.ofNat

/-- A span of time in days, which may be negative, and seconds, which are not. -/
def writtenSpan (minutes : Int) : List Char :=
  let days := minutes.fdiv 1440
  let seconds := minutes.fmod 1440 * 60
  let parts := (if days = 0 then [] else [named "days" (Decimal.ofInt days)]) ++
    if seconds = 0 then [] else [named "seconds" (Decimal.ofInt seconds)]
  call "datetime.timedelta" (if parts.isEmpty then [['0']] else parts)

def writtenOffset (minutes : Int) : List Char :=
  if minutes = 0 then "datetime.timezone.utc".toList
  else call "datetime.timezone" [writtenSpan minutes]

def written (m : Moment) : List Char :=
  match m with
  | date d => call m.kind (dateParts d)
  | time t => call m.kind (timeParts t)
  | both d t offset =>
      let zone := offset.toList.map fun minutes => named "tzinfo" (writtenOffset minutes)
      call m.kind (dateParts d ++ timeParts t ++ zone)

/-- How many levels nest in a written moment: an offset is written as a zone, and one that is not
zero has a span in it. -/
def depth : Moment → Nat
  | both _ _ (some minutes) => if minutes = 0 then 1 else 2
  | _ => 0

def Missing.message : Missing → String
  | year n => s!"year {n} is out of range"
  | month => "month must be in 1..12"
  | day => "day is out of range for month"
  | hour => "hour must be in 0..23"
  | minute => "minute must be in 0..59"
  | second => "second must be in 0..59"
  | offset minutes =>
      "offset must be a timedelta strictly between -timedelta(hours=24) and " ++
        s!"timedelta(hours=24), not {String.ofList (writtenSpan minutes)}."

end Moment
end PluralMessage
