import PluralMessage.Document.Step

/-!
Dates and times in YAML. Parts are separated by dashes and colons; a time of day may carry a
fraction of a second and an offset.
-/
namespace PluralMessage.Document.Yaml

/-- A date as it is written, and the time of day with its offset, if there is one. In a short date
the month or the day has one digit only. -/
structure Stamp where
  date : Date
  isShort : Bool
  clock : Option (TimeOfDay × Option Int)
deriving DecidableEq, Repr

def takeFraction (s : List Char) : Nat × List Char :=
  match s with
  | '.' :: s =>
      let digits := s.takeWhile Char.isDigit
      (microseconds digits, s.drop digits.length)
  | _ => (0, s)

def offset? (s : List Char) : Option (Option Int) :=
  let inMinutes (negative : Bool) (s : List Char) : Option (Option Int) := do
    let (hours, _, s) ← takeNumber? 1 2 s
    let minutes ← if s.isEmpty then some 0 else do
      let s ← afterChars? [':'] s
      let (minutes, _, s) ← takeNumber? 2 2 s
      if s.isEmpty then some minutes else none
    let offset : Int := 60 * hours + minutes
    some (some (if negative then -offset else offset))
  match s, s.dropWhile fun c => c == ' ' || c == '\t' with
  | [], _ => some none
  | _, ['Z'] => some (some 0)
  | _, '-' :: s => inMinutes true s
  | _, '+' :: s => inMinutes false s
  | _, _ => none

def clock? (s : List Char) : Option (TimeOfDay × Option Int) := do
  let blanks := s.takeWhile fun c => c == ' ' || c == '\t'
  let s ← match blanks, s with
    | [], c :: s => if c = 'T' || c = 't' then some s else none
    | _, s => some (s.drop blanks.length)
  let (hour, _, s) ← takeNumber? 1 2 s
  let s ← afterChars? [':'] s
  let (minute, _, s) ← takeNumber? 2 2 s
  let s ← afterChars? [':'] s
  let (second, _, s) ← takeNumber? 2 2 s
  let (microsecond, s) := takeFraction s
  let offset ← offset? s
  pure (⟨hour, minute, second, microsecond⟩, offset)

/-- The stamp that a text is, whether or not there is such a date. -/
def Stamp.ofText? (s : List Char) : Option Stamp := do
  let (year, _, s) ← takeNumber? 4 4 s
  let s ← afterChars? ['-'] s
  let (month, monthDigits, s) ← takeNumber? 1 2 s
  let s ← afterChars? ['-'] s
  let (day, dayDigits, s) ← takeNumber? 1 2 s
  let clock ← if s.isEmpty then some none else (clock? s).map some
  pure ⟨⟨year, month, day⟩, monthDigits < 2 || dayDigits < 2, clock⟩

/-- The moment of a stamp, if the calendar has it. -/
def Stamp.moment (stamp : Stamp) : Except Moment.Missing Moment :=
  match stamp.clock with
  | none => Moment.ofDate stamp.date
  | some (time, offset) => Moment.ofBoth stamp.date time offset

end PluralMessage.Document.Yaml
