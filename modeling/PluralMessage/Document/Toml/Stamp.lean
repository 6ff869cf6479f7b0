import PluralMessage.Document.Step

/-!
Dates and times in TOML. Every part has all of its digits; a time of day may carry a fraction of a
second, and after a date an offset too.
-/
namespace PluralMessage.Document.Toml

/-- A part of so many digits, between two bounds. -/
def takePart? (width least most : Nat) (s : List Char) : Option (Nat × List Char) := do
  let (n, _, s) ← takeNumber? width width s
  if least ≤ n && n ≤ most then some (n, s) else none

def takeDate? (s : List Char) : Option (Date × List Char) := do
  let (year, s) ← takePart? 4 0 9999 s
  let s ← afterChars? ['-'] s
  let (month, s) ← takePart? 2 1 12 s
  let s ← afterChars? ['-'] s
  let (day, s) ← takePart? 2 1 31 s
  pure (⟨year, month, day⟩, s)

/-- The microseconds of a fraction, and what follows it. A point without digits is no fraction. -/
def takeFraction (s : List Char) : Nat × List Char :=
  match s with
  | '.' :: rest =>
      let digits := rest.takeWhile Char.isDigit
      if digits.isEmpty then (0, s) else (microseconds digits, rest.drop digits.length)
  | _ => (0, s)

def takeTime? (s : List Char) : Option (TimeOfDay × List Char) := do
  let (hour, s) ← takePart? 2 0 23 s
  let s ← afterChars? [':'] s
  let (minute, s) ← takePart? 2 0 59 s
  let s ← afterChars? [':'] s
  let (second, s) ← takePart? 2 0 59 s
  let (microsecond, s) := takeFraction s
  pure (⟨hour, minute, second, microsecond⟩, s)

def takeOffset? (negative : Bool) (s : List Char) : Option (Int × List Char) := do
  let (hours, s) ← takePart? 2 0 23 s
  let s ← afterChars? [':'] s
  let (minutes, s) ← takePart? 2 0 59 s
  let offset : Int := 60 * hours + minutes
  pure (if negative then -offset else offset, s)

def takeZone (s : List Char) : Option Int × List Char :=
  let signed (found : Option (Int × List Char)) : Option Int × List Char :=
    match found with
    | some (offset, rest) => (some offset, rest)
    | none => (none, s)
  match s with
  | 'Z' :: rest | 'z' :: rest => (some 0, rest)
  | '+' :: rest => signed (takeOffset? false rest)
  | '-' :: rest => signed (takeOffset? true rest)
  | _ => (none, s)

/-- The time of day after a date, with its offset. -/
def takeClock? : List Char → Option (TimeOfDay × Option Int × List Char)
  | c :: s => do
      let (time, s) ← if c = 'T' || c = 't' || c = ' ' then takeTime? s else none
      let (offset, s) := takeZone s
      pure (time, offset, s)
  | [] => none

/-- A date, with a time of day if one follows, or a time of day. What is no moment of the calendar
is malformed. -/
def readMoment? (s : List Char) : Option (Except ReadError (Moment × List Char)) :=
  let checked (found : Except Moment.Missing Moment) (rest : List Char) :
      Except ReadError (Moment × List Char) :=
    match found with
    | .ok m => .ok (m, rest)
    | .error _ => .error .malformed
  match takeDate? s with
  | some (date, s) =>
      match takeClock? s with
      | some (time, offset, s) => some (checked (Moment.ofBoth date time offset) s)
      | none => some (checked (Moment.ofDate date) s)
  | none => (takeTime? s).map fun (time, s) => .ok (.time time, s)

end PluralMessage.Document.Toml
