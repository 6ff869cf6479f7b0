import PluralMessage.Interval.Parser
import PluralMessage.Value

/-!
What can go wrong with a request, and how it is reported: an interval that is none, an argument of
the wrong type, a plural form that the message does not have, and a number with too many digits to
be read or to be written.
-/
namespace PluralMessage

/-- A value given as an interval is none. The reason is known when the value is a text. -/
structure InvalidInterval where
  interval : Value
  reason : Option String

def InvalidInterval.message (e : InvalidInterval) : String :=
  match e.interval with
  | .text s =>
      let reason := e.reason.getD ""
      if reason.isEmpty then s!"Invalid interval: {s}" else s!"Invalid interval: {s} ({reason})"
  | _ => "Invalid interval: should be a string."

/-- An argument has the wrong type. Its value is reported in its written form. -/
structure InvalidArgument where
  argument : String
  value : Value
  expected : String
  written : List Char
  written_eq : value.written = some written

/-- The report of a value, unless it cannot be written. -/
def InvalidArgument.of? (argument : String) (value : Value) (expected : String) :
    Option InvalidArgument :=
  match h : value.written with
  | some written => some ⟨argument, value, expected, written, h⟩
  | none => none

def InvalidArgument.message (e : InvalidArgument) : String :=
  s!"Invalid {e.argument}: expected {e.expected}, got {e.value.kind} ({String.ofList e.written})"

/-- The plural form that a count asks for is past the variants of the message. -/
structure MissingForm where
  index : Nat
  variants : Nat
  locale : String
deriving DecidableEq, Repr

def missingFormMessage (index variants locale : String) : String :=
  s!"Plural form {index} for locale '{locale}' is out of range " ++
    s!"for a message with {variants} variants"

def MissingForm.message (e : MissingForm) : String :=
  missingFormMessage (toString e.index) (toString e.variants) e.locale

namespace Interval

def Wanted.describe : Wanted → String
  | opening => "expected '\x7b', '[' or ']'"
  | comma => "expected ','"
  | closingBrace => "expected '\x7d'"
  | bracket => "expected '[' or ']'"
  | number => "expected a number"

namespace Malformed

/-- The text that is reported as no interval. -/
def text : Malformed → List Char
  | wanted _ text _ | trailing text _ => text

/-- How many characters of the trimmed text were read before the fault. -/
def place : Malformed → Nat
  | wanted _ _ place | trailing _ place => place

def reason : Malformed → String
  | wanted what _ place => s!"{what.describe} at position {place}"
  | trailing _ place => s!"unexpected trailing text at position {place}"

def report (e : Malformed) : InvalidInterval where
  interval := .text (String.ofList e.text)
  reason := some e.reason

def message (e : Malformed) : String :=
  e.report.message

end Malformed
end Interval

inductive Error
  | interval (e : InvalidInterval)
  | argument (e : InvalidArgument)
  | form (e : MissingForm)
  | tooLong (e : Decimal.TooLong)
  | tooLarge

namespace Error

def message : Error → String
  | interval e => e.message
  | argument e => e.message
  | form e => e.message
  | tooLong e => e.message
  | tooLarge => Decimal.tooLargeMessage

def ofRead : Interval.ReadError → Error
  | .malformed e => interval e.report
  | .tooLong e => tooLong e

def ofArgument (argument : String) (value : Value) (expected : String) : Error :=
  (InvalidArgument.of? argument value expected).elim tooLarge Error.argument

end Error

namespace Value

/-- A whole number, which a truth value is not. -/
def readCount : Value → Except Error Int
  | int n => .ok n
  | v => .error (.ofArgument "count" v "int")

def readText (argument : String) : Value → Except Error (List Char)
  | text s => .ok s.toList
  | v => .error (.ofArgument argument v "str")

def readChars (v : Value) : Except Error (List Char) :=
  match v.chars? with
  | some s => .ok s
  | none => .error .tooLarge

def readInterval : Value → Except Error Interval
  | text s => (Interval.read s.toList).mapError Error.ofRead
  | v => .error (.interval ⟨v, none⟩)

end Value

/-- Whether a count lies in an interval, both given as values. The count is looked at first. -/
def Interval.test (count interval : Value) : Except Error Bool := do
  let n ← count.readCount
  let i ← interval.readInterval
  pure (i.contains n)

end PluralMessage
