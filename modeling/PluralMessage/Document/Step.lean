import PluralMessage.Decimal
import PluralMessage.Value

/-!
Reading documents. A step takes a text, removes what it reads from the front and returns the rest.
A document that breaks its format is malformed; where in it is not kept. A document can also keep to
its format and still ask for a value that there is not, or nest too deep. How deep one may nest is up
to who reads it.
-/
namespace PluralMessage.Document

/-- A value that a document asks for and that there is not. -/
inductive NoValue
  | digits (base : Nat) (written : List Char)
  | decimal (written : List Char)
  | noDigits
  | truth (written : List Char)
  | timestamp
  | tooLarge
  | surrogate
  | character
  | farCharacter
  | moment (e : Moment.Missing)
deriving DecidableEq, Repr

/-- The beginning of a quoted text, as reports show it. -/
def quotedFront (s : List Char) : String :=
  String.ofList ((Text.quote s).take 200)

def NoValue.message : NoValue → String
  | digits base written => s!"invalid literal for int() with base {base}: {quotedFront written}"
  | decimal written => s!"could not convert string to float: {String.ofList (Text.quote written)}"
  | noDigits => "string index out of range"
  | truth written => String.ofList (Text.quote written)
  | timestamp => "'NoneType' object has no attribute 'groupdict'"
  | tooLarge => "int too large to convert to float"
  | surrogate => "a text holds a surrogate without its other half"
  | character => "chr() arg not in range(0x110000)"
  | farCharacter => "Python int too large to convert to C int"
  | moment e => e.message

/-- What is read where a document nests too deep. -/
inductive TooDeep
  | array
  | object
  | other
deriving DecidableEq, Repr

def TooDeep.message (e : TooDeep) : String :=
  "maximum recursion depth exceeded" ++ match e with
    | array => " while decoding a JSON array from a unicode string"
    | object => " while decoding a JSON object from a unicode string"
    | other => ""

inductive ReadError
  | malformed
  | tooLong (e : Decimal.TooLong)
  | tooDeep (e : TooDeep)
  | noValue (e : NoValue)
deriving DecidableEq, Repr

abbrev Step (α : Type) := List Char → Except ReadError (α × List Char)

def readNat (digits : List Char) : Except ReadError Nat :=
  (Decimal.read digits).mapError ReadError.tooLong

/-- The text that code points make up. -/
def readText (codes : List Nat) : Except ReadError Value :=
  if codes.all Nat.isValidChar then .ok (.text (String.ofList (codes.map Char.ofNat)))
  else .error (.noValue .surrogate)

def hexValue? (c : Char) : Option Nat :=
  if c.isDigit then some (c.toNat - '0'.toNat)
  else if 'a' ≤ c && c ≤ 'f' then some (c.toNat - 'a'.toNat + 10)
  else if 'A' ≤ c && c ≤ 'F' then some (c.toNat - 'A'.toNat + 10)
  else none

def hexNumber (digits : List Char) : Nat :=
  digits.foldl (fun n c => 16 * n + (hexValue? c).getD 0) 0

def readHex (width : Nat) : Step Nat := fun s =>
  let digits := s.take width
  if digits.length = width && digits.all fun c => (hexValue? c).isSome then
    .ok (hexNumber digits, s.drop width)
  else .error .malformed

def afterChars? : List Char → List Char → Option (List Char)
  | [], s => some s
  | _ :: _, [] => none
  | c :: cs, d :: s => if c = d then afterChars? cs s else none

def afterWord? (word : String) (s : List Char) : Option (List Char) :=
  afterChars? word.toList s

/-- A number of `least` to `most` digits, how many they are, and what follows. -/
def takeNumber? (least most : Nat) (s : List Char) : Option (Nat × Nat × List Char) :=
  let digits := (s.take most).takeWhile Char.isDigit
  if least ≤ digits.length then some (Decimal.value digits, digits.length, s.drop digits.length)
  else none

/-- The microseconds that the fraction of a second denotes; what is smaller is dropped. -/
def microseconds (digits : List Char) : Nat :=
  let shown := digits.take 6
  Decimal.value (shown ++ List.replicate (6 - shown.length) '0')

def readSign : List Char → Bool × List Char
  | '-' :: s => (true, s)
  | '+' :: s => (false, s)
  | s => (false, s)

def signed (negative : Bool) (digits : List Char) : Int :=
  let n : Int := Decimal.value digits
  if negative then -n else n

end PluralMessage.Document
