import PluralMessage.Binary64.Arithmetic
import PluralMessage.Decimal.Typed
import PluralMessage.Document.Step
import PluralMessage.Document.Yaml.Tag
import PluralMessage.Text.Case

/-!
Numbers in YAML scalars. Low lines are dropped; a number with colons is in base sixty. The parts of
a number may be of any script and have blanks around them.
-/
namespace PluralMessage.Document.Yaml

def dropLowLines (s : List Char) : List Char :=
  s.filter (· != '_')

/-- A text without blanks at both ends and with digits of ASCII only. -/
def normalDigits (s : List Char) : List Char :=
  (Decimal.trimPadding s).map fun c => (Text.digitValue? c).elim c Nat.digitChar

/-- The letters that announce a base after a zero. -/
def baseLetters (base : Nat) : List Char :=
  if base = 16 then ['x', 'X'] else if base = 8 then ['o', 'O'] else if base = 2 then ['b', 'B']
  else []

/-- The digits after the announcement of a base, if there is one. -/
def afterBase (base : Nat) (s : List Char) : List Char :=
  match s with
  | '0' :: c :: digits => if (baseLetters base).contains c then digits else s
  | _ => s

def wholeIn (base : Nat) (written : List Char) : Except ReadError Int := do
  let (negative, s) := splitSign (normalDigits written)
  let s := afterBase base s
  let digits := s.takeWhile fun c => (hexValue? c).any (· < base)
  let size ← if base = 10 then readNat digits
    else pure (digits.foldl (fun n c => base * n + (hexValue? c).getD 0) 0)
  if digits.isEmpty || digits.length < s.length then .error (.noValue (.digits base written))
  else pure (if negative then -(size : Int) else size)

def wholeAfterSign (s : List Char) : Except ReadError Int :=
  match s with
  | [] => .error (.noValue .noDigits)
  | ['0'] => .ok 0
  | '0' :: 'b' :: digits => wholeIn 2 digits
  | '0' :: 'x' :: digits => wholeIn 16 digits
  | '0' :: _ => wholeIn 8 s
  | _ =>
      if s.contains ':' then do
        let parts ← (splitColons s).mapM (wholeIn 10)
        pure (parts.foldl (fun n part => 60 * n + part) 0)
      else wholeIn 10 s

def readWhole (s : List Char) : Except ReadError Value := do
  let (negative, s) := splitSign (dropLowLines s)
  let n ← wholeAfterSign s
  pure (.int (if negative then -n else n))

def power? (s : List Char) : Option Int :=
  match s with
  | [] => some 0
  | e :: s =>
      let (negative, digits) := readSign s
      if (e == 'e' || e == 'E') && !digits.isEmpty && digits.all Char.isDigit then
        some (signed negative digits)
      else none

/-- The real that digits denote; the point and the power may be missing. -/
def decimal? (negative : Bool) (s : List Char) : Option Binary64 := do
  let whole := s.takeWhile Char.isDigit
  let rest := s.drop whole.length
  let fraction := if rest.head? == some '.' then (rest.drop 1).takeWhile Char.isDigit else []
  let rest := if rest.head? == some '.' then rest.drop (fraction.length + 1) else rest
  let power ← power? rest
  if whole.isEmpty && fraction.isEmpty then none
  else some (.ofParts negative whole fraction power)

def realIn (written : List Char) : Except ReadError Binary64 :=
  let (negative, s) := splitSign (normalDigits written)
  if s = "inf".toList || s = "infinity".toList then .ok (.infinite negative)
  else if s = "nan".toList then .ok .nan
  else
    match decimal? negative s with
    | some x => .ok x
    | none => .error (.noValue (.decimal written))

/-- The sum of parts, the last one first, each of which counts sixty times as much as the one
before. What a part counts must be a real. -/
def sumSixties : (sum : Binary64) → (unit : Nat) → List Binary64 → Except ReadError Binary64
  | sum, _, [] => .ok sum
  | sum, unit, part :: parts =>
      match Binary64.ofFraction false unit 1 with
      | .infinite _ => .error (.noValue .tooLarge)
      | x => sumSixties (sum.add (part.mul x)) (60 * unit) parts

def realAfterSign (s : List Char) : Except ReadError Binary64 :=
  if s = ".inf".toList then .ok (.infinite false)
  else if s = ".nan".toList then .ok .nan
  else if s.contains ':' then do
    let parts ← (splitColons s).mapM realIn
    sumSixties (.ofFraction false 0 1) 1 parts.reverse
  else realIn s

def readReal (s : List Char) : Except ReadError Value := do
  let s := Text.lower (dropLowLines s)
  if s.isEmpty then .error (.noValue .noDigits)
  else
    let (negative, s) := splitSign s
    let x ← realAfterSign s
    pure (.real (if negative then x.negate else x))

end PluralMessage.Document.Yaml
