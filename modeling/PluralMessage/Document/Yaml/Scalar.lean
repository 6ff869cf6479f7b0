import PluralMessage.Document.Yaml.Base64
import PluralMessage.Document.Yaml.Number

/-!
The values of YAML scalars.
-/
namespace PluralMessage.Document.Yaml

def readTruth (s : List Char) : Except ReadError Value :=
  let word := Text.lower s
  if trueWords.contains word then .ok (.bool true)
  else if falseWords.contains word then .ok (.bool false)
  else .error (.noValue (.truth word))

def readTimestamp (s : List Char) : Except ReadError Value :=
  match Stamp.ofText? (withoutLastBreak s) with
  | none => .error (.noValue .timestamp)
  | some stamp =>
      match stamp.moment with
      | .ok m => .ok (.moment m)
      | .error e => .error (.noValue (.moment e))

/-- Bytes in base 64, in a text that is all ASCII. -/
def readBytes (s : List Char) : Except ReadError Value :=
  match Base64.decode s with
  | some bytes => if s.all fun c => c.toNat < 0x80 then .ok (.bytes bytes) else .error .malformed
  | none => .error .malformed

/-- The value of a scalar, given by its code points. -/
def scalarValue (tag : Tag) (codes : List Nat) : Except ReadError Value :=
  let read (reader : List Char → Except ReadError Value) : Except ReadError Value :=
    if codes.all Nat.isValidChar then reader (codes.map Char.ofNat) else .error .malformed
  match tag with
  | .null => .ok .null
  | .text => readText codes
  | .bool => read readTruth
  | .int => read readWhole
  | .float => read readReal
  | .timestamp => read readTimestamp
  | .binary => read readBytes
  | _ => .error .malformed

end PluralMessage.Document.Yaml
