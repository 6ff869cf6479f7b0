/-!
Bytes in base 64. Four signs stand for three bytes; padding at the end tells how many bytes the last
signs stand for. Characters that are no signs are passed over.
-/
namespace PluralMessage.Document.Yaml.Base64

def sextet? (c : Char) : Option Nat :=
  if 'A' ≤ c && c ≤ 'Z' then some (c.toNat - 'A'.toNat)
  else if 'a' ≤ c && c ≤ 'z' then some (c.toNat - 'a'.toNat + 26)
  else if c.isDigit then some (c.toNat - '0'.toNat + 52)
  else if c = '+' then some 62
  else if c = '/' then some 63
  else none

/-- The bytes of a text. `group` holds the signs of the last group so far, in reverse, and `pads` is
the number of paddings since the last sign. -/
def decodeFrom (group : List Nat) (pads : Nat) : List Char → Option (List UInt8)
  | [] => if group.isEmpty then some [] else none
  | c :: s =>
      if c = '=' then
        if 2 ≤ group.length && 4 ≤ group.length + pads + 1 then some []
        else decodeFrom group (if 2 ≤ group.length then pads + 1 else pads) s
      else
        match sextet? c, group with
        | none, _ => decodeFrom group pads s
        | some n, [] => decodeFrom [n] 0 s
        | some n, [a] => (decodeFrom [n, a] 0 s).map ((a * 4 + n / 16).toUInt8 :: ·)
        | some n, [b, a] => (decodeFrom [n, b, a] 0 s).map ((b % 16 * 16 + n / 4).toUInt8 :: ·)
        | some n, b :: _ => (decodeFrom [] 0 s).map ((b % 4 * 64 + n).toUInt8 :: ·)

def decode (s : List Char) : Option (List UInt8) :=
  decodeFrom [] 0 s

end PluralMessage.Document.Yaml.Base64
