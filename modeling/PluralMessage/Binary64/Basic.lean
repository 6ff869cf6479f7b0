/-!
Binary floating-point numbers of 64 bits, and rounding a decimal to the nearest one in exact integer
arithmetic.

A finite number is `mantissa * 2 ^ exponent` with a mantissa below `2 ^ 53`. It is canonical when
the mantissa is at least `2 ^ 52` or the exponent is the least, `-1074`.
-/
namespace PluralMessage

inductive Binary64
  | nan
  | infinite (negative : Bool)
  | finite (negative : Bool) (mantissa : Nat) (exponent : Int)
deriving DecidableEq, Repr

namespace Binary64

def mantissaLimit : Nat := Nat.pow 2 53

/-- The least mantissa of 53 bits. -/
def fullMantissa : Nat := Nat.pow 2 52

def leastExponent : Int := -1074

def greatestExponent : Int := 971

def isZero : Binary64 → Bool
  | finite _ 0 _ => true
  | _ => false

def scale (num den base : Nat) (power : Int) : Nat × Nat :=
  match power with
  | .ofNat k => (num * Nat.pow base k, den)
  | .negSucc k => (num, den * Nat.pow base (k + 1))

/-- The exponent that gives a positive fraction 53 bits, or the least one. -/
def exponentOf (num den : Nat) : Int :=
  let e := max ((num.log2 : Int) - den.log2 - 53) leastExponent
  let (n, d) := scale num den 2 (-e)
  if n / d < mantissaLimit then e else e + 1

/-- The number nearest to a fraction; of two, the one with an even mantissa. -/
def ofFraction (negative : Bool) (num den : Nat) : Binary64 :=
  if num = 0 then finite negative 0 leastExponent
  else
    let e := exponentOf num den
    let (n, d) := scale num den 2 (-e)
    let m := n / d
    let r := n % d
    let m := if d < 2 * r || (d == 2 * r && m % 2 == 1) then m + 1 else m
    let (m, e) := if m = mantissaLimit then (fullMantissa, e + 1) else (m, e)
    if greatestExponent < e then infinite negative else finite negative m e

/-- The number nearest to `mantissa * 10 ^ exponent`. Beyond 330 places nothing is left to
compute. -/
def ofDecimal (negative : Bool) (mantissa : Nat) (exponent : Int) : Binary64 :=
  let magnitude : Int := (Nat.toDigits 10 mantissa).length + exponent
  if mantissa = 0 then finite negative 0 leastExponent
  else if 330 < magnitude then infinite negative
  else if magnitude < -330 then finite negative 0 leastExponent
  else
    let (num, den) := scale mantissa 1 10 exponent
    ofFraction negative num den

/-- The number nearest to a decimal with digits on both sides of its point and a power of ten. -/
def ofParts (negative : Bool) (whole fraction : List Char) (power : Int) : Binary64 :=
  ofDecimal negative (Nat.ofDigitChars 10 (whole ++ fraction) 0) (power - fraction.length)

end Binary64
end PluralMessage
