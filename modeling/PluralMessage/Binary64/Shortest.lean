import PluralMessage.Binary64.Basic

/-!
The shortest decimal that rounds to a binary number of 64 bits, and its text. All reals that round
to a number lie between two ends; the coarsest grid of powers of ten with a point between them gives
the digits.
-/
namespace PluralMessage.Binary64

/-- The reals that round to a number, as the two ends `(low / den, high / den)`. -/
structure Rounding where
  low : Nat
  value : Nat
  high : Nat
  den : Nat
  closed : Bool

/-- Below a power of two the next number is only half as far away. -/
def rounding (mantissa : Nat) (exponent : Int) : Rounding :=
  let below := if mantissa = fullMantissa ∧ exponent ≠ leastExponent then 1 else 2
  let (unit, den) := scale 1 1 2 (exponent - 2)
  { low := (4 * mantissa - below) * unit
    value := 4 * mantissa * unit
    high := (4 * mantissa + 2) * unit
    den := den
    closed := mantissa % 2 == 0 }

/-- Whether `digits * 10 ^ power` rounds to the number. -/
def Rounding.holds (r : Rounding) (digits : Nat) (power : Int) : Bool :=
  let (num, den) := scale digits 1 10 power
  let x := num * r.den
  if r.closed then r.low * den ≤ x && x ≤ r.high * den
  else r.low * den < x && x < r.high * den

/-- The neighbour on a grid of powers of ten that rounds to the number, the nearer one of two and
the even one of two as near. -/
def Rounding.onGrid? (r : Rounding) (power : Int) : Option Nat :=
  let (num, den) := scale r.value r.den 10 (-power)
  let below := num / den
  let rest := num % den
  let first := if 2 * rest < den || (2 * rest == den && below % 2 == 0) then below else below + 1
  let second := if first = below then below + 1 else below
  if r.holds first power then some first
  else if r.holds second power then some second
  else none

/-- The position of the decimal point before the first digit: the least `p` with a value below
`10 ^ p`. -/
def Rounding.point (r : Rounding) : Int :=
  let guess := ((r.value.log2 : Int) - r.den.log2) * 30103 / 100000 - 1
  let fits (p : Int) : Bool :=
    let (num, den) := scale r.value r.den 10 (-p)
    num < den
  ((List.range 6).find? fun k : Nat => fits (guess + k)).elim guess fun k => guess + k

/-- The shortest decimal, as a number and a power of ten, that rounds to a positive number. -/
def shortest (mantissa : Nat) (exponent : Int) : Nat × Int :=
  let r := rounding mantissa exponent
  let point := r.point
  let found := (List.range 17).findSome? fun k : Nat =>
    let power := point - (k + 1)
    (r.onGrid? power).map (·, power)
  found.getD (0, 0)

/-- Digits with a point after the first `point` of them, which lie between -4 and 16. -/
def positional (digits : List Char) (point : Int) : List Char :=
  if point ≤ 0 then '0' :: '.' :: List.replicate (-point).toNat '0' ++ digits
  else
    let n := point.toNat
    if digits.length ≤ n then digits ++ List.replicate (n - digits.length) '0' ++ ['.', '0']
    else digits.take n ++ '.' :: digits.drop n

/-- Digits with a power of ten of at least two digits. -/
def scientific (digits : List Char) (power : Int) : List Char :=
  let mantissa := match digits with
    | d :: rest => if rest.isEmpty then [d] else d :: '.' :: rest
    | [] => []
  let size := Nat.toDigits 10 power.natAbs
  mantissa ++ 'e' :: (if power < 0 then '-' else '+') ::
    (List.replicate (2 - size.length) '0' ++ size)

/-- The decimal text of a number: positional from 0.0001 up to 16 digits before the point, with a
power of ten otherwise. -/
def print : Binary64 → List Char
  | nan => ['n', 'a', 'n']
  | infinite negative => (if negative then ['-'] else []) ++ ['i', 'n', 'f']
  | finite negative mantissa exponent =>
      let sign := if negative then ['-'] else []
      if mantissa = 0 then sign ++ ['0', '.', '0']
      else
        let (n, power) := shortest mantissa exponent
        let digits := Nat.toDigits 10 n
        let point := power + digits.length
        let digits := (digits.reverse.dropWhile (· == '0')).reverse
        if -4 < point ∧ point ≤ 16 then sign ++ positional digits point
        else sign ++ scientific digits (point - 1)

end PluralMessage.Binary64
