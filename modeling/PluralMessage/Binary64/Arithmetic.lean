import PluralMessage.Binary64.Basic

/-!
Sums and products of binary numbers, rounded to the nearest number.
-/
namespace PluralMessage.Binary64

def negate : Binary64 → Binary64
  | nan => nan
  | infinite negative => infinite !negative
  | finite negative mantissa exponent => finite (!negative) mantissa exponent

def fraction (mantissa : Nat) (exponent : Int) : Nat × Nat :=
  scale mantissa 1 2 exponent

def add : Binary64 → Binary64 → Binary64
  | finite p m e, finite q n f =>
      let (a, b) := fraction m e
      let (c, d) := fraction n f
      let signed (negative : Bool) (size : Nat) : Int := if negative then -size else size
      let sum := signed p (a * d) + signed q (c * b)
      ofFraction (if sum = 0 then p && q else sum < 0) sum.natAbs (b * d)
  | nan, _ | _, nan => nan
  | infinite p, infinite q => if p = q then infinite p else nan
  | infinite p, _ => infinite p
  | _, infinite q => infinite q

def mul : Binary64 → Binary64 → Binary64
  | finite p m e, finite q n f =>
      let (a, b) := fraction m e
      let (c, d) := fraction n f
      ofFraction (p != q) (a * c) (b * d)
  | nan, _ | _, nan => nan
  | infinite p, infinite q => infinite (p != q)
  | infinite p, finite q n _ | finite q n _, infinite p => if n = 0 then nan else infinite (p != q)

end PluralMessage.Binary64
