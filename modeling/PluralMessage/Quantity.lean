import PluralMessage.Binary64.Basic

/-!
Quantities: what numbers of all kinds stand for, in one exact order.
-/
namespace PluralMessage

/-- A fraction with a positive denominator, or beyond all fractions on one side. -/
inductive Quantity
  | negInf
  | fraction (num : Int) (den : Nat)
  | posInf

namespace Quantity

def ofInt (n : Int) : Quantity :=
  fraction n 1

/-- The quantity of a real, unless it is no number. -/
def ofReal? : Binary64 → Option Quantity
  | .nan => none
  | .infinite negative => some (if negative then negInf else posInf)
  | .finite negative mantissa exponent =>
      let (num, den) := Binary64.scale mantissa 1 2 exponent
      some (fraction (if negative then -(num : Int) else num) den)

def less : Quantity → Quantity → Bool
  | negInf, negInf => false
  | negInf, _ => true
  | _, negInf => false
  | posInf, _ => false
  | _, posInf => true
  | fraction a b, fraction c d => a * d < c * b

/-- Neither is less than the other. -/
def same (x y : Quantity) : Bool :=
  !less x y && !less y x

end Quantity
end PluralMessage
