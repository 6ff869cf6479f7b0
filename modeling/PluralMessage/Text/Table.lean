/-!
The two shapes of a character table: spans of characters that share a property, and shifts that map
the characters of a span, or every second one of them, to characters at a fixed distance.
-/
namespace PluralMessage.Text

structure Span where
  first : Nat
  last : Nat

def Span.covers (span : Span) (n : Nat) : Bool :=
  span.first ≤ n && n ≤ span.last

def inSpans (spans : List Span) (c : Char) : Bool :=
  spans.any fun span => span.covers c.toNat

structure Shift where
  first : Nat
  last : Nat
  step : Nat
  offset : Int

def Shift.covers (shift : Shift) (n : Nat) : Bool :=
  shift.first ≤ n && n ≤ shift.last && (n - shift.first) % shift.step == 0

/-- The character that the first fitting shift leads to. -/
def shiftBy? (shifts : List Shift) (c : Char) : Option Char :=
  (shifts.find? fun shift => shift.covers c.toNat).map fun shift =>
    Char.ofNat ((c.toNat : Int) + shift.offset).toNat

end PluralMessage.Text
