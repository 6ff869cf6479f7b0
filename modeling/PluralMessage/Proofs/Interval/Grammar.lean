import Mathlib.Data.Int.ConditionallyCompleteOrder
import Mathlib.Data.Rat.Floor
import Mathlib.Order.WithBot
import PluralMessage.Interval.Basic
import PluralMessage.Text.Blank

/-!
The grammar of intervals, as a type of derivations. A derivation holds every choice that the
grammar leaves, blanks between tokens included; it has a text, and a value that is computed from
the decimals that its numerals denote.

    interval := set | range
    set      := "{" number ("," number)* "}"
    range    := ("[" | "]") bound "," bound ("[" | "]")
    bound    := "-Inf" | "+Inf" | "Inf" | "*" | number
    number   := "-"? digit+ ("." digit+)?
-/
namespace PluralMessage.Interval

/-- `digit+` -/
@[ext]
structure Digits where
  chars : List Char
  chars_ne_nil : chars ≠ []
  isDigit : ∀ c ∈ chars, c.isDigit = true

/-- White space between two tokens, if any. -/
@[ext]
structure Blanks where
  chars : List Char
  isBlank : ∀ c ∈ chars, Text.isBlank c = true

@[ext]
structure Numeral where
  negative : Bool
  whole : Digits
  fraction : Option Digits

inductive BoundExpr
  | minusInf
  | plusInf
  | inf
  | star
  | number (n : Numeral)

/-- A further number of a set, with the comma before it. -/
@[ext]
structure Item where
  beforeComma : Blanks
  afterComma : Blanks
  number : Numeral

/-- A derivation of an interval, which starts with its opening delimiter and ends with its closing
one. -/
inductive Expression
  | set (before : Blanks) (first : Numeral) (more : List Item) (after : Blanks)
  | range (opening : Bracket) (beforeLower : Blanks) (lower : BoundExpr) (beforeComma : Blanks)
      (beforeUpper : Blanks) (upper : BoundExpr) (after : Blanks) (closing : Bracket)

namespace Numeral

def sign (n : Numeral) : List Char :=
  if n.negative then ['-'] else []

/-- The point and the digits after it. -/
def point : Option Digits → List Char
  | none => []
  | some digits => '.' :: digits.chars

def text (n : Numeral) : List Char :=
  n.sign ++ n.whole.chars ++ point n.fraction

/-- What digits after the point add. -/
def fractionValue : Option Digits → ℚ
  | none => 0
  | some digits => Decimal.value digits.chars / 10 ^ digits.chars.length

/-- The decimal that the numeral denotes. -/
def decimal (n : Numeral) : ℚ :=
  let size : ℚ := Decimal.value n.whole.chars + fractionValue n.fraction
  if n.negative then -size else size

/-- The nearest whole number toward zero. -/
def truncate (q : ℚ) : Int :=
  if q < 0 then ⌈q⌉ else ⌊q⌋

def value (n : Numeral) : Int :=
  truncate n.decimal

/-- The integer part is not longer than a number may be. -/
def Fits (n : Numeral) : Prop :=
  n.whole.chars.length ≤ Decimal.maxDigits

end Numeral

/-- A whole number among all ends that a range may have. -/
def finiteEnd (n : Int) : WithBot (WithTop Int) :=
  ((n : WithTop Int) : WithBot (WithTop Int))

namespace BoundExpr

def text : BoundExpr → List Char
  | minusInf => ['-', 'I', 'n', 'f']
  | plusInf => ['+', 'I', 'n', 'f']
  | inf => ['I', 'n', 'f']
  | star => ['*']
  | number n => n.text

def value : BoundExpr → Bound
  | minusInf => .negInf
  | plusInf | inf | star => .posInf
  | number n => .finite n.value

/-- The bound as the end of a range below; each infinite one is minus infinity there. -/
def lowerEnd : BoundExpr → WithBot (WithTop Int)
  | minusInf | plusInf | inf | star => ⊥
  | number n => finiteEnd n.value

/-- The bound as the end of a range above. -/
def upperEnd : BoundExpr → WithBot (WithTop Int)
  | minusInf => ⊥
  | plusInf | inf | star => ⊤
  | number n => finiteEnd n.value

def Fits : BoundExpr → Prop
  | number n => n.Fits
  | _ => True

end BoundExpr

def Item.text (item : Item) : List Char :=
  item.beforeComma.chars ++ ',' :: item.afterComma.chars ++ item.number.text

namespace Expression

def text : Expression → List Char
  | set before first more after =>
      '{' :: before.chars ++ first.text ++ more.flatMap Item.text ++ after.chars ++ ['}']
  | range opening beforeLower lower beforeComma beforeUpper upper after closing =>
      opening.char :: beforeLower.chars ++ lower.text ++ beforeComma.chars ++
        ',' :: beforeUpper.chars ++ upper.text ++ after.chars ++ [closing.char]

def value : Expression → Interval
  | set _ first more _ => .set first.value (more.map fun item => item.number.value)
  | range opening _ lower _ _ upper _ closing =>
      .range opening lower.value.finite? upper.value closing

/-- No numeral of the expression has an integer part of too many digits. -/
def Fits : Expression → Prop
  | set _ first more _ => first.Fits ∧ ∀ item ∈ more, item.number.Fits
  | range _ _ lower _ _ upper _ _ => lower.Fits ∧ upper.Fits

/-- What an expression says about a count: it is one of the numbers, or between the two ends, each
of which its delimiter leaves out or not. -/
def Admits (count : Int) : Expression → Prop
  | set _ first more _ => count = first.value ∨ ∃ item ∈ more, count = item.number.value
  | range opening _ lower _ _ upper _ closing =>
      (match opening with
        | .left => lower.lowerEnd ≤ finiteEnd count
        | .right => lower.lowerEnd < finiteEnd count) ∧
      match closing with
        | .left => finiteEnd count < upper.upperEnd
        | .right => finiteEnd count ≤ upper.upperEnd

end Expression
end PluralMessage.Interval
