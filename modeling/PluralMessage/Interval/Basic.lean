import PluralMessage.Decimal

/-!
Intervals, the conditions that an explicit rule puts on a count: a finite set of numbers, or a range
between two bounds. A bracket that faces its bound includes it and one that turns away leaves it
out. A range has no bound above every number on its left, and a set is never empty, so both are left
out of the type.
-/
namespace PluralMessage

inductive Bracket
  | left
  | right
deriving DecidableEq, Repr

namespace Bracket

def char : Bracket → Char
  | left => '['
  | right => ']'

/-- At the start of a range, a bracket includes the bound when it opens to the right. -/
def includesLower : Bracket → Bool
  | left => true
  | right => false

/-- At the end of a range, a bracket includes the bound when it closes to the left. -/
def includesUpper : Bracket → Bool
  | left => false
  | right => true

end Bracket

/-- The end of a range: a number, or beyond all numbers on one side. -/
inductive Bound
  | negInf
  | finite (n : Int)
  | posInf
deriving DecidableEq, Repr

namespace Bound

def print : Bound → List Char
  | negInf => ['-', 'I', 'n', 'f']
  | finite n => Decimal.ofInt n
  | posInf => ['+', 'I', 'n', 'f']

/-- A lower end; any infinite bound leaves the range open below. -/
def finite? : Bound → Option Int
  | finite n => some n
  | _ => none

/-- The bound as a lower end, where `none` is open below. -/
def ofLower : Option Int → Bound
  | none => negInf
  | some n => finite n

end Bound

/-- What a rule says about counts. In a range, no lower end means that it is open below. -/
inductive Interval
  | set (first : Int) (more : List Int)
  | range (opening : Bracket) (lower : Option Int) (upper : Bound) (closing : Bracket)
deriving DecidableEq, Repr

namespace Interval

def aboveLower (opening : Bracket) (lower : Option Int) (count : Int) : Bool :=
  match lower with
  | none => true
  | some n => if opening.includesLower then decide (n ≤ count) else decide (n < count)

def belowUpper (upper : Bound) (closing : Bracket) (count : Int) : Bool :=
  match upper with
  | .negInf => false
  | .finite n => if closing.includesUpper then decide (count ≤ n) else decide (count < n)
  | .posInf => true

def contains : Interval → Int → Bool
  | set first more, count => (first :: more).contains count
  | range opening lower upper closing, count =>
      aboveLower opening lower count && belowUpper upper closing count

theorem aboveLower_some {opening : Bracket} {n count : Int} :
    aboveLower opening (some n) count = true ↔
      n < count ∨ n = count ∧ opening.includesLower = true := by
  cases opening with
  | left =>
      simp only [aboveLower, Bracket.includesLower, ↓reduceIte, decide_eq_true_eq, and_true]
      omega
  | right => simp [aboveLower, Bracket.includesLower]

theorem belowUpper_finite {closing : Bracket} {n count : Int} :
    belowUpper (.finite n) closing count = true ↔
      count < n ∨ count = n ∧ closing.includesUpper = true := by
  cases closing with
  | left => simp [belowUpper, Bracket.includesUpper]
  | right =>
      simp only [belowUpper, Bracket.includesUpper, ↓reduceIte, decide_eq_true_eq, and_true]
      omega

theorem contains_set {first count : Int} {more : List Int} :
    (set first more).contains count = true ↔ count ∈ first :: more := by
  simp [contains]

theorem contains_range {opening closing : Bracket} {lower : Option Int} {upper : Bound}
    {count : Int} :
    (range opening lower upper closing).contains count = true ↔
      aboveLower opening lower count = true ∧ belowUpper upper closing count = true := by
  simp [contains]

/-- Numbers, each after a comma. -/
def printMore : List Int → List Char
  | [] => []
  | n :: more => ',' :: Decimal.ofInt n ++ printMore more

/-- The written form without blanks. -/
def print : Interval → List Char
  | set first more => '{' :: Decimal.ofInt first ++ printMore more ++ ['}']
  | range opening lower upper closing =>
      opening.char :: (Bound.ofLower lower).print ++ ',' :: upper.print ++ [closing.char]

end Interval
end PluralMessage
