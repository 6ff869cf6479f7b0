import PluralMessage.Decimal
import PluralMessage.Text.Blank
import PluralMessage.Text.DigitTable

/-!
Whole numbers as they are typed: digits of any script, a sign, blanks at both ends, and single low
lines between digits.
-/
namespace PluralMessage.Decimal

/-- Blanks that may surround a number; the four information separators may not. -/
def isPadding (c : Char) : Bool :=
  Text.isBlank c && !(0x1C ≤ c.toNat && c.toNat ≤ 0x1F)

def trimPadding (s : List Char) : List Char :=
  ((s.dropWhile isPadding).reverse.dropWhile isPadding).reverse

/-- The values of digits, between two of which a low line may stand. -/
def digitValues? : List Char → Option (List Nat)
  | [] => some []
  | [c] => (Text.digitValue? c).map ([·])
  | c :: '_' :: s =>
      match Text.digitValue? c, s with
      | some _, [] => none
      | some d, s => (digitValues? s).map (d :: ·)
      | none, _ => none
  | c :: s =>
      match Text.digitValue? c with
      | some d => (digitValues? s).map (d :: ·)
      | none => none

/-- The number that a text denotes, if it is one and does not have too many digits. -/
def ofTyped? (s : List Char) : Option Int :=
  let (negative, digits) := match trimPadding s with
    | '-' :: s => (true, s)
    | '+' :: s => (false, s)
    | s => (false, s)
  match digitValues? digits with
  | none | some [] => none
  | some values =>
      if maxDigits < values.length then none
      else
        let n : Nat := values.foldl (fun n d => 10 * n + d) 0
        some (if negative then -(n : Int) else n)

end PluralMessage.Decimal
