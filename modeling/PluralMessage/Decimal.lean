/-!
Whole numbers in decimal. Reading and writing refuse numbers of more than `maxDigits` digits, so
that their cost stays bounded. `ofInt` is the writer without a limit.
-/
namespace PluralMessage.Decimal

/-- The longest run of digits that is read or written as one number; zeros in front count. -/
def maxDigits : Nat := 4300

structure TooLong where
  digits : Nat
deriving DecidableEq, Repr

/-- The beginning of both reports of a number with too many digits. -/
def limitMessage : String :=
  s!"Exceeds the limit ({maxDigits} digits) for integer string conversion"

def adviceMessage : String :=
  "use sys.set_int_max_str_digits() to increase the limit"

def TooLong.message (e : TooLong) : String :=
  s!"{limitMessage}: value has {e.digits} digits; {adviceMessage}"

def tooLargeMessage : String :=
  s!"{limitMessage}; {adviceMessage}"

/-- The number that a run of digits denotes. -/
def value (digits : List Char) : Nat :=
  Nat.ofDigitChars 10 digits 0

def read (digits : List Char) : Except TooLong Nat :=
  if digits.length ≤ maxDigits then .ok (value digits) else .error ⟨digits.length⟩

def ofNat (n : Nat) : List Char :=
  Nat.toDigits 10 n

def ofInt : Int → List Char
  | .ofNat n => ofNat n
  | .negSucc n => '-' :: ofNat (n + 1)

/-- The decimal form, unless it has too many digits. -/
def ofInt? (n : Int) : Option (List Char) :=
  if (ofNat n.natAbs).length ≤ maxDigits then some (ofInt n) else none

theorem value_ofNat (n : Nat) : value (ofNat n) = n :=
  Nat.ofDigitChars_toDigits (by decide) (by decide)

theorem isDigit_of_mem_ofNat {n : Nat} {c : Char} (h : c ∈ ofNat n) : c.isDigit = true :=
  Nat.isDigit_of_mem_toDigits (by decide) (by decide) h

theorem eq_ofInt_of_ofInt? {n : Int} {s : List Char} (h : ofInt? n = some s) : s = ofInt n := by
  unfold ofInt? at h
  split at h
  · exact (Option.some.inj h).symm
  · cases h

end PluralMessage.Decimal
