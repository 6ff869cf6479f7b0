import PluralMessage.Text.HiddenTable

/-!
Quoted texts and bytes. A quoted text stands between single quotes, or between double quotes when it
holds single ones only. A backslash marks the quote, itself, and the characters that are shown by a
letter or by their number.
-/
namespace PluralMessage.Text

/-- The lower-case hexadecimal digits of a number, zeros in front up to a width. -/
def hexDigits (width n : Nat) : List Char :=
  let digits := Nat.toDigits 16 n
  List.replicate (width - digits.length) '0' ++ digits

/-- The quote that leaves the fewest marks to make. -/
def quoteFor (s : List Char) : Char :=
  if s.contains '\'' && !s.contains '"' then '"' else '\''

/-- A character that must be marked in both texts and bytes. -/
def escapeCommon? (quote c : Char) : Option (List Char) :=
  if c = quote || c = '\\' then some ['\\', c]
  else if c = '\t' then some ['\\', 't']
  else if c = '\n' then some ['\\', 'n']
  else if c = '\r' then some ['\\', 'r']
  else none

def escapeByNumber (c : Char) : List Char :=
  let n := c.toNat
  if n < 0x100 then '\\' :: 'x' :: hexDigits 2 n
  else if n < 0x10000 then '\\' :: 'u' :: hexDigits 4 n
  else '\\' :: 'U' :: hexDigits 8 n

def escapeChar (quote c : Char) : List Char :=
  match escapeCommon? quote c with
  | some s => s
  | none => if inSpans hiddenSpans c then escapeByNumber c else [c]

def quote (s : List Char) : List Char :=
  let mark := quoteFor s
  mark :: s.flatMap (escapeChar mark) ++ [mark]

/-- A byte is shown as the ASCII character with its number, if there is a visible one. -/
def escapeByte (quote c : Char) : List Char :=
  match escapeCommon? quote c with
  | some s => s
  | none => if 0x20 ≤ c.toNat && c.toNat < 0x7F then [c] else escapeByNumber c

/-- Quoted bytes carry the letter b in front. -/
def quoteBytes (bytes : List UInt8) : List Char :=
  let s := bytes.map fun b => Char.ofNat b.toNat
  let mark := quoteFor s
  'b' :: mark :: s.flatMap (escapeByte mark) ++ [mark]

end PluralMessage.Text
