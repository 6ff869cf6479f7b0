/-!
Blank characters, and the cuts that are made at them: trimming a text at both ends, and taking the
first word of a text off the rest.
-/
namespace PluralMessage.Text

/-- The characters that Unicode counts as white space, with the four ASCII information
separators. -/
def isBlank (c : Char) : Bool :=
  let n := c.toNat
  (9 ≤ n && n ≤ 13) || (0x1C ≤ n && n ≤ 0x20) || n == 0x85 || n == 0xA0 || n == 0x1680 ||
    (0x2000 ≤ n && n ≤ 0x200A) || n == 0x2028 || n == 0x2029 || n == 0x202F || n == 0x205F ||
    n == 0x3000

def trimLeft (s : List Char) : List Char :=
  s.dropWhile isBlank

def trimRight (s : List Char) : List Char :=
  (s.reverse.dropWhile isBlank).reverse

def trim (s : List Char) : List Char :=
  trimRight (trimLeft s)

/-- A string with no character, or with blanks only. -/
def isBlankString (s : String) : Bool :=
  (trim s.toList).isEmpty

def firstWord (s : List Char) : List Char :=
  s.takeWhile fun c => !isBlank c

def afterFirstWord (s : List Char) : List Char :=
  trimLeft (s.dropWhile fun c => !isBlank c)

theorem trimLeft_length_le (s : List Char) : (trimLeft s).length ≤ s.length :=
  (List.dropWhile_sublist _).length_le

end PluralMessage.Text
