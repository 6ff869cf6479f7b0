import PluralMessage.Text.FoldTable
import PluralMessage.Text.LowerTable
import PluralMessage.Text.UpperTable
import PluralMessage.Text.WordTable

/-!
Letter case of texts. Upper and lower case are the full mappings, which may lengthen a text; two
characters match without regard to case when they have the same representative.
-/
namespace PluralMessage.Text

def isWord (c : Char) : Bool :=
  inSpans wordSpans c

def upperChar (c : Char) : List Char :=
  match upperExpansions.lookup c.toNat with
  | some codes => codes.map Char.ofNat
  | none => [(shiftBy? upperShifts c).getD c]

def upper (s : List Char) : List Char :=
  s.flatMap upperChar

def capitalize : List Char → List Char
  | [] => []
  | c :: s => upperChar c ++ s

/-- The first word character in upper case, wherever it stands. -/
def capitalizeFirstWord : List Char → List Char
  | [] => []
  | c :: s => if isWord c then upperChar c ++ s else c :: capitalizeFirstWord s

/-- Whether a text starts, ignorable characters aside, with a character that has case. -/
def startsCased (s : List Char) : Bool :=
  match s.dropWhile (inSpans caseIgnorableSpans) with
  | c :: _ => inSpans casedSpans c
  | [] => false

/-- The lower case of a character between two texts, the one before it reversed. A capital sigma at
the end of a word becomes a final one; a capital I with a dot keeps its dot as a combining mark. -/
def lowerChar (before : List Char) (c : Char) (after : List Char) : List Char :=
  if c.toNat = 0x3A3 then
    if startsCased before && !startsCased after then [Char.ofNat 0x3C2] else [Char.ofNat 0x3C3]
  else if c.toNat = 0x130 then ['i', Char.ofNat 0x307]
  else [(shiftBy? lowerShifts c).getD c]

/-- The lower case of the second text, which follows the first; the first is reversed. -/
def lowerAfter (before : List Char) : List Char → List Char
  | [] => []
  | c :: s => lowerChar before c s ++ lowerAfter (c :: before) s

def lower (s : List Char) : List Char :=
  lowerAfter [] s

/-- The representative of the characters that match a character without regard to case. -/
def foldChar (c : Char) : Char :=
  (shiftBy? foldShifts c).getD c

/-- Whether two characters match without regard to case. -/
def sameLetter (a b : Char) : Bool :=
  foldChar a == foldChar b

end PluralMessage.Text
