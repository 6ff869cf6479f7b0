import PluralMessage.Document.Yaml.Stamp

/-!
Tags: what a node of a YAML 1.1 document is. A plain scalar without a tag has the one that its text
tells.
-/
namespace PluralMessage.Document.Yaml

/-- What a node is. The key `<<` merges a mapping into another, the key `=` stands for a default
value. -/
inductive Tag
  | null
  | bool
  | int
  | float
  | binary
  | timestamp
  | text
  | seq
  | map
  | set
  | omap
  | pairs
  | merge
  | default
  | unknown
deriving DecidableEq, Repr

namespace Tag

def standard : List Char :=
  "tag:yaml.org,2002:".toList

def names : List (String × Tag) :=
  [("null", null), ("bool", bool), ("int", int), ("float", float), ("binary", binary),
    ("timestamp", timestamp), ("str", text), ("seq", seq), ("map", map), ("set", set),
    ("omap", omap), ("pairs", pairs), ("merge", merge), ("value", default)]

def ofUri (uri : List Char) : Tag :=
  let name := uri.drop standard.length
  if standard.isPrefixOf uri then (names.lookup (String.ofList name)).getD unknown else unknown

end Tag

def trueWords : List (List Char) :=
  ["yes", "Yes", "YES", "true", "True", "TRUE", "on", "On", "ON"].map String.toList

def falseWords : List (List Char) :=
  ["no", "No", "NO", "false", "False", "FALSE", "off", "Off", "OFF"].map String.toList

def nullWords : List (List Char) :=
  ["", "~", "null", "Null", "NULL"].map String.toList

def signWords : List (List Char) :=
  ["!", "&", "*"].map String.toList

def splitSign : List Char → Bool × List Char
  | '-' :: s => (true, s)
  | '+' :: s => (false, s)
  | s => (false, s)

def isDigitOrLowLine (c : Char) : Bool :=
  c.isDigit || c == '_'

def splitColons : List Char → List (List Char)
  | [] => [[]]
  | c :: s =>
      match splitColons s with
      | [] => [[c]]
      | part :: parts => if c = ':' then [] :: part :: parts else (c :: part) :: parts

/-- A part of a number in base sixty after the first: one digit, or two up to 59. -/
def isSixtieth : List Char → Bool
  | [c] => c.isDigit
  | [c, d] => '0' ≤ c && c ≤ '5' && d.isDigit
  | _ => false

/-- Digits that start with one, low lines among the others. -/
def isNumeral : List Char → Bool
  | c :: s => c.isDigit && s.all isDigitOrLowLine
  | [] => false

/-- A whole number without its sign: in base two, eight, sixteen, ten or sixty. -/
def isWhole : List Char → Bool
  | ['0'] => true
  | '0' :: 'b' :: s => !s.isEmpty && s.all fun c => c == '0' || c == '1' || c == '_'
  | '0' :: 'x' :: s => !s.isEmpty && s.all fun c => c.isDigit || ('a' ≤ c && c ≤ 'f') ||
      ('A' ≤ c && c ≤ 'F') || c == '_'
  | '0' :: s => s.all fun c => ('0' ≤ c && c ≤ '7') || c == '_'
  | s =>
      match splitColons s with
      | first :: parts => isNumeral first && parts.all isSixtieth
      | [] => false

/-- A power of ten after its letter, or nothing. The power must have a sign. -/
def isPower : List Char → Bool
  | [] => true
  | e :: sign :: digits =>
      (e == 'e' || e == 'E') && (sign == '+' || sign == '-') && !digits.isEmpty &&
        digits.all Char.isDigit
  | _ => false

/-- A real in decimal without its sign; there is a digit before the point. -/
def isDecimal (s : List Char) : Bool :=
  match s.dropWhile isDigitOrLowLine with
  | '.' :: rest =>
      isNumeral (s.takeWhile isDigitOrLowLine) && isPower (rest.dropWhile isDigitOrLowLine)
  | _ => false

def isFraction : List Char → Bool
  | '.' :: s => isNumeral (s.takeWhile isDigitOrLowLine) && isPower (s.dropWhile isDigitOrLowLine)
  | _ => false

/-- A real in base sixty without its sign: the last part has a point. -/
def isSexagesimal (s : List Char) : Bool :=
  let whole := s.takeWhile (· != '.')
  match s.drop whole.length, splitColons whole with
  | '.' :: fraction, first :: part :: parts =>
      isNumeral first && (part :: parts).all isSixtieth && fraction.all isDigitOrLowLine
  | _, _ => false

/-- A real: in decimal or in base sixty, infinite, or not a number. -/
def isReal (s : List Char) : Bool :=
  let (_, size) := splitSign s
  isDecimal size || isFraction s || isSexagesimal size ||
    ([".inf", ".Inf", ".INF"].map String.toList).contains size ||
    ([".nan", ".NaN", ".NAN"].map String.toList).contains s

/-- A date of ten characters, or a date with a time. -/
def isTimestamp (s : List Char) : Bool :=
  (Stamp.ofText? s).any fun stamp => stamp.clock.isSome || !stamp.isShort

def withoutLastBreak (s : List Char) : List Char :=
  if 1 < s.length && s.getLast? == some '\n' then s.dropLast else s

def Tag.ofText (text : List Char) : Tag :=
  let s := withoutLastBreak text
  if nullWords.contains s then null
  else if trueWords.contains s || falseWords.contains s then bool
  else if isReal s then float
  else if isWhole (splitSign s).2 then int
  else if isTimestamp s then timestamp
  else if s = ['<', '<'] then merge
  else if s = ['='] then default
  else if signWords.contains s then unknown
  else .text

end PluralMessage.Document.Yaml
