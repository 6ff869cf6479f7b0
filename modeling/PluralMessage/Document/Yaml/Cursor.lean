/-!
Places in a YAML document. A line ends at a line feed, at a carriage return with or without a line
feed, or at one of three further signs of Unicode.
-/
namespace PluralMessage.Document.Yaml

def isBreak (c : Char) : Bool :=
  c == '\n' || c == '\r' || c.toNat == 0x85 || c.toNat == 0x2028 || c.toNat == 0x2029

def isSpace (c : Char) : Bool :=
  c == ' '

def isSpaceOrTab (c : Char) : Bool :=
  c == ' ' || c == '\t'

def isByteOrderMark (c : Char) : Bool :=
  c.toNat == 0xFEFF

def atGap : List Char → Bool
  | [] => true
  | c :: _ => isSpaceOrTab c || isBreak c

/-- As `atGap`, but a tab is no gap. -/
def atSpace : List Char → Bool
  | [] => true
  | c :: _ => c == ' ' || isBreak c

def atLineEnd : List Char → Bool
  | [] => true
  | c :: _ => isBreak c

/-- Whether a text starts with a marker: three times a sign, and a gap. -/
def startsMarker (sign : Char) (s : List Char) : Bool :=
  s.take 3 == [sign, sign, sign] && atGap (s.drop 3)

/-- A place: what is left, how many characters were passed, and in which line and column it is. -/
structure Cursor where
  rest : List Char
  passed : Nat
  line : Nat
  column : Nat

namespace Cursor

/-- The start of a document. A byte order mark may stand there. -/
def start (document : List Char) : Cursor :=
  match document with
  | c :: s => if isByteOrderMark c then ⟨s, 1, 0, 0⟩ else ⟨document, 0, 0, 0⟩
  | [] => ⟨[], 0, 0, 0⟩

/-- Passes characters that end no line. A byte order mark takes no column. -/
def pass (cursor : Cursor) (n : Nat) : Cursor :=
  let front := cursor.rest.take n
  { cursor with
    rest := cursor.rest.drop n
    passed := cursor.passed + front.length
    column := cursor.column + front.countP fun c => !isByteOrderMark c }

/-- The characters with a property at the front, none of which ends a line, and the place after
them. -/
def takeWhile (p : Char → Bool) (cursor : Cursor) : List Char × Cursor :=
  let front := cursor.rest.takeWhile p
  (front, cursor.pass front.length)

def passWhile (p : Char → Bool) (cursor : Cursor) : Cursor :=
  (cursor.takeWhile p).2

/-- The line end at a place, and the place after it. The signs of old line ends count as a line
feed. -/
def takeBreak? (cursor : Cursor) : Option (Char × Cursor) :=
  match cursor.rest with
  | '\r' :: '\n' :: s => some ('\n', ⟨s, cursor.passed + 2, cursor.line + 1, 0⟩)
  | c :: s =>
      if isBreak c then
        let sign := if c.toNat == 0x2028 || c.toNat == 0x2029 then c else '\n'
        some (sign, ⟨s, cursor.passed + 1, cursor.line + 1, 0⟩)
      else none
  | [] => none

/-- The line ends at a place, characters before and between them skipped. -/
def takeBreaks (isSkipped : Char → Bool) : (fuel : Nat) → Cursor → List Char × Cursor
  | 0, cursor => ([], cursor)
  | fuel + 1, cursor =>
      let cursor := cursor.passWhile isSkipped
      match cursor.takeBreak? with
      | some (sign, cursor) =>
          let (signs, cursor) := takeBreaks isSkipped fuel cursor
          (sign :: signs, cursor)
      | none => ([], cursor)

def passComment (cursor : Cursor) : Cursor :=
  if cursor.rest.head? == some '#' then cursor.passWhile fun c => !isBreak c else cursor

def atMarker (cursor : Cursor) : Bool :=
  cursor.column == 0 && (startsMarker '-' cursor.rest || startsMarker '.' cursor.rest)

end Cursor

/-- What line ends inside a scalar stand for: a single one for a space, of several all but the
first for themselves. -/
def foldBreaks : List Char → List Char
  | [] => []
  | first :: more =>
      if first != '\n' then first :: more else if more.isEmpty then [' '] else more

end PluralMessage.Document.Yaml
