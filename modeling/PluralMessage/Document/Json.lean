import PluralMessage.Document.Step

/-!
JSON documents. Beside the standard the words `NaN`, `Infinity` and `-Infinity` are numbers; a key
that is repeated keeps its first place and has its last value.
-/
namespace PluralMessage.Document.Json

def isSpace (c : Char) : Bool :=
  c == ' ' || c == '\t' || c == '\n' || c == '\r'

def skipSpace (s : List Char) : List Char :=
  s.dropWhile isSpace

def simpleEscape? : Char → Option Char
  | '"' => some '"'
  | '\\' => some '\\'
  | '/' => some '/'
  | 'b' => some '\x08'
  | 'f' => some '\x0c'
  | 'n' => some '\n'
  | 'r' => some '\r'
  | 't' => some '\t'
  | _ => none

/-- The code point of a code unit, joined with the one that follows it when they are a surrogate
pair. -/
def readUnit : Step Nat := fun s => do
  let (high, s) ← readHex 4 s
  if 0xD800 ≤ high && high < 0xDC00 then
    match afterWord? "\\u" s with
    | some tail =>
        let (low, rest) ← readHex 4 tail
        if 0xDC00 ≤ low && low < 0xE000 then
          pure (0x10000 + (high - 0xD800) * 0x400 + (low - 0xDC00), rest)
        else pure (high, s)
    | none => pure (high, s)
  else pure (high, s)

/-- The code points of a string up to its closing quote. Controls must be escaped. -/
def readCodes : (fuel : Nat) → Step (List Nat)
  | 0, _ => .error .malformed
  | _ + 1, '"' :: s => pure ([], s)
  | fuel + 1, '\\' :: 'u' :: s => do
      let (code, s) ← readUnit s
      let (codes, s) ← readCodes fuel s
      pure (code :: codes, s)
  | fuel + 1, '\\' :: e :: s =>
      match simpleEscape? e with
      | some c => do
          let (codes, s) ← readCodes fuel s
          pure (c.toNat :: codes, s)
      | none => .error .malformed
  | fuel + 1, c :: s =>
      if c.toNat < 0x20 || c == '\\' then .error .malformed
      else do
        let (codes, s) ← readCodes fuel s
        pure (c.toNat :: codes, s)
  | _ + 1, [] => .error .malformed

def readString : Step Value := fun s => do
  let (codes, s) ← readCodes (s.length + 1) s
  let text ← readText codes
  pure (text, s)

/-- The digits of a whole part, which has no zeros in front. -/
def readWhole : Step (List Char)
  | '0' :: s => pure (['0'], s)
  | s =>
      let digits := s.takeWhile Char.isDigit
      if digits.isEmpty then .error .malformed else pure (digits, s.dropWhile Char.isDigit)

/-- The digits after a point, or `none` where no digit follows a point. -/
def readFraction : List Char → Option (List Char) × List Char
  | '.' :: s =>
      let digits := s.takeWhile Char.isDigit
      if digits.isEmpty then (none, '.' :: s) else (some digits, s.dropWhile Char.isDigit)
  | s => (none, s)

/-- A power of ten, or `none` where no digits follow the letter. -/
def readPower (s : List Char) : Option Int × List Char :=
  match s with
  | e :: tail =>
      let (negative, rest) := readSign tail
      let digits := rest.takeWhile Char.isDigit
      if (e == 'e' || e == 'E') && !digits.isEmpty then
        (some (signed negative digits), rest.dropWhile Char.isDigit)
      else (none, s)
  | [] => (none, s)

/-- A number after its sign. It is whole when it has neither fraction nor power. -/
def readNumber (negative : Bool) : Step Value := fun s => do
  let (whole, s) ← readWhole s
  let (fraction, s) := readFraction s
  let (power, s) := readPower s
  if fraction.isNone && power.isNone then
    let n ← readNat whole
    pure (.int (if negative then -(n : Int) else n), s)
  else
    pure (.real (Binary64.ofParts negative whole (fraction.getD []) (power.getD 0)), s)

def words : List (String × Value) :=
  [("null", .null), ("true", .bool true), ("false", .bool false), ("NaN", .real .nan),
    ("Infinity", .real (.infinite false)), ("-Infinity", .real (.infinite true))]

def readWord? (s : List Char) : Option (Value × List Char) :=
  words.findSome? fun (word, v) => (afterWord? word s).map (v, ·)

mutual

/-- A value, with no space before it, in which so many levels may nest. -/
def readValue : (fuel depth : Nat) → Step Value
  | 0, _, _ => .error .malformed
  | _ + 1, _, '"' :: s => readString s
  | _ + 1, 0, '[' :: _ => .error (.tooDeep .array)
  | fuel + 1, depth + 1, '[' :: s =>
      match skipSpace s with
      | ']' :: s => pure (.list [], s)
      | s => do
          let (items, s) ← readItems fuel depth s
          pure (.list items, s)
  | _ + 1, 0, '{' :: _ => .error (.tooDeep .object)
  | fuel + 1, depth + 1, '{' :: s =>
      match skipSpace s with
      | '}' :: s => pure (.map [], s)
      | s => do
          let (entries, s) ← readEntries fuel depth s
          pure (.ofEntries entries, s)
  | _ + 1, _, s =>
      match readWord? s with
      | some found => pure found
      | none =>
          match s with
          | '-' :: s => readNumber true s
          | s => readNumber false s

/-- Items up to the closing bracket; there is at least one. -/
def readItems : (fuel depth : Nat) → Step (List Value)
  | 0, _, _ => .error .malformed
  | fuel + 1, depth, s => do
      let (item, s) ← readValue fuel depth s
      match skipSpace s with
      | ']' :: s => pure ([item], s)
      | ',' :: s => do
          let (items, s) ← readItems fuel depth (skipSpace s)
          pure (item :: items, s)
      | _ => .error .malformed

/-- Entries up to the closing brace; there is at least one. -/
def readEntries : (fuel depth : Nat) → Step (List (Value × Value))
  | 0, _, _ => .error .malformed
  | fuel + 1, depth, '"' :: s => do
      let (key, s) ← readString s
      match skipSpace s with
      | ':' :: s => do
          let (item, s) ← readValue fuel depth (skipSpace s)
          match skipSpace s with
          | '}' :: s => pure ([(key, item)], s)
          | ',' :: s => do
              let (entries, s) ← readEntries fuel depth (skipSpace s)
              pure ((key, item) :: entries, s)
          | _ => .error .malformed
      | _ => .error .malformed
  | _ + 1, _, _ => .error .malformed

end

/-- Reads a document in which so many levels may nest. -/
def read (depth : Nat) (document : List Char) : Except ReadError Value := do
  let (v, rest) ← readValue (2 * document.length + 2) depth (skipSpace document)
  if (skipSpace rest).isEmpty then pure v else .error .malformed

end PluralMessage.Document.Json
