import PluralMessage.Document.Step

/-!
Strings of TOML. One between single signs stands on one line, one between triple signs may go over
several. In a basic string, between double quotes, a backslash escapes; in a literal one, nothing
does.
-/
namespace PluralMessage.Document.Toml

def isSpace (c : Char) : Bool :=
  c == ' ' || c == '\t'

def skipSpace (s : List Char) : List Char :=
  s.dropWhile isSpace

def skipGap (s : List Char) : List Char :=
  s.dropWhile fun c => isSpace c || c == '\n'

def isControl (c : Char) : Bool :=
  (c.toNat < 0x20 && c != '\t') || c.toNat == 0x7F

/-- Controls that a string over several lines may not hold. -/
def isControlInLine (c : Char) : Bool :=
  isControl c && c != '\n'

def simpleEscape? : Char → Option Char
  | 'b' => some '\x08'
  | 't' => some '\t'
  | 'n' => some '\n'
  | 'f' => some '\x0c'
  | 'r' => some '\r'
  | '"' => some '"'
  | '\\' => some '\\'
  | _ => none

def readCharByNumber (width : Nat) : Step Char := fun s => do
  let (n, s) ← readHex width s
  if n.isValidChar then pure (Char.ofNat n, s) else .error .malformed

def readEscape : Step Char
  | 'u' :: s => readCharByNumber 4 s
  | 'U' :: s => readCharByNumber 8 s
  | c :: s =>
      match simpleEscape? c with
      | some escaped => pure (escaped, s)
      | none => .error .malformed
  | [] => .error .malformed

def readBasic : (fuel : Nat) → Step (List Char)
  | 0, _ => .error .malformed
  | _ + 1, '"' :: s => pure ([], s)
  | fuel + 1, '\\' :: s => do
      let (c, s) ← readEscape s
      let (cs, s) ← readBasic fuel s
      pure (c :: cs, s)
  | fuel + 1, c :: s =>
      if isControl c then .error .malformed
      else do
        let (cs, s) ← readBasic fuel s
        pure (c :: cs, s)
  | _ + 1, [] => .error .malformed

def readLiteral : Step (List Char) := fun s =>
  let chars := s.takeWhile (· != '\'')
  match s.dropWhile (· != '\'') with
  | '\'' :: rest => if chars.any isControl then .error .malformed else pure (chars, rest)
  | _ => .error .malformed

/-- The text after a backslash at the end of a line: the line end and all gaps after it are left
out. -/
def afterLineEnd? (s : List Char) : Option (List Char) :=
  match skipSpace s with
  | '\n' :: s => some (skipGap s)
  | _ => none

/-- The characters of a basic string up to its three closing quotes. -/
def readBasicLines : (fuel : Nat) → Step (List Char)
  | 0, _ => .error .malformed
  | _ + 1, '"' :: '"' :: '"' :: s => pure ([], s)
  | fuel + 1, '\\' :: s =>
      match afterLineEnd? s with
      | some s => readBasicLines fuel s
      | none => do
          let (c, s) ← readEscape s
          let (cs, s) ← readBasicLines fuel s
          pure (c :: cs, s)
  | fuel + 1, c :: s =>
      if isControlInLine c then .error .malformed
      else do
        let (cs, s) ← readBasicLines fuel s
        pure (c :: cs, s)
  | _ + 1, [] => .error .malformed

/-- The characters of a literal string up to its three closing quotes. -/
def readLiteralLines : Step (List Char)
  | '\'' :: '\'' :: '\'' :: s => pure ([], s)
  | c :: s =>
      if isControlInLine c then .error .malformed
      else do
        let (cs, s) ← readLiteralLines s
        pure (c :: cs, s)
  | [] => .error .malformed

/-- Up to two more quotes after the closing ones belong to a string. -/
def readMoreQuotes (quote : Char) (chars : List Char) : Step (List Char) := fun s =>
  let more := (s.take 2).takeWhile (· == quote)
  pure (chars ++ more, s.drop more.length)

/-- A line end right after three opening quotes is left out. -/
def skipFirstLineEnd : List Char → List Char
  | '\n' :: s => s
  | s => s

def readLinesIn (quote : Char) : Step (List Char) := fun s => do
  let s := skipFirstLineEnd s
  let (chars, s) ← if quote = '"' then readBasicLines (s.length + 1) s else readLiteralLines s
  readMoreQuotes quote chars s

def readLineIn (quote : Char) : Step (List Char) := fun s =>
  if quote = '"' then readBasic (s.length + 1) s else readLiteral s

def readString (quote : Char) : Step String := fun s => do
  let (chars, s) ← match afterChars? [quote, quote] s with
    | some s => readLinesIn quote s
    | none => readLineIn quote s
  pure (String.ofList chars, s)

end PluralMessage.Document.Toml
